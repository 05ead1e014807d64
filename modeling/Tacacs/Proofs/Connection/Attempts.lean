/-
# `Tacacs.Proofs.Connection.Attempts` — CHAP attempts that share a source

Two things make an attempt good for the server that examines it.  Its identifier is not that of
another attempt of the same time, and the answer that the server computes for itself is the one
it reads.

The identifiers are a matter of all connections together.  The source changes with an attempt
and with nothing else that happens to any of them (`identifiers_apply`), so that the attempts,
in the order in which they draw, are numbered from the first identifier on, modulo 256
(`Numbers`), and no number comes back within 256 of them.  What becomes of an attempt has no
part in this.

What the server reads is a matter of one connection and one session.  The runs known so far
begin with a fresh connection and go on by its own moves; here the source in the record of a
connection has changed each time it moves again, as others have drawn meanwhile.  `Trail` is a
run of this kind:

    begins    a fresh connection
    lends     the same connection, with the source as others have left it
    moves     what the next move makes of it

The records of a session (`recorded_of_trail`) and its first packet (`opens_of_trail`) are kept
along a trail as they are along a run, for neither looks at the source.  Every connection of a
client has a trail (`traced_after`), and where there is one connection only its trail is a run
of its own (`gathered_alone`).
-/
import Tacacs.Client
import Tacacs.Proofs.Connection.FirstPacket
import Tacacs.Proofs.Connection.Untouched

namespace Tacacs

/-! ## The server's examination -/

/-- The examination of what an attempt has sent, by one who knows the password: the first octet
is the identifier, the next sixteen are the challenge, and the rest has to be the digest. -/
def Chap.verifies (password : Octets) : Octets → Bool
  | [] => false
  | identifier :: octets =>
    octets.drop 16 == Digest.Md5.digest (identifier :: password ++ octets.take 16)

theorem Chap.verifies_data (identifier : UInt8) (password : Octets) (challenge : Chap.Challenge) :
    Chap.verifies password (Chap.data identifier password challenge) = true := by
  rw [Chap.data, List.cons_append, Chap.verifies, List.take_left' challenge.length_eq,
    List.drop_left' challenge.length_eq]
  exact beq_self_eq_true _

/-- A CHAP attempt: whose it is, and what it draws. -/
structure Attempt where
  connection : Nat
  session : Nat
  user : String
  password : String
  challenge : Chap.Challenge
  identifier : UInt8

/-- The data of an attempt, as a server needs them. -/
structure Answers (a : Attempt) (data : Octets) : Prop where
  length : data.length = 33
  identifier : data.take 1 = [a.identifier]
  challenge : (data.drop 1).take 16 = a.challenge.octets
  response : data.drop 17
    = Digest.Md5.digest (a.identifier :: Text.Utf8.encode a.password ++ a.challenge.octets)
  verified : Chap.verifies (Text.Utf8.encode a.password) data = true

theorem answers_data (a : Attempt) :
    Answers a (Chap.data a.identifier (Text.Utf8.encode a.password) a.challenge) where
  length := Chap.length_data _ _ _
  identifier := rfl
  challenge := by
    rw [Chap.data, List.cons_append, List.drop_succ_cons, List.drop_zero,
      List.take_left' a.challenge.length_eq]
  response := by
    rw [Chap.data, List.cons_append, List.drop_succ_cons, List.drop_left' a.challenge.length_eq,
      Chap.response]
  verified := Chap.verifies_data _ _ _

/-! ## Runs of a client -/

/-- A move of a connection, and the connection as the move finds it. -/
structure Entry where
  number : Nat
  before : Connection
  move : Move

/-- The attempt that is made with a move: a session that was not called yet is called to log in
by CHAP. -/
def Entry.attempt? (e : Entry) : Option Attempt :=
  match e.move with
  | .callSession n (.chap user password challenge) =>
    match e.before.sessions[n]?.map Session.phase with
    | some .idle => some ⟨e.number, n, user, password, challenge, e.before.identifiers.draw.1⟩
    | _ => none
  | _ => none

/-- What is picked from the entries, in order. -/
def gathered {α : Type} (pick : Connection → Move → Option α) (es : List Entry) : List α :=
  es.filterMap fun e => pick e.before e.move

namespace Client

/-- A client whose first identifier is this one. -/
def start (first : UInt8) : Client :=
  { identifiers := ⟨first⟩ }

/-- Where a run leads. -/
def after (c : Client) (ms : List ClientMove) : Client :=
  ms.foldl apply c

/-- What a move of a client is to one of its connections. -/
def entryOf? (c : Client) : ClientMove → Option Entry
  | .connect _ => none
  | .move k m => (c.connection? k).map fun x => ⟨k, x, m⟩

/-- The moves of connections in a run, with what they find. -/
def entries (c : Client) : List ClientMove → List Entry
  | [] => []
  | m :: ms => (c.entryOf? m).toList ++ (c.apply m).entries ms

/-- The attempts of a run, in the order in which they draw. -/
def attempts (c : Client) (ms : List ClientMove) : List Attempt :=
  (c.entries ms).filterMap Entry.attempt?

/-- The moves of one connection. -/
def trail (c : Client) (k : Nat) (ms : List ClientMove) : List Entry :=
  (c.entries ms).filter fun e => e.number == k

/-- The packets that a session of a connection begins to write in a run. -/
def written (c : Client) (k n : Nat) (ms : List ClientMove) : List Sending :=
  gathered (Connection.writes? n) (c.trail k ms)

/-- The octets that the stream of a connection takes from a session in a run. -/
def sentBy (c : Client) (k n : Nat) (ms : List ClientMove) : Octets :=
  (gathered (Connection.sends? n) (c.trail k ms)).flatten

variable {c : Client} {m : ClientMove} {ms : List ClientMove} {first : UInt8} {k : Nat}
  {a : Attempt} {e : Entry} {es : List Entry} {x : Connection}

theorem after_concat (c : Client) (ms : List ClientMove) (m : ClientMove) :
    c.after (ms ++ [m]) = (c.after ms).apply m := by
  rw [after, after, List.foldl_append]
  rfl

theorem entries_concat (c : Client) (ms : List ClientMove) (m : ClientMove) :
    c.entries (ms ++ [m]) = c.entries ms ++ ((c.after ms).entryOf? m).toList := by
  induction ms generalizing c with
  | nil => exact List.append_nil _
  | cons m' ms ih =>
    show (c.entryOf? m').toList ++ (c.apply m').entries (ms ++ [m]) = _
    rw [ih, ← List.append_assoc]
    rfl

theorem attempts_concat (c : Client) (ms : List ClientMove) (m : ClientMove) :
    c.attempts (ms ++ [m])
      = c.attempts ms ++ ((c.after ms).entryOf? m).toList.filterMap Entry.attempt? := by
  rw [attempts, attempts, entries_concat, List.filterMap_append]

theorem trail_concat (c : Client) (k : Nat) (ms : List ClientMove) (m : ClientMove) :
    c.trail k (ms ++ [m])
      = c.trail k ms ++ ((c.after ms).entryOf? m).toList.filter fun e => e.number == k := by
  rw [trail, trail, entries_concat, List.filter_append]

/-! ## The source -/

theorem attempt?_eq_some (h : e.attempt? = some a) :
    a.connection = e.number ∧
      e.move = .callSession a.session (.chap a.user a.password a.challenge) ∧
      a.identifier = e.before.identifiers.next ∧
      ∃ s, e.before.sessions[a.session]? = some s ∧ s.phase = .idle := by
  unfold Entry.attempt? at h
  split at h
  next n user password challenge hmove =>
    split at h
    next hphase =>
      obtain rfl := Option.some.inj h
      exact ⟨rfl, hmove, rfl, Option.map_eq_some_iff.1 hphase⟩
    next => cases h
  next => cases h

theorem identifiers_of_step (agent : Agent) :
    (x.apply (.step agent)).1.identifiers = x.identifiers := by
  cases hstep : x.step agent with
  | none => rw [Connection.apply_step_of_none hstep]
  | some p =>
    obtain ⟨x', es⟩ := p
    rw [Connection.apply_step_of_some hstep]
    cases agent with
    | dispatcher =>
      obtain ⟨_, _, _, _, _, rfl⟩ := Connection.byDispatcher_step hstep
      rfl
    | session n =>
      obtain ⟨_, _, _, _, _, rfl⟩ := Connection.bySession_step hstep
      rfl
    | closing n =>
      obtain ⟨_, _, _, _, _, _, rfl⟩ := Connection.byClosing_step hstep
      rfl

theorem identifiers_of_drop (agent : Agent) :
    (x.apply (.drop agent)).1.identifiers = x.identifiers := by
  have h := Connection.dropAgent_happening x agent
  show (x.dropAgent agent).1.identifiers = _
  generalize (x.dropAgent agent).1 = x', (x.dropAgent agent).2 = es at h
  cases h <;> rfl

theorem identifiers_of_start (x : Connection) :
    (x.apply .startDispatcher).1.identifiers = x.identifiers := by
  dsimp only [Connection.apply]
  split <;> rfl

theorem identifiers_of_call {n : Nat} {s : Session} (call : Call) (hn : x.sessions[n]? = some s)
    (hidle : s.phase = .idle) :
    (x.apply (.callSession n call)).1.identifiers = (call.draw x.identifiers).2 := by
  show (x.startCall n call).1.identifiers = _
  obtain ⟨id, context, answers, phase⟩ := s
  obtain rfl : phase = .idle := hidle
  simp only [Connection.startCall, hn]
  split <;> rfl

theorem apply_call_again {n : Nat} (call : Call)
    (h : ∀ s, x.sessions[n]? = some s → s.phase ≠ .idle) :
    x.apply (.callSession n call) = (x, []) := by
  show x.startCall n call = _
  unfold Connection.startCall
  split
  next hn => exact absurd rfl (h _ hn)
  next => rfl

/-- **The source changes with an attempt, and with nothing else.** -/
theorem identifiers_apply (k : Nat) (x : Connection) (m : Move) :
    (x.apply m).1.identifiers
      = if (Entry.mk k x m).attempt?.isSome then x.identifiers.draw.2 else x.identifiers := by
  cases m with
  | callSession n call =>
    by_cases hcalled : ∀ s, x.sessions[n]? = some s → s.phase ≠ .idle
    · rw [apply_call_again call hcalled, if_neg]
      rw [Option.isSome_iff_exists]
      rintro ⟨a, ha⟩
      obtain ⟨-, hmove, -, s, hn, hidle⟩ := attempt?_eq_some ha
      obtain ⟨rfl, -⟩ := Move.callSession.inj hmove
      exact hcalled s hn hidle
    · obtain ⟨s, hs⟩ := not_forall.1 hcalled
      obtain ⟨hn, hidle⟩ := Classical.not_imp.1 hs
      have hidle : s.phase = .idle := Classical.not_not.1 hidle
      rw [identifiers_of_call call hn hidle]
      cases call with
      | chap user password challenge =>
        have hattempt :
            (Entry.mk k x (.callSession n (.chap user password challenge))).attempt?.isSome
              = true := by
          simp only [Entry.attempt?, hn, hidle, Option.map_some, Option.isSome_some]
        rw [if_pos hattempt]
        rfl
      | _ => rfl
  | step agent => exact identifiers_of_step agent
  | drop agent => exact identifiers_of_drop agent
  | startDispatcher => exact identifiers_of_start x
  | _ => rfl

/-- The attempts are numbered from the first identifier on, and so is the next one. -/
structure Numbers (first : UInt8) (as : List Attempt) (next : UInt8) : Prop where
  past : ∀ i a, as[i]? = some a → a.identifier.toNat = (first.toNat + i) % 256
  next : next.toNat = (first.toNat + as.length) % 256

theorem numbers_concat {as : List Attempt} {next : UInt8} (h : Numbers first as next)
    (ha : a.identifier = next) : Numbers first (as ++ [a]) (next + 1) where
  past := by
    intro i b hb
    rcases getElem?_concat hb with hb | ⟨rfl, rfl⟩
    · exact h.past i b hb
    · rw [ha, h.next]
  next := by
    rw [UInt8.toNat_add, h.next, List.length_append]
    show ((first.toNat + as.length) % 256 + 1) % 256 = (first.toNat + (as.length + 1)) % 256
    omega

theorem numbers_apply {as : List Attempt} (h : Numbers first as c.identifiers.next)
    (m : ClientMove) :
    Numbers first (as ++ (c.entryOf? m).toList.filterMap Entry.attempt?)
      (c.apply m).identifiers.next := by
  cases m with
  | connect config =>
    show Numbers first (as ++ []) c.identifiers.next
    rwa [List.append_nil]
  | move k m =>
    rw [entryOf?, apply]
    cases hx : c.connection? k with
    | none =>
      show Numbers first (as ++ []) c.identifiers.next
      rwa [List.append_nil]
    | some x =>
      have hlent : x.identifiers = c.identifiers := by
        obtain ⟨x', -, rfl⟩ := Option.map_eq_some_iff.1 hx
        rfl
      have hsource := identifiers_apply k x m
      show Numbers first (as ++ [Entry.mk k x m].filterMap Entry.attempt?)
        (x.apply m).1.identifiers.next
      rw [hsource, hlent]
      cases hattempt : (Entry.mk k x m).attempt? with
      | none =>
        rw [List.filterMap_cons_none hattempt, List.filterMap_nil, List.append_nil]
        exact h
      | some a =>
        obtain ⟨-, -, hidentifier, -⟩ := attempt?_eq_some hattempt
        rw [List.filterMap_cons_some hattempt, List.filterMap_nil]
        exact numbers_concat h (hidentifier.trans (congrArg _ hlent))

/-- **The attempts of a run have the numbers from the first on**, modulo 256. -/
theorem numbers_after (first : UInt8) (ms : List ClientMove) :
    Numbers first ((start first).attempts ms) ((start first).after ms).identifiers.next := by
  induction ms using List.reverseRecOn with
  | nil =>
    refine ⟨?_, ?_⟩
    · intro i a ha
      cases ha
    · exact (Nat.mod_eq_of_lt first.toNat_lt).symm
  | append_singleton ms m ih =>
    rw [attempts_concat, after_concat]
    exact numbers_apply ih m

/-- No number comes back within 256 attempts. -/
theorem Numbers.distinct {as : List Attempt} {next : UInt8} (h : Numbers first as next) (i : Nat) :
    ((as.drop i).take 256).Pairwise fun a b => a.identifier ≠ b.identifier := by
  rw [List.pairwise_iff_getElem]
  intro j l hj hl hlt hsame
  rw [List.length_take] at hl
  have hnumber {j : Nat} (hj : j < ((as.drop i).take 256).length) :
      (((as.drop i).take 256)[j]).identifier.toNat = (first.toNat + (i + j)) % 256 := by
    refine h.past (i + j) _ ?_
    rw [List.length_take, List.length_drop] at hj
    rw [List.getElem_take, List.getElem_drop, List.getElem?_eq_getElem]
  have hnumbers := congrArg UInt8.toNat hsame
  rw [hnumber, hnumber] at hnumbers
  omega

/-! ## The trail of a connection -/

/-- A run of a connection whose source changes between its moves. -/
inductive Trail (config : Config) (k : Nat) : List Entry → Connection → Prop
  | begins (identifiers : Chap.IdentifierSequence) :
      Trail config k [] (Connection.fresh config identifiers)
  | lends {es : List Entry} {x : Connection} (identifiers : Chap.IdentifierSequence) :
      Trail config k es x → Trail config k es { x with identifiers }
  | moves {es : List Entry} {x : Connection} (m : Move) :
      Trail config k es x → Trail config k (es ++ [⟨k, x, m⟩]) (x.apply m).1

variable {config : Config} {n : Nat}

theorem config_of_trail (h : Trail config k es x) : x.config = config := by
  induction h with
  | begins identifiers => rfl
  | lends identifiers _ ih => exact ih
  | moves m _ ih => rw [Connection.config_apply, ih]

theorem config_of_entry (h : Trail config k es x) (he : e ∈ es) : e.before.config = x.config := by
  rw [config_of_trail h]
  induction h with
  | begins identifiers => cases he
  | lends identifiers _ ih => exact ih he
  | @moves es x m htrail ih =>
    rcases List.mem_append.1 he with he | he
    · exact ih he
    · obtain rfl := List.mem_singleton.1 he
      exact config_of_trail htrail

theorem gathered_concat {α : Type} (pick : Connection → Move → Option α) (es : List Entry)
    (k : Nat) (x : Connection) (m : Move) :
    gathered pick (es ++ [⟨k, x, m⟩]) = gathered pick es ++ (pick x m).toList := by
  rw [gathered, gathered, List.filterMap_append]
  rfl

/-- **The records of a session fit its phase all along a trail.** -/
theorem recorded_of_trail (h : Trail config k es x) (n : Nat) :
    Connection.Recorded (gathered (Connection.registers? n) es)
      (gathered (Connection.writes? n) es) (gathered (Connection.sends? n) es).flatten
      (x.phaseAt n) := by
  induction h with
  | begins identifiers => exact ⟨rfl, rfl, rfl⟩
  -- neither the phase nor the records show where the source is
  | lends identifiers _ ih => exact ih
  | @moves es x m _ ih =>
    rw [gathered_concat, gathered_concat, gathered_concat, List.flatten_append, flatten_toList]
    exact Connection.recorded_apply ih m

/-- **A session that was called has no other packet to begin with, all along a trail.** -/
theorem opens_of_trail {e : Entry} {s : Session} {call : Call} {q : Packet}
    (h : Trail config k es x) (he : e ∈ es) (hmove : e.move = .callSession n call)
    (hn : e.before.sessions[n]? = some s) (hidle : s.phase = .idle)
    (hq : (e.before.settings s).firstPacket? (call.draw e.before.identifiers).1 call = some q)
    (haccepted : q.Accepted config) :
    x.phaseAt n ≠ .idle ∧
      Connection.Opens config q (gathered (Connection.registers? n) es) (x.phaseAt n) := by
  induction h with
  | begins identifiers => cases he
  | lends identifiers _ ih => exact ih he
  | @moves es x m htrail ih =>
    have hr := recorded_of_trail htrail n
    rcases List.mem_append.1 he with he | he
    -- the call was earlier, and the session is busy since then
    · obtain ⟨hbusy, hopens⟩ := ih he
      obtain ⟨s', hs', hphase⟩ := Connection.session_of_phaseAt rfl hbusy
      refine ⟨Connection.busy_apply hbusy m, ?_⟩
      rw [gathered_concat]
      rw [← hphase] at hopens hbusy hr
      exact Connection.opens_apply (config_of_trail htrail) haccepted hs' hbusy hr hopens m
    · obtain rfl := List.mem_singleton.1 he
      obtain rfl : m = .callSession n call := hmove
      obtain ⟨s', hs', -, hready⟩ := Connection.ready_of_call hn hidle hq
      refine ⟨?_, ?_⟩
      · rw [Connection.phaseAt_of_some hs', hready]
        exact SessionPhase.noConfusion
      · rw [gathered_concat]
        exact Connection.opens_call hn hidle hq hr

/-- The trail of a connection that is there, and of one that is not. -/
def Traced (k : Nat) (es : List Entry) : Option Connection → Prop
  | none => es = []
  | some x => Trail x.config k es x

theorem traced_connect (h : Traced k es (c.connection? k)) (config : Config) :
    Traced k es ((c.apply (.connect config)).connection? k) := by
  unfold connection? at h ⊢
  cases hx : c.connections[k]? with
  | some x =>
    rw [hx] at h
    have hold : (c.apply (.connect config)).connections[k]? = some x :=
      getElem?_of_grown (List.prefix_append _ _) hx
    rw [hold]
    exact h
  | none =>
    rw [hx] at h
    obtain rfl : es = [] := h
    cases hy : (c.apply (.connect config)).connections[k]? with
    | none => rfl
    | some y =>
      rcases getElem?_concat hy with hold | ⟨-, rfl⟩
      · cases hx.symm.trans hold
      · exact .begins _

/-- The source is taken back from the connection that has moved, and lent to the others as it
is then. -/
theorem traced_move (h : Traced k es (c.connection? k)) (j : Nat) (m : Move) :
    Traced k (es ++ (c.entryOf? (.move j m)).toList.filter fun e => e.number == k)
      ((c.apply (.move j m)).connection? k) := by
  rw [entryOf?, apply]
  cases hx : c.connection? j with
  | none =>
    show Traced k (es ++ []) (c.connection? k)
    rwa [List.append_nil]
  | some x =>
    have hlt : j < c.connections.length := by
      obtain ⟨x', hx', -⟩ := Option.map_eq_some_iff.1 hx
      exact (List.getElem?_eq_some_iff.1 hx').1
    show Traced k (es ++ [Entry.mk j x m].filter fun e => e.number == k)
      (connection? ⟨(x.apply m).1.identifiers, c.connections.set j (x.apply m).1⟩ k)
    by_cases hj : j = k
    · subst hj
      rw [hx] at h
      have hown : [Entry.mk j x m].filter (fun e => e.number == j) = [Entry.mk j x m] :=
        List.filter_cons_of_pos (beq_self_eq_true j)
      rw [hown, connection?, List.getElem?_set_self hlt]
      show Trail (x.apply m).1.config j _ (x.apply m).1
      rw [Connection.config_apply]
      exact .moves m h
    · have hother : [Entry.mk j x m].filter (fun e => e.number == k) = [] :=
        List.filter_cons_of_neg (by rwa [beq_iff_eq])
      rw [hother, List.append_nil, connection?, List.getElem?_set_ne hj]
      unfold connection? at h
      cases hy : c.connections[k]? with
      | none =>
        rw [hy] at h
        exact h
      | some y =>
        rw [hy] at h
        have h : Trail y.config k es { y with identifiers := c.identifiers } := h
        exact h.lends (x.apply m).1.identifiers

theorem traced_after (first : UInt8) (k : Nat) (ms : List ClientMove) :
    Traced k ((start first).trail k ms) (((start first).after ms).connection? k) := by
  induction ms using List.reverseRecOn with
  | nil => rfl
  | append_singleton ms m ih =>
    rw [trail_concat, after_concat]
    cases m with
    | connect config =>
      rw [entryOf?, Option.toList_none, List.filter_nil, List.append_nil]
      exact traced_connect ih config
    | move j m => exact traced_move ih j m

theorem trail_of_entry (first : UInt8) (ms : List ClientMove) (he : e ∈ (start first).entries ms) :
    ∃ x, ((start first).after ms).connection? e.number = some x ∧
      e ∈ (start first).trail e.number ms ∧
      Trail x.config e.number ((start first).trail e.number ms) x := by
  have hmem : e ∈ (start first).trail e.number ms :=
    List.mem_filter.2 ⟨he, beq_self_eq_true e.number⟩
  have htraced := traced_after first e.number ms
  cases hx : ((start first).after ms).connection? e.number with
  | none =>
    rw [hx] at htraced
    rw [show (start first).trail e.number ms = [] from htraced] at hmem
    cases hmem
  | some x =>
    rw [hx] at htraced
    exact ⟨x, rfl, hmem, htraced⟩

/-! ## One connection -/

/-- The moves of a client that has one connection. -/
def alone (config : Config) (ms : List Move) : List ClientMove :=
  .connect config :: ms.map (.move 0)

theorem alone_concat (config : Config) (ms : List Move) (m : Move) :
    alone config (ms ++ [m]) = alone config ms ++ [.move 0 m] := by
  rw [alone, alone, List.map_append, List.cons_append]
  rfl

/-- A connection that shares its source with no other runs as it does by itself. -/
theorem after_alone (config : Config) (first : UInt8) (ms : List Move) :
    ((start first).after (alone config ms)).connection? 0
      = some ((Connection.fresh config ⟨first⟩).after ms) := by
  induction ms using List.reverseRecOn with
  | nil => rfl
  | append_singleton ms m ih =>
    obtain ⟨x, hx, -⟩ := Option.map_eq_some_iff.1 ih
    have hlt := (List.getElem?_eq_some_iff.1 hx).1
    rw [alone_concat, after_concat, Connection.after_concat, apply, ih]
    show connection? ⟨_, ((start first).after (alone config ms)).connections.set 0 _⟩ 0 = _
    rw [connection?, List.getElem?_set_self hlt]
    rfl

/-- Where there is one connection only, the records of its trail are those of its own run. -/
theorem gathered_alone {α : Type} (pick : Connection → Move → Option α) (config : Config)
    (first : UInt8) (ms : List Move) :
    gathered pick ((start first).trail 0 (alone config ms))
      = Connection.gather pick (Connection.fresh config ⟨first⟩) ms := by
  induction ms using List.reverseRecOn with
  | nil => rfl
  | append_singleton ms m ih =>
    have hentry : ((start first).after (alone config ms)).entryOf? (.move 0 m)
        = some ⟨0, (Connection.fresh config ⟨first⟩).after ms, m⟩ := by
      rw [entryOf?, after_alone]
      rfl
    rw [alone_concat, trail_concat, hentry, Connection.gather_concat, ← ih]
    exact gathered_concat pick _ 0 _ m

/-! ## The theorem -/

/-- The packet of an attempt, as a server reads it that has the secret and the password. -/
structure ReadAs (config : Config) (a : Attempt) (q : Packet) (s : Authentication.Start) :
    Prop where
  type : s.access.type = .chap
  user : TextRead a.user s.origin.user
  data : Answers a s.data
  read : ∀ more, (Packet.receive .request config.key (q.octets config.key ++ more)).packet
    = .ok ⟨q.header, .start s⟩

theorem exists_readAs {settings : SessionSettings} {q : Packet}
    (hq : settings.firstPacket? a.identifier (.chap a.user a.password a.challenge) = some q)
    (haccepted : q.Accepted settings.config) : ∃ s, ReadAs settings.config a q s := by
  obtain ⟨htravels, hread⟩ := firstPacket?_read hq
  have htype := Packet.type_of_new? haccepted.parts
  have hbody := hread.body
  cases hs : q.body.normal with
  | start s =>
    rw [hs] at hbody
    obtain ⟨hstart, hdata⟩ := hbody
    refine ⟨s, ?_, hstart.origin.user, ?_, ?_⟩
    · rw [hstart.access]
    · rw [hdata]
      exact answers_data a
    · intro more
      rw [Packet.receive_octets htype htravels (.inr rfl), hs]
  | _ =>
    rw [hs] at hbody
    exact hbody.elim

/-- What an attempt of a run comes to on its side. -/
structure Sends (c : Client) (ms : List ClientMove) (a : Attempt) (config : Config) (q : Packet) :
    Prop where
  /-- There is a packet to send from the attempt on. -/
  made : ∃ e ∈ c.entries ms, e.attempt? = some a ∧
    (e.before.apply e.move).1.phaseAt a.session = .ready q
  /-- It can be written under the settings of the connection. -/
  accepted : q.Accepted config
  /-- Nothing is sent before it. -/
  first : ∀ o, (c.written a.connection a.session ms).head? = some o →
    o.request = q ∧ o.octets = q.octets config.key ∧
      (o.octets <+: c.sentBy a.connection a.session ms ∨
        c.sentBy a.connection a.session ms <+: o.octets)

theorem sends_of_attempt (first : UInt8) (ms : List ClientMove)
    (ha : a ∈ (start first).attempts ms) :
    ∃ x q s, ((start first).after ms).connection? a.connection = some x ∧
      Sends (start first) ms a x.config q ∧ ReadAs x.config a q s := by
  obtain ⟨e, he, hattempt⟩ := List.mem_filterMap.1 ha
  obtain ⟨hconnection, hmove, hidentifier, s, hn, hidle⟩ := attempt?_eq_some hattempt
  obtain ⟨x, hx, hmem, htrail⟩ := trail_of_entry first ms he
  have hconfig : e.before.config = x.config := config_of_entry htrail hmem
  obtain ⟨q, hq, hmade⟩ := firstPacket?_made (e.before.settings s) a.identifier
    (.chap a.user a.password a.challenge)
  have haccepted : q.Accepted x.config := by
    rw [← hconfig]
    exact hmade.accepted
  obtain ⟨start, hread⟩ := exists_readAs hq hmade.accepted
  have hdrawn : ((Call.chap a.user a.password a.challenge).draw e.before.identifiers).1
      = a.identifier := hidentifier.symm
  rw [← hdrawn] at hq
  obtain ⟨s', hs', -, hready⟩ := Connection.ready_of_call hn hidle hq
  obtain ⟨-, hopens⟩ := opens_of_trail htrail hmem hmove hn hidle hq haccepted
  obtain ⟨⟨later, hregistered⟩, -, hsent⟩ :=
    Connection.recorded_any (recorded_of_trail htrail a.session)
  rw [← hconnection] at hx
  refine ⟨x, q, start, hx, ⟨⟨e, he, hattempt, ?_⟩, haccepted, ?_⟩, hconfig ▸ hread⟩
  · rw [hmove, Connection.phaseAt_of_some hs', hready]
  · intro o ho
    rw [written, hconnection] at ho
    rw [sentBy, hconnection]
    have hfirst : (gathered (Connection.registers? a.session)
        ((Client.start first).trail e.number ms)).head? = some o := by
      rw [← hregistered, List.head?_append, ho, Option.some_or]
    obtain ⟨hrequest, hoctets⟩ := hopens.first o hfirst
    exact ⟨hrequest, hoctets, hsent.first ho⟩

/-- **CHAP attempts are told apart, and can be verified.**  Whatever happens to connections that
share a source, and to their sessions, the attempts have the numbers from the first on in the
order in which they draw, and any 256 in a row are all different.  What an attempt sends first
is read by a server with the secret of the connection as what the attempt has drawn, with the
digest that this server computes for itself from the password. -/
theorem attempts_verifiable (first : UInt8) (ms : List ClientMove) :
    (∀ i a, ((start first).attempts ms)[i]? = some a →
        a.identifier.toNat = (first.toNat + i) % 256)
      ∧ (∀ i, ((((start first).attempts ms).drop i).take 256).Pairwise
          fun a b => a.identifier ≠ b.identifier)
      ∧ ∀ a ∈ (start first).attempts ms, ∃ x q s,
          ((start first).after ms).connection? a.connection = some x ∧
            Sends (start first) ms a x.config q ∧ ReadAs x.config a q s := by
  have hnumbers := numbers_after first ms
  refine ⟨hnumbers.past, hnumbers.distinct, ?_⟩
  intro a ha
  exact sends_of_attempt first ms ha

/-- A challenge that nobody should send. -/
def monotone : Chap.Challenge :=
  ⟨List.replicate 16 0x2A, List.length_replicate⟩

/-- Two connections under the secret "key".  The second one draws first, and is called off;
the first one draws next, and writes. -/
def overtaken : List ClientMove :=
  [.connect { secret := some [0x6B, 0x65, 0x79] }, .connect { secret := some [0x6B, 0x65, 0x79] },
    .move 0 (.openSession [7] {} none), .move 1 (.openSession [9] {} none),
    .move 1 (.callSession 0 (.chap "bob" "" monotone)),
    .move 0 (.callSession 0 (.chap "alice" "sesame" monotone)),
    .move 1 (.drop (.session 0)), .move 0 (.step (.session 0)), .move 0 (.step (.session 0)),
    .move 0 (.step (.session 0)), .move 0 (.step (.session 0))]

/-- The identifiers are 255 and 0, and the second one stands in what is read. -/
theorem attempts_verifiable_overtaken :
    ((start 255).attempts overtaken).map Attempt.identifier = [255, 0] ∧
      ∃ o s, ((start 255).written 0 0 overtaken).head? = some o ∧
        (Packet.receive .request [0x6B, 0x65, 0x79] o.octets).packet
          = .ok ⟨o.request.header, .start s⟩ ∧
        Answers ⟨0, 0, "alice", "sesame", monotone, 0⟩ s.data := by
  have hattempts : (start 255).attempts overtaken
      = [⟨1, 0, "bob", "", monotone, 255⟩, ⟨0, 0, "alice", "sesame", monotone, 0⟩] := rfl
  have hsecret : (((start 255).after overtaken).connection? 0).map (fun x => x.config.key)
      = some [0x6B, 0x65, 0x79] := rfl
  have hwritten : ((start 255).written 0 0 overtaken).head?.isSome = true := by decide +kernel
  obtain ⟨o, ho⟩ := Option.isSome_iff_exists.1 hwritten
  obtain ⟨-, -, hverifiable⟩ := attempts_verifiable 255 overtaken
  rw [hattempts] at hverifiable ⊢
  obtain ⟨x, q, s, hx, hsends, hread⟩ := hverifiable _ (.tail _ (.head []))
  obtain ⟨rfl, hoctets, -⟩ := hsends.first o ho
  rw [hx] at hsecret
  have hkey : x.config.key = [0x6B, 0x65, 0x79] := Option.some.inj hsecret
  have hreceived := hread.read []
  rw [List.append_nil, ← hoctets, hkey] at hreceived
  exact ⟨rfl, o, s, ho, hreceived, hread.data⟩

end Client

end Tacacs
