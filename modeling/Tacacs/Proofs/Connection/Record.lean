/-
# `Tacacs.Proofs.Connection.Record` — what a session has registered, written and sent

Three records are kept of a session in the course of a run: the packets for which it has
registered an exchange (`registered`), those it has begun to write (`written`), and the
octets that the stream took from it (`sentBy`).  They are picked from the moves one by
one, so each grows at its end only.

`Recorded` says how they hang together, phase by phase.  A session writes what it has
registered, in that order and nothing else, and it begins with a packet only when the one
before is completely out.  Hence there is one packet at most that was registered and not
begun, and one at most of which a part is missing in the stream.
-/
import Tacacs.Proofs.Connection.Writing

namespace Tacacs

/-! ## What is picked from a move -/

/-- The octets that the stream took, if it took any. -/
def Effect.sent? : Effect → Option Octets
  | .sent octets => some octets
  | _ => none

/-- The packet of which nothing is written yet by a session that has the writing side. -/
def SessionPhase.unbegun? : SessionPhase → Option Sending
  | .writing o rest => if rest = o.octets then some o else none
  | _ => none

/-- The session is not going to write any more. -/
def SessionPhase.IsOver : SessionPhase → Prop
  | .unsent _ _ | .finished _ | .dropped => True
  | .idle | .ready _ | .registered _ | .queued _ | .writing _ _ | .flushing _
  | .awaiting _ _ => False

/-- The packet for which an exchange is registered between two phases. -/
def registration : SessionPhase → SessionPhase → Option Sending
  | .ready _, .registered o => some o
  | _, _ => none

/-- The octets of packets, one after the other. -/
def octetsOf (os : List Sending) : Octets :=
  os.flatMap Sending.octets

theorem octetsOf_concat (os : List Sending) (o : Sending) :
    octetsOf (os ++ [o]) = octetsOf os ++ o.octets := by
  rw [octetsOf, List.flatMap_append, List.flatMap_singleton]
  rfl

theorem flatten_toList (octets : Option Octets) : octets.toList.flatten = octets.getD [] := by
  cases octets with
  | none => rfl
  | some octets => exact List.append_nil _

theorem getElem?_concat {α : Type} {xs : List α} {x y : α} {i : Nat}
    (h : (xs ++ [x])[i]? = some y) :
    xs[i]? = some y ∨ i = xs.length ∧ y = x := by
  rcases Nat.lt_trichotomy i xs.length with hlt | rfl | hgt
  · rw [List.getElem?_append_left hlt] at h
    exact .inl h
  · rw [List.getElem?_concat_length] at h
    exact .inr ⟨rfl, (Option.some.inj h).symm⟩
  · have hlt := (List.getElem?_eq_some_iff.1 h).1
    rw [List.length_append] at hlt
    exact absurd hgt (Nat.not_lt.2 (Nat.le_of_lt_succ hlt))

theorem getElem?_of_grown {α : Type} {xs ys : List α} {x : α} {i : Nat} (h : xs <+: ys)
    (hx : xs[i]? = some x) : ys[i]? = some x := by
  obtain ⟨zs, rfl⟩ := h
  rw [List.getElem?_append_left (List.getElem?_eq_some_iff.1 hx).1, hx]

namespace Connection

/-- Where a session stands.  A session that was not opened yet was not called either. -/
def phaseAt (c : Connection) (n : Nat) : SessionPhase :=
  (c.sessions[n]?.map Session.phase).getD .idle

/-- The octets that the stream takes from a session with a move. -/
def sends? (n : Nat) (c : Connection) : Move → Option Octets
  | .step (.session k) =>
    if k = n then (c.apply (.step (.session k))).2.findSome? Effect.sent? else none
  | _ => none

/-- The packet that a session begins to write with a move. -/
def writes? (n : Nat) (c : Connection) (m : Move) : Option Sending :=
  (sends? n c m).bind fun _ => (c.phaseAt n).unbegun?

/-- The packet for which a session registers an exchange with a move. -/
def registers? (n : Nat) (c : Connection) (m : Move) : Option Sending :=
  registration (c.phaseAt n) ((c.apply m).1.phaseAt n)

/-- The packets for which a session registers exchanges in a run. -/
def registered (c : Connection) (n : Nat) (ms : List Move) : List Sending :=
  gather (registers? n) c ms

/-- The packets that a session begins to write in a run. -/
def written (c : Connection) (n : Nat) (ms : List Move) : List Sending :=
  gather (writes? n) c ms

/-- The octets that the stream takes from a session in a run. -/
def sentBy (c : Connection) (n : Nat) (ms : List Move) : Octets :=
  (gather (sends? n) c ms).flatten

theorem written_append (c : Connection) (n : Nat) (ms ms' : List Move) :
    written c n (ms ++ ms') = written c n ms ++ written (c.after ms) n ms' :=
  gather_append (writes? n) c ms ms'

variable {c : Connection} {n : Nat} {s : Session} {o : Sending} {m : Move}
  {rs ws : List Sending} {out octets : Octets} {phase next : SessionPhase}

theorem phaseAt_of_some (hn : c.sessions[n]? = some s) : c.phaseAt n = s.phase := by
  rw [phaseAt, hn]
  rfl

theorem phaseAt_of_none (hn : c.sessions[n]? = none) : c.phaseAt n = .idle := by
  rw [phaseAt, hn]
  rfl

theorem session_of_phaseAt (h : c.phaseAt n = phase) (hne : phase ≠ .idle) :
    ∃ s, c.sessions[n]? = some s ∧ s.phase = phase := by
  cases hn : c.sessions[n]? with
  | none => exact absurd (h.symm.trans (phaseAt_of_none hn)) hne
  | some s => exact ⟨s, rfl, (phaseAt_of_some hn).symm.trans h⟩

theorem phaseAt_new (hn : c.sessions[n]? = none) (m : Move) : (c.apply m).1.phaseAt n = .idle := by
  cases hs : (c.apply m).1.sessions[n]? with
  | none => exact phaseAt_of_none hs
  | some s => exact (phaseAt_of_some hs).trans (session_new hn hs)

/-! ## What a move records -/

theorem sends?_eq_none (h : ¬(m = .step (.session n) ∧ ∃ o rest, c.phaseAt n = .writing o rest)) :
    sends? n c m = none := by
  unfold sends?
  split
  · rename_i k
    split
    · rename_i hk
      subst hk
      refine List.findSome?_eq_none_iff.2 ?_
      intro e he
      cases e with
      | sent octets =>
        obtain ⟨s, o, rest, hn, hs⟩ := sent_apply he
        exact absurd ⟨rfl, o, rest, (phaseAt_of_some hn).trans hs⟩ h
      | _ => rfl
    · rfl
  · rfl

theorem writes?_eq_none (h : sends? n c m = none) : writes? n c m = none := by
  rw [writes?, h]
  rfl

theorem writes?_of_not_writing (h : ∀ o rest, c.phaseAt n ≠ .writing o rest) (m : Move) :
    writes? n c m = none := by
  refine writes?_eq_none (sends?_eq_none ?_)
  rintro ⟨-, o, rest, hphase⟩
  exact h o rest hphase

theorem sends?_step :
    sends? n c (.step (.session n)) = (c.apply (.step (.session n))).2.findSome? Effect.sent? := by
  rw [sends?, if_pos rfl]

theorem sent?_of_woke {es : List Effect} (h : ∀ e ∈ es, ∃ a, e = .woke a) :
    es.findSome? Effect.sent? = none := by
  refine List.findSome?_eq_none_iff.2 ?_
  intro e he
  obtain ⟨a, rfl⟩ := h e he
  rfl

/-! ## The records and the phase -/

/-- A packet was sent, all of it but perhaps a last part. -/
structure SentUpTo (ws : List Sending) (out : Octets) : Prop where
  /-- All packets before the last are out. -/
  before : octetsOf ws.dropLast <+: out
  /-- Nothing is out but the packets. -/
  only : out <+: octetsOf ws

/-- How the records of a session fit its phase. -/
def Recorded (rs ws : List Sending) (out : Octets) : SessionPhase → Prop
  | .idle => rs = [] ∧ ws = [] ∧ out = []
  | .ready _ => ws = rs ∧ out = octetsOf rs
  | .registered o | .queued o => ∃ done, rs = done ++ [o] ∧ ws = done ∧ out = octetsOf done
  | .writing o rest => ∃ done gone, rs = done ++ [o] ∧ o.octets = gone ++ rest ∧
      ws = (if gone = [] then done else done ++ [o]) ∧ out = octetsOf done ++ gone
  | .flushing o => ∃ done, rs = done ++ [o] ∧ ws = rs ∧ out = octetsOf rs
  | .awaiting q w => ∃ done o, rs = done ++ [o] ∧ o.request = q ∧ o.ticket = w.ticket ∧ ws = rs ∧
      out = octetsOf rs
  | .unsent _ _ | .finished _ | .dropped =>
    ws <+: rs ∧ rs.length ≤ ws.length + 1 ∧ SentUpTo ws out

theorem sentUpTo_self (ws : List Sending) : SentUpTo ws (octetsOf ws) where
  before := by
    rcases List.eq_nil_or_concat ws with rfl | ⟨ws, o, rfl⟩
    · exact List.prefix_rfl
    · rw [List.concat_eq_append, List.dropLast_concat, octetsOf_concat]
      exact List.prefix_append _ _
  only := List.prefix_rfl

theorem sentUpTo_part {gone rest : Octets} (h : o.octets = gone ++ rest) :
    SentUpTo (if gone = [] then ws else ws ++ [o]) (octetsOf ws ++ gone) := by
  split
  next hnil =>
    rw [hnil, List.append_nil]
    exact sentUpTo_self ws
  next =>
    refine ⟨?_, ?_⟩
    · rw [List.dropLast_concat]
      exact List.prefix_append _ _
    · rw [octetsOf_concat, h, ← List.append_assoc]
      exact List.prefix_append _ _

theorem SentUpTo.first (h : SentUpTo ws out) (ho : ws.head? = some o) :
    o.octets <+: out ∨ out <+: o.octets := by
  obtain ⟨later, rfl⟩ := List.head?_eq_some_iff.1 ho
  exact List.prefix_or_prefix_of_prefix (List.prefix_append o.octets (octetsOf later)) h.only

/-- Whatever a session was doing: it has written what it has registered, but for one packet
at most, and sent what it has written, but for a part of the last. -/
theorem recorded_any (h : Recorded rs ws out phase) :
    ws <+: rs ∧ rs.length ≤ ws.length + 1 ∧ SentUpTo ws out := by
  cases phase with
  | idle =>
    obtain ⟨rfl, rfl, rfl⟩ := h
    exact ⟨List.prefix_rfl, Nat.zero_le _, sentUpTo_self []⟩
  | ready q =>
    obtain ⟨rfl, rfl⟩ := h
    exact ⟨List.prefix_rfl, Nat.le_succ _, sentUpTo_self _⟩
  | registered o =>
    obtain ⟨done, rfl, rfl, rfl⟩ := h
    exact ⟨List.prefix_append _ _, Nat.le_of_eq List.length_append, sentUpTo_self _⟩
  | queued o =>
    obtain ⟨done, rfl, rfl, rfl⟩ := h
    exact ⟨List.prefix_append _ _, Nat.le_of_eq List.length_append, sentUpTo_self _⟩
  | writing o rest =>
    obtain ⟨done, gone, rfl, ho, rfl, rfl⟩ := h
    refine ⟨?_, ?_, sentUpTo_part ho⟩
    · split
      · exact List.prefix_append _ _
      · exact List.prefix_rfl
    · split
      · exact Nat.le_of_eq List.length_append
      · exact Nat.le_succ _
  | flushing o =>
    obtain ⟨done, rfl, rfl, rfl⟩ := h
    exact ⟨List.prefix_rfl, Nat.le_succ _, sentUpTo_self _⟩
  | awaiting q w =>
    obtain ⟨done, o, rfl, -, -, rfl, rfl⟩ := h
    exact ⟨List.prefix_rfl, Nat.le_succ _, sentUpTo_self _⟩
  | unsent o f => exact h
  | finished result => exact h
  | dropped => exact h

/-- The stream takes some octets of a session that writes. -/
theorem recorded_took {left : Octets} (h : Recorded rs ws out (.writing o (octets ++ left)))
    (hoctets : octets ≠ []) :
    Recorded rs (ws ++ (SessionPhase.unbegun? (.writing o (octets ++ left))).toList) (out ++ octets)
      (if left.isEmpty then .flushing o else .writing o left) := by
  obtain ⟨done, gone, rfl, ho, rfl, rfl⟩ := h
  -- the packet is begun now, if it was not before
  have hws : (if gone = [] then done else done ++ [o])
      ++ (SessionPhase.unbegun? (.writing o (octets ++ left))).toList = done ++ [o] := by
    by_cases hnil : gone = []
    · subst hnil
      have hall : octets ++ left = o.octets := ho.symm
      rw [if_pos rfl, SessionPhase.unbegun?, if_pos hall]
      rfl
    · have hpart : octets ++ left ≠ o.octets := by
        intro he
        rw [he] at ho
        exact hnil (List.self_eq_append_left.1 ho)
      rw [if_neg hnil, SessionPhase.unbegun?, if_neg hpart]
      exact List.append_nil _
  have hout : octetsOf done ++ gone ++ octets = octetsOf done ++ (gone ++ octets) :=
    List.append_assoc _ _ _
  cases left with
  | nil =>
    refine ⟨done, rfl, hws, hout.trans ?_⟩
    rw [octetsOf_concat, ho, List.append_nil]
  | cons x left =>
    refine ⟨done, gone ++ octets, rfl, by rw [ho, List.append_assoc], ?_, hout⟩
    rw [if_neg (List.append_ne_nil_of_right_ne_nil _ hoctets)]
    exact hws

theorem recorded_wrote {rest : Octets} {es : List Effect} (h : Recorded rs ws out (.writing o rest))
    (hw : Wrote o rest next es) :
    Recorded rs (ws ++ ((es.findSome? Effect.sent?).bind fun _ =>
        (SessionPhase.writing o rest).unbegun?).toList)
      (out ++ (es.findSome? Effect.sent?).getD []) next := by
  have nothing : es.findSome? Effect.sent? = none → Recorded rs ws out next →
      Recorded rs (ws ++ ((es.findSome? Effect.sent?).bind fun _ =>
          (SessionPhase.writing o rest).unbegun?).toList)
        (out ++ (es.findSome? Effect.sent?).getD []) next := by
    intro hnone h
    rw [hnone]
    simpa only [Option.bind_none, Option.toList_none, Option.getD_none, List.append_nil] using h
  cases hw with
  | took hoctets hrest =>
    subst hrest
    exact recorded_took h hoctets
  | broke hwoke => exact nothing (sent?_of_woke hwoke) (recorded_any h)
  | waits => exact nothing rfl h

/-- A session that does not write passes on, and registers an exchange if it does. -/
theorem recorded_passage {id : SessionId} {r : Registry} (hp : Passage c id phase next r)
    (hnot : ∀ o rest, phase ≠ .writing o rest) (h : Recorded rs ws out phase) :
    Recorded (rs ++ (registration phase next).toList) ws out next := by
  have same : rs ++ (none : Option Sending).toList = rs := List.append_nil rs
  cases hp with
  | registers _ _ =>
    obtain ⟨rfl, rfl⟩ := h
    exact ⟨_, rfl, rfl, rfl⟩
  | exhausted _ => exact same.symm ▸ recorded_any h
  | unwritable _ => exact same.symm ▸ recorded_any h
  | refused _ => exact same.symm ▸ recorded_any h
  | admitted _ => exact same.symm ▸ h
  | stands => exact same.symm ▸ h
  | takes =>
    obtain ⟨done, rfl, rfl, rfl⟩ := h
    exact ⟨ws, [], same, rfl, rfl, (List.append_nil _).symm⟩
  | writes => exact absurd rfl (hnot _ _)
  | written => exact absurd rfl (hnot _ _)
  | breaks => exact absurd rfl (hnot _ _)
  | spills => exact same.symm ▸ recorded_any h
  | sent =>
    obtain ⟨done, rfl, rfl, rfl⟩ := h
    exact ⟨done, _, same, rfl, rfl, same.symm, same.symm ▸ rfl⟩
  | withdraws => exact same.symm ▸ recorded_any h
  | fails _ => exact same.symm ▸ recorded_any h
  | answered _ _ => exact same.symm ▸ recorded_any h
  | asked _ _ _ =>
    obtain ⟨done, o, rfl, -, -, rfl, rfl⟩ := h
    exact ⟨same.symm, same.symm ▸ rfl⟩

theorem registration_self (phase : SessionPhase) : registration phase phase = none := by
  cases phase <;> rfl

theorem registration_eq_some (h : registration phase next = some o) :
    (∃ q, phase = .ready q) ∧ next = .registered o := by
  unfold registration at h
  split at h
  · rw [Option.some.inj h]
    exact ⟨⟨_, rfl⟩, rfl⟩
  · cases h

/-- **Every move keeps the records of every session in order.** -/
theorem recorded_apply (h : Recorded rs ws out (c.phaseAt n)) (m : Move) :
    Recorded (rs ++ (registers? n c m).toList) (ws ++ (writes? n c m).toList)
      (out ++ (sends? n c m).getD []) ((c.apply m).1.phaseAt n) := by
  by_cases hwriting : m = .step (.session n) ∧ ∃ o rest, c.phaseAt n = .writing o rest
  · obtain ⟨rfl, o, rest, hphase⟩ := hwriting
    obtain ⟨s, hn, hs⟩ := session_of_phaseAt hphase nofun
    obtain ⟨s', hs', -, hw⟩ := step_writing hn hs
    rw [hphase] at h
    have hnone : registers? n c (.step (.session n)) = none := by
      rw [registers?, hphase]
      rfl
    rw [hnone, Option.toList_none, List.append_nil, writes?, sends?_step, hphase,
      phaseAt_of_some hs']
    exact recorded_wrote h hw
  · have hsends := sends?_eq_none hwriting
    rw [hsends, writes?_eq_none hsends, Option.toList_none, Option.getD_none, List.append_nil,
      List.append_nil]
    have stays : ∀ {phase'}, phase' = c.phaseAt n →
        Recorded (rs ++ (registration (c.phaseAt n) phase').toList) ws out phase' := by
      rintro _ rfl
      rw [registration_self, Option.toList_none, List.append_nil]
      exact h
    unfold registers?
    cases hn : c.sessions[n]? with
    | none => exact stays ((phaseAt_new hn m).trans (phaseAt_of_none hn).symm)
    | some s =>
      obtain ⟨s', hs', -, hturn⟩ := session_apply hn m
      rw [phaseAt_of_some hs']
      rw [phaseAt_of_some hn] at h hwriting stays ⊢
      generalize s'.phase = next at hturn
      have same : rs ++ (none : Option Sending).toList = rs := List.append_nil rs
      cases hturn with
      | stays _ => exact stays rfl
      | called hidle _ =>
        rw [hidle] at h ⊢
        obtain ⟨rfl, rfl, rfl⟩ := h
        exact ⟨rfl, rfl⟩
      | refused hidle =>
        rw [hidle] at h ⊢
        exact same.symm ▸ recorded_any h
      | dropped _ =>
        have hdropped : registration s.phase .dropped = none := by
          cases s.phase <;> rfl
        rw [hdropped]
        exact same.symm ▸ recorded_any h
      | passes hp => exact recorded_passage hp (fun o rest hs => hwriting ⟨rfl, o, rest, hs⟩) h

/-- An exchange is registered when a session with a packet to send goes on. -/
theorem registers?_eq_some (h : registers? n c m = some o) :
    m = .step (.session n) ∧ c.phaseAt n = .ready o.request ∧ o.request.header.sequence ≠ 255 ∧
      c.config.wire o.request = .ok o.octets ∧ (c.apply m).1.phaseAt n = .registered o := by
  unfold registers? at h
  cases hn : c.sessions[n]? with
  | none =>
    rw [phaseAt_of_none hn, phaseAt_new hn] at h
    cases h
  | some s =>
    obtain ⟨s', hs', -, hturn⟩ := session_apply hn m
    rw [phaseAt_of_some hn, phaseAt_of_some hs'] at h ⊢
    generalize s'.phase = next at hturn h
    cases hturn with
    | stays _ =>
      rw [registration_self] at h
      cases h
    | called hidle _ =>
      rw [hidle] at h
      cases h
    | refused hidle =>
      rw [hidle] at h
      cases h
    | dropped _ => exact nomatch (registration_eq_some h).2
    | passes hp =>
      obtain ⟨⟨q, hq⟩, rfl⟩ := registration_eq_some h
      rw [hq] at hp ⊢
      generalize (c.apply (.step (.session n))).1.registry = r at hp
      cases hp with
      | registers h255 hwire => exact ⟨rfl, rfl, h255, hwire, rfl⟩

/-- **In every run the records of a session fit the phase it has come to.** -/
theorem recorded_after (config : Config) (identifiers : Chap.IdentifierSequence) (n : Nat)
    (ms : List Move) :
    Recorded (registered (fresh config identifiers) n ms) (written (fresh config identifiers) n ms)
      (sentBy (fresh config identifiers) n ms)
      (((fresh config identifiers).after ms).phaseAt n) := by
  induction ms using List.reverseRecOn with
  | nil => exact ⟨rfl, rfl, rfl⟩
  | append_singleton ms m ih =>
    rw [registered, written, sentBy, gather_concat, gather_concat, gather_concat, after_concat,
      List.flatten_append]
    rw [flatten_toList]
    exact recorded_apply ih m

/-! ## Who writes no more -/

theorem passage_isOver {id : SessionId} {r : Registry} (hp : Passage c id phase next r)
    (h : phase.IsOver) : next.IsOver := by
  cases hp with
  | withdraws => trivial
  | _ => exact h.elim

theorem isOver_apply (h : (c.phaseAt n).IsOver) (m : Move) : ((c.apply m).1.phaseAt n).IsOver := by
  have hnotIdle : c.phaseAt n ≠ .idle := by
    intro hidle
    rw [hidle] at h
    exact h
  obtain ⟨s, hn, hs⟩ := session_of_phaseAt (c := c) (n := n) rfl hnotIdle
  obtain ⟨s', hs', -, hturn⟩ := session_apply hn m
  rw [← hs] at h
  rw [phaseAt_of_some hs']
  generalize s'.phase = next at hturn
  cases hturn with
  | stays _ => exact h
  | called hidle _ => exact (hidle ▸ h : SessionPhase.IsOver .idle).elim
  | refused _ => trivial
  | dropped _ => trivial
  | passes hp => exact passage_isOver hp h

/-- **A session that is over writes nothing more.** -/
theorem written_of_over (h : (c.phaseAt n).IsOver) (ms : List Move) : written c n ms = [] := by
  induction ms generalizing c with
  | nil => rfl
  | cons m ms ih =>
    have hnone : writes? n c m = none := by
      refine writes?_of_not_writing ?_ m
      intro o rest hphase
      rw [hphase] at h
      exact h
    show (writes? n c m).toList ++ written (c.apply m).1 n ms = []
    rw [hnone, ih (isOver_apply h m)]
    rfl

end Connection

end Tacacs
