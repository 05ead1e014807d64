/-
# `Tacacs.Proofs.Connection.Numbering` — how a login numbers its packets

A login has no counter.  The number of its next packet comes from the header of the reply
that asked for it, so it is in the hands of the server; what keeps it in order is that a
reply is not taken unless it has the number after that of its request.  The last number,
255, is met twice: no packet follows a reply that has it, which cannot be, since replies
have even numbers; and no exchange is registered for a packet that has it.

    registered     1   3   5  …  253          (255 is made, and never registered)
    taken            2   4  …        254

`Keeps` is what every move keeps: the requests registered so far are numbered in order,
and a packet about to be sent has the number that comes next.  A move touches it in two
places only.  A packet that is registered joins the others; and when the session takes the
outcome of its exchange it goes on with the next packet, or is finished
(`afterOutcome_of_goesOn`, `afterOutcome_of_not_goesOn`).
-/
import Tacacs.Proofs.Connection.Record
import Tacacs.Proofs.Connection.NoFalseSuccess

namespace Tacacs

/-! ## Packets of a login -/

/-- The version in which a call opens its session. -/
def Call.minor : Call → MinorVersion
  | .ascii | .authorize .. => .default
  | .pap .. | .chap .. => .one

/-- A packet with this place in a login, counted from zero. -/
structure Numbered (config : Config) (id : SessionId) (minor : MinorVersion) (i : Nat)
    (p : Packet) : Prop where
  sequence : p.header.sequence.toNat = 2 * i + 1
  type : p.header.type = .authentication
  minor : p.header.minor = minor
  flags : p.header.flags = config.flags
  session : p.header.session = id
  /-- The first one opens the login. -/
  first : i = 0 → ∃ body, p.body = .start body
  /-- Every other one carries input. -/
  later : i ≠ 0 → ∃ input, p.body = .continue ⟨input, [], 0⟩

/-- A reply that asks for input, in answer to a request. -/
structure AsksFor (request reply : Packet) : Prop where
  type : reply.header.type = .authentication
  sequence : reply.header.sequence.toNat = request.header.sequence.toNat + 1
  status : ∃ r, reply.body = .authenReply r ∧
    (r.status = .getData ∨ r.status = .getUser ∨ r.status = .getPassword)

variable {config : Config} {id : SessionId} {minor : MinorVersion} {i : Nat} {p q reply : Packet}
  {settings : SessionSettings}

theorem toNat_add_one_of_ne {x : UInt8} (h : x ≠ 255) : (x + 1).toNat = x.toNat + 1 := by
  have hne : x.toNat ≠ 255 := fun he => h (UInt8.toNat_inj.1 he)
  have hlt := x.toNat_lt
  rw [UInt8.toNat_add]
  exact Nat.mod_eq_of_lt (by simp; omega)

theorem ofStatus?_eq_some_iff {status : Authentication.Status} :
    (∃ kind, PromptKind.ofStatus? status = some kind) ↔
      status = .getData ∨ status = .getUser ∨ status = .getPassword := by
  cases status <;> simp [PromptKind.ofStatus?]

/-- **A reply asks for input in the eyes of a login if it does so in answer to its request.** -/
theorem judge_asks_iff (htype : q.header.type = .authentication) (h255 : q.header.sequence ≠ 255) :
    (∃ message noEcho kind, judge q reply = .asks message noEcho kind) ↔ AsksFor q reply := by
  have hnext := toNat_add_one_of_ne h255
  constructor
  · rintro ⟨message, noEcho, kind, h⟩
    obtain ⟨-, hreply⟩ := Connection.judge_asks h
    unfold judge at h
    rw [if_neg (not_not_intro (hreply.trans htype.symm))] at h
    split at h
    · cases h
    · rename_i hsequence
      refine ⟨hreply, (congrArg _ (Classical.not_not.1 hsequence)).trans hnext, ?_⟩
      split at h
      · rename_i r _ hr
        split at h
        · rename_i hkind
          exact ⟨r, hr, ofStatus?_eq_some_iff.1 ⟨_, hkind⟩⟩
        · cases h
      · cases h
      · cases h
  · rintro ⟨hreply, hsequence, r, hr, hstatus⟩
    obtain ⟨kind, hkind⟩ := ofStatus?_eq_some_iff.2 hstatus
    have hsame : reply.header.sequence = q.header.sequence + 1 :=
      UInt8.toNat_inj.1 (hsequence.trans hnext.symm)
    refine ⟨r.message, r.noEcho, kind, ?_⟩
    unfold judge
    rw [if_neg (not_not_intro (hreply.trans htype.symm)), if_neg (not_not_intro hsame)]
    simp only [htype, hr, hkind]

/-- The body asks for input. -/
def Body.asks : Body → Bool
  | .authenReply r => (PromptKind.ofStatus? r.status).isSome
  | _ => false

theorem asksFor_iff : AsksFor q reply ↔ reply.header.type = .authentication ∧
    reply.header.sequence.toNat = q.header.sequence.toNat + 1 ∧ reply.body.asks = true := by
  have hasks : reply.body.asks = true ↔ ∃ r, reply.body = .authenReply r ∧
      (r.status = .getData ∨ r.status = .getUser ∨ r.status = .getPassword) := by
    cases hbody : reply.body with
    | authenReply r =>
      rw [Body.asks, Option.isSome_iff_exists, ofStatus?_eq_some_iff]
      constructor
      · exact fun h => ⟨r, rfl, h⟩
      · rintro ⟨r', hr, h⟩
        exact Body.authenReply.inj hr ▸ h
    | _ => simp [Body.asks]
  rw [hasks]
  exact ⟨fun h => ⟨h.type, h.sequence, h.status⟩, fun ⟨htype, hsequence, hstatus⟩ =>
    ⟨htype, hsequence, hstatus⟩⟩

instance decAsksFor (request reply : Packet) : Decidable (AsksFor request reply) :=
  decidable_of_iff _ asksFor_iff.symm

namespace Numbered

theorem le (h : Numbered config id minor i p) : i ≤ 127 := by
  have hlt := p.header.sequence.toNat_lt
  rw [h.sequence] at hlt
  omega

/-- Number 255 belongs to one place, and to no other. -/
theorem sequence_eq_iff (h : Numbered config id minor i p) : p.header.sequence = 255 ↔ i = 127 := by
  rw [← UInt8.toNat_inj, h.sequence]
  show 2 * i + 1 = 255 ↔ i = 127
  omega

theorem wire (h : Numbered config id minor i p) : config.wire p = .ok (p.octets config.key) := by
  refine wire_of_flag ?_ (Body.wireSize_lt ?_)
  · rw [h.flags, Config.flags, Flags.unencrypted_make]
  · intro octets hbody
    by_cases hi : i = 0
    · obtain ⟨body, hb⟩ := h.first hi
      exact nomatch hbody.symm.trans hb
    · obtain ⟨input, hb⟩ := h.later hi
      exact nomatch hbody.symm.trans hb

theorem length_le {octets : Octets} (h : Numbered config id minor i p)
    (hwire : config.wire p = .ok octets) : octets.length ≤ 65552 := by
  obtain rfl := Except.ok.inj (h.wire.symm.trans hwire)
  rw [Packet.length_octets, Packet.wireSize]
  by_cases hi : i = 0
  · obtain ⟨body, hb⟩ := h.first hi
    simp only [hb, Header.size, Body.wireSize, Authentication.Start.wireSize, Origin.wireSize]
    omega
  · obtain ⟨input, hb⟩ := h.later hi
    simp only [hb, Header.size, Body.wireSize, Authentication.Continue.wireSize, List.length_nil]
    omega

end Numbered

theorem firstPacket?_numbered (settings : SessionSettings) (identifier : UInt8) {call : Call}
    (h : call.type = .authentication) :
    ∃ q, settings.firstPacket? identifier call = some q ∧
      Numbered settings.config settings.id call.minor 0 q := by
  have opens : ∀ body, Numbered settings.config settings.id call.minor 0
      ⟨settings.firstHeader .authentication call.minor, .start body⟩ := fun body =>
    ⟨rfl, rfl, rfl, rfl, rfl, fun _ => ⟨body, rfl⟩, fun hne => absurd rfl hne⟩
  cases call with
  | ascii => exact ⟨_, rfl, opens _⟩
  | pap user password => exact ⟨_, rfl, opens _⟩
  | chap user password challenge => exact ⟨_, rfl, opens _⟩
  | authorize user method type service arguments => cases h

theorem followUp_eq (settings : SessionSettings) (q : Packet) (input : String)
    (htype : reply.header.type = .authentication) (h255 : reply.header.sequence ≠ 255) :
    settings.followUp q reply input
      = .ok ⟨⟨q.header.minor, .authentication, reply.header.sequence + 1, settings.config.flags,
          settings.id⟩, .continue ⟨input, [], 0⟩⟩ := by
  unfold SessionSettings.followUp Header.next?
  rw [if_neg h255, htype]
  rfl

theorem followUp_numbered (h : Numbered settings.config settings.id minor i q)
    (hasks : AsksFor q reply) (input : String) :
    ∃ next, settings.followUp q reply input = .ok next ∧
      Numbered settings.config settings.id minor (i + 1) next := by
  have hsequence : reply.header.sequence.toNat = 2 * i + 1 + 1 :=
    hasks.sequence.trans (congrArg (· + 1) h.sequence)
  -- a reply has an even number
  have h255 : reply.header.sequence ≠ 255 := by
    intro he
    rw [he] at hsequence
    have hodd : (255 : Nat) = 2 * i + 1 + 1 := hsequence
    omega
  refine ⟨_, followUp_eq settings q input hasks.type h255, ?_, rfl, h.minor, rfl, rfl,
    fun hzero => absurd hzero (Nat.succ_ne_zero i), fun _ => ⟨input, rfl⟩⟩
  rw [toNat_add_one_of_ne h255, hsequence]
  omega

/-! ## Taking an outcome -/

/-- Where a session stands when it has taken the outcome of its exchange. -/
def afterOutcome (settings : SessionSettings) (answers : Option (List (Option String)))
    (request : Packet) : Outcome → SessionPhase
  | .error e => .finished (.error e)
  | .ok reply =>
    match judge request reply with
    | .finished result => .finished result
    | .asks _ _ _ =>
      match answers.bind fun answers => answers.head?.join with
      | none => .finished (.error .noInput)
      | some input =>
        match settings.followUp request reply input with
        | .error e => .finished (.error e)
        | .ok next => .ready next

/-- The outcome of an exchange lets a login go on: it is a reply that asks for input, and the
input is given. -/
def GoesOn (answers : Option (List (Option String))) (request : Packet) (outcome : Outcome) :
    Prop :=
  ∃ reply input rest, outcome = .ok reply ∧ AsksFor request reply ∧
    answers = some (some input :: rest)

instance decGoesOn (request : Packet) : (answers : Option (List (Option String))) →
    (outcome : Outcome) → Decidable (GoesOn answers request outcome)
  | some (some input :: rest), .ok reply => decidable_of_iff (AsksFor request reply)
      ⟨fun h => ⟨reply, input, rest, rfl, h, rfl⟩, fun ⟨_, _, _, hreply, h, _⟩ =>
        Except.ok.inj hreply ▸ h⟩
  | _, .error _ => isFalse fun ⟨_, _, _, h, _⟩ => nomatch h
  | none, _ => isFalse fun ⟨_, _, _, _, _, h⟩ => nomatch h
  | some [], _ => isFalse fun ⟨_, _, _, _, _, h⟩ => nomatch h
  | some (none :: _), _ => isFalse fun ⟨_, _, _, _, _, h⟩ => nomatch h

theorem afterOutcome_of_goesOn (settings : SessionSettings)
    {answers : Option (List (Option String))} {outcome : Outcome}
    (hq : Numbered settings.config settings.id minor i q) (h255 : q.header.sequence ≠ 255)
    (h : GoesOn answers q outcome) :
    ∃ next, afterOutcome settings answers q outcome = .ready next ∧
      Numbered settings.config settings.id minor (i + 1) next := by
  obtain ⟨reply, input, rest, rfl, hasks, rfl⟩ := h
  obtain ⟨message, noEcho, kind, hjudge⟩ := (judge_asks_iff hq.type h255).2 hasks
  obtain ⟨next, hnext, hnumbered⟩ := followUp_numbered hq hasks input
  refine ⟨next, ?_, hnumbered⟩
  simp only [afterOutcome, hjudge, Option.bind_some, List.head?_cons, Option.join_some, hnext]

theorem afterOutcome_of_not_goesOn (settings : SessionSettings)
    {answers : Option (List (Option String))} {outcome : Outcome}
    (htype : q.header.type = .authentication) (h255 : q.header.sequence ≠ 255)
    (h : ¬GoesOn answers q outcome) :
    ∃ result, afterOutcome settings answers q outcome = .finished result := by
  cases outcome with
  | error e => exact ⟨_, rfl⟩
  | ok reply =>
    cases hjudge : judge q reply with
    | finished result => exact ⟨result, by simp only [afterOutcome, hjudge]⟩
    | asks message noEcho kind =>
      have hasks := (judge_asks_iff htype h255).1 ⟨message, noEcho, kind, hjudge⟩
      have hnone : (answers.bind fun answers => answers.head?.join) = none := by
        cases answers with
        | none => rfl
        | some answers =>
          cases answers with
          | nil => rfl
          | cons answer rest =>
            cases answer with
            | none => rfl
            | some input => exact absurd ⟨reply, input, rest, rfl, hasks, rfl⟩ h
      exact ⟨.error .noInput, by simp only [afterOutcome, hjudge, hnone]⟩

namespace Connection

variable {c : Connection} {n : Nat} {s : Session} {o : Sending} {w : Wait} {m : Move}
  {rs ws : List Sending} {out : Octets} {phase : SessionPhase}
  {identifiers : Chap.IdentifierSequence}

theorem stepAsked_phase {message : String} {noEcho : Bool} {kind : PromptKind}
    (hn : c.sessions[n]? = some s) (hjudge : judge q reply = .asks message noEcho kind) :
    ∃ s', (c.stepAsked n s q reply message noEcho kind).1.sessions[n]? = some s' ∧ s'.id = s.id ∧
      s'.phase = afterOutcome (c.settings s) s.answers q (.ok reply) := by
  cases hanswers : s.answers with
  | none =>
    simp only [stepAsked, hanswers, afterOutcome, hjudge, Option.bind_none]
    exact ⟨_, getElem?_setPhase_self hn, rfl, rfl⟩
  | some answers =>
    have hn' : ({ c with sessions := c.sessions.modify n fun s =>
        { s with answers := some answers.tail } }).sessions[n]?
          = some { s with answers := some answers.tail } := by
      show (c.sessions.modify n _)[n]? = _
      rw [List.getElem?_modify_eq, hn]
      rfl
    cases hinput : answers.head?.join with
    | none =>
      simp only [stepAsked, hanswers, afterOutcome, hjudge, hinput, Option.bind_some]
      exact ⟨_, getElem?_setPhase_self hn', rfl, rfl⟩
    | some input =>
      simp only [stepAsked, hanswers, afterOutcome, hjudge, hinput, Option.bind_some]
      have hsettings : ({ c with sessions := c.sessions.modify n fun s =>
          { s with answers := some answers.tail } }).settings s = c.settings s := rfl
      rw [hsettings]
      cases (c.settings s).followUp q reply input with
      | error e => exact ⟨_, getElem?_setPhase_self hn', rfl, rfl⟩
      | ok next => exact ⟨_, getElem?_setPhase_self hn', rfl, rfl⟩

theorem stepOutcome_phase (hn : c.sessions[n]? = some s) (q : Packet) (outcome : Outcome) :
    ∃ s', (c.stepOutcome n s q outcome).1.sessions[n]? = some s' ∧ s'.id = s.id ∧
      s'.phase = afterOutcome (c.settings s) s.answers q outcome := by
  cases outcome with
  | error e => exact ⟨_, getElem?_setPhase_self hn, rfl, rfl⟩
  | ok reply =>
    cases hjudge : judge q reply with
    | finished result =>
      simp only [stepOutcome, afterOutcome, hjudge]
      exact ⟨_, getElem?_setPhase_self hn, rfl, rfl⟩
    | asks message noEcho kind =>
      simp only [stepOutcome, hjudge]
      exact stepAsked_phase hn hjudge

/-- A session that waits stays where it is, or takes the outcome of its exchange. -/
theorem step_awaiting (hn : c.sessions[n]? = some s) (hs : s.phase = .awaiting q w) :
    ∃ s', (c.apply (.step (.session n))).1.sessions[n]? = some s' ∧ s'.id = s.id ∧
      (w.result? c.registry c.now = none ∧ s'.phase = s.phase ∨
        ∃ outcome, w.result? c.registry c.now = some outcome ∧
          s'.phase = afterOutcome (c.settings s) s.answers q outcome) := by
  have hstep : c.step (.session n) = c.stepSession n s := by
    show (c.sessions[n]?).bind (c.stepSession n) = _
    rw [hn]
    rfl
  simp only [stepSession, hs] at hstep
  cases hw : w.result? c.registry c.now with
  | none =>
    simp only [hw] at hstep
    rw [apply_step_of_none hstep]
    exact ⟨s, hn, rfl, Or.inl ⟨rfl, rfl⟩⟩
  | some outcome =>
    simp only [hw] at hstep
    rw [apply_step_of_some hstep]
    obtain ⟨s', hs', hid, hphase⟩ := stepOutcome_phase
      (c := { c with registry := c.registry.giveUp w.ticket }) hn q outcome
    exact ⟨s', hs', hid, Or.inr ⟨outcome, rfl, hphase⟩⟩

/-! ## What every move keeps -/

/-- How far a login has come: the packets it has registered are numbered in order and none of
them has the last number, and the packet it has to send has the number that comes next. -/
structure Keeps (config : Config) (id : SessionId) (minor : MinorVersion) (rs : List Sending)
    (phase : SessionPhase) : Prop where
  past : ∀ i o, rs[i]? = some o → Numbered config id minor i o.request ∧ i < 127 ∧
    config.wire o.request = .ok o.octets
  next : ∀ q, phase = .ready q → Numbered config id minor rs.length q

theorem Keeps.of_not_ready (h : Keeps config id minor rs phase) {next : SessionPhase}
    (hnot : ∀ q, next ≠ .ready q) : Keeps config id minor rs next :=
  ⟨h.past, fun q hq => absurd hq (hnot q)⟩

theorem keeps_registers (h : Keeps config id minor rs (.ready o.request))
    (h255 : o.request.header.sequence ≠ 255) (hwire : config.wire o.request = .ok o.octets) :
    Keeps config id minor (rs ++ [o]) (.registered o) := by
  have hnumbered : Numbered config id minor rs.length o.request := h.next _ rfl
  have hne : rs.length ≠ 127 := fun he => h255 (hnumbered.sequence_eq_iff.2 he)
  refine ⟨?_, fun q hq => SessionPhase.noConfusion hq⟩
  intro i o' hi
  rcases getElem?_concat hi with hi | ⟨rfl, rfl⟩
  · exact h.past i o' hi
  · exact ⟨hnumbered, Nat.lt_of_le_of_ne hnumbered.le hne, hwire⟩

theorem numbered_of_recorded (hr : Recorded rs ws out (.awaiting q w))
    (h : Keeps config id minor rs phase) :
    ∃ done o, rs = done ++ [o] ∧ o.request = q ∧ o.ticket = w.ticket ∧
      Numbered config id minor done.length q ∧ q.header.sequence ≠ 255 := by
  obtain ⟨done, o, rfl, rfl, ht, -, -⟩ := hr
  obtain ⟨hnumbered, hlt, -⟩ := h.past done.length o (List.getElem?_concat_length)
  exact ⟨done, o, rfl, rfl, ht, hnumbered,
    fun he => absurd (hnumbered.sequence_eq_iff.1 he) (Nat.ne_of_lt hlt)⟩

/-- A login that takes the outcome of its exchange has the next packet to send, or none. -/
theorem keeps_outcome (settings : SessionSettings) {answers : Option (List (Option String))}
    (hr : Recorded rs ws out (.awaiting q w))
    (h : Keeps settings.config settings.id minor rs (.awaiting q w)) (outcome : Outcome) :
    Keeps settings.config settings.id minor rs (afterOutcome settings answers q outcome) := by
  obtain ⟨done, o, rfl, -, -, hnumbered, h255⟩ := numbered_of_recorded hr h
  by_cases hgoes : GoesOn answers q outcome
  · obtain ⟨next, hnext, hnumbered'⟩ := afterOutcome_of_goesOn settings hnumbered h255 hgoes
    rw [hnext]
    refine ⟨h.past, ?_⟩
    intro q' hq'
    cases hq'
    rw [List.length_append]
    exact hnumbered'
  · obtain ⟨result, hresult⟩ := afterOutcome_of_not_goesOn settings hnumbered.type h255 hgoes
    rw [hresult]
    exact h.of_not_ready fun _ => SessionPhase.noConfusion

/-- A session comes to a packet to send from the outcome of its exchange only. -/
theorem passage_ready {r : Registry} (hp : Passage c id phase (.ready p) r) :
    ∃ q w reply, phase = .awaiting q w ∧ c.registry.outcome? w.ticket = some (.ok reply) ∧
      ∃ message noEcho kind, judge q reply = .asks message noEcho kind := by
  cases hp with
  | asked houtcome hjudge _ => exact ⟨_, _, _, rfl, houtcome, _, _, _, hjudge⟩

theorem ready_origin (hn : c.sessions[n]? = some s) (hp : (c.apply m).1.phaseAt n = .ready p) :
    s.phase = .ready p ∨ s.phase = .idle ∨ m = .step (.session n) ∧
      Passage c s.id s.phase (.ready p) (c.apply m).1.registry := by
  obtain ⟨s', hs', -, hturn⟩ := session_apply hn m
  rw [phaseAt_of_some hs'] at hp
  generalize s'.phase = next at hturn hp
  cases hturn with
  | stays _ => exact Or.inl hp
  | called hidle _ => exact Or.inr (Or.inl hidle)
  | refused _ => cases hp
  | dropped _ => cases hp
  | passes hpass => exact Or.inr (Or.inr ⟨rfl, hp ▸ hpass⟩)

theorem busy_apply (h : c.phaseAt n ≠ .idle) (m : Move) : (c.apply m).1.phaseAt n ≠ .idle := by
  obtain ⟨s, hn, hs⟩ := session_of_phaseAt (c := c) (n := n) rfl h
  obtain ⟨s', hs', -, hturn⟩ := session_apply hn m
  rw [← hs] at h
  rw [phaseAt_of_some hs']
  generalize s'.phase = next at hturn
  cases hturn with
  | stays _ => exact h
  | called he _ => exact absurd he h
  | refused _ => exact SessionPhase.noConfusion
  | dropped _ => exact SessionPhase.noConfusion
  | passes hp =>
    generalize s.phase = phase, (c.apply (.step (.session n))).1.registry = r at hp
    rintro rfl
    cases hp

theorem busy_after (h : c.phaseAt n ≠ .idle) (ms : List Move) : (c.after ms).phaseAt n ≠ .idle := by
  induction ms generalizing c with
  | nil => exact h
  | cons m ms ih => exact ih (busy_apply h m)

theorem Keeps.length_le (h : Keeps config id minor rs phase) : rs.length ≤ 127 := by
  by_contra hgt
  obtain ⟨-, hlt, -⟩ := h.past 127 _ (List.getElem?_eq_getElem (Nat.lt_of_not_le hgt))
  exact Nat.lt_irrefl _ hlt

/-- **Every move keeps the numbers of a login in order.** -/
theorem keeps_apply (hconfig : c.config = config) (hn : c.sessions[n]? = some s)
    (hidle : s.phase ≠ .idle) (hr : Recorded rs ws out s.phase)
    (h : Keeps config s.id minor rs s.phase) (m : Move) :
    ∃ s', (c.apply m).1.sessions[n]? = some s' ∧ s'.id = s.id ∧ s'.phase ≠ .idle ∧
      Keeps config s.id minor (rs ++ (registers? n c m).toList) s'.phase := by
  subst hconfig
  obtain ⟨s', hs', hid, -⟩ := session_apply hn m
  have hbusy := busy_apply (c := c) (n := n) (by rwa [phaseAt_of_some hn]) m
  rw [phaseAt_of_some hs'] at hbusy
  refine ⟨s', hs', hid, hbusy, ?_⟩
  cases hregisters : registers? n c m with
  | some o =>
    obtain ⟨-, hphase, h255, hwire, hnext⟩ := registers?_eq_some hregisters
    rw [phaseAt_of_some hn] at hphase
    rw [phaseAt_of_some hs'] at hnext
    rw [hphase] at h
    rw [hnext]
    exact keeps_registers h h255 hwire
  | none =>
    rw [Option.toList_none, List.append_nil]
    refine ⟨h.past, ?_⟩
    intro p hp
    obtain hsame | he | ⟨rfl, hpass⟩ := ready_origin hn ((phaseAt_of_some hs').trans hp)
    · exact h.next p hsame
    · exact absurd he hidle
    · obtain ⟨q, w, -, hphase, -⟩ := passage_ready hpass
      obtain ⟨s'', hs'', -, houtcome⟩ := step_awaiting hn hphase
      obtain rfl := Option.some.inj (hs'.symm.trans hs'')
      rw [hp, hphase] at houtcome
      rw [hphase] at hr h
      obtain ⟨-, he⟩ | ⟨outcome, -, he⟩ := houtcome
      · cases he
      · exact (keeps_outcome (c.settings s) hr h outcome).next p he.symm

/-! ## From the call on -/

/-- What holds when a session is called and is kept by every move holds ever after. -/
@[elab_as_elim]
theorem called_induction {motive : List Move → Prop} {ms : List Move} {call : Call}
    (h : Called c ms n call)
    (start : ∀ opening s, (c.after opening).sessions[n]? = some s → s.phase = .idle →
      motive (opening ++ [.callSession n call]))
    (step : ∀ ms m, Called c ms n call → motive ms → motive (ms ++ [m])) : motive ms := by
  obtain ⟨opening, rest, s, rfl, hn, hidle⟩ := h
  induction rest using List.reverseRecOn with
  | nil => exact start opening s hn hidle
  | append_singleton rest m ih =>
    have hsplit : opening ++ .callSession n call :: (rest ++ [m])
        = (opening ++ .callSession n call :: rest) ++ [m] := by
      rw [List.append_assoc, List.cons_append]
    rw [hsplit]
    exact step _ m ⟨opening, rest, s, rfl, hn, hidle⟩ ih

theorem called_earlier {before later : List Move} {call : Call}
    (h : Called c (before ++ later) n call) (hbusy : (c.after before).phaseAt n ≠ .idle) :
    Called c before n call := by
  obtain ⟨opening, rest, s, hsplit, hn, hidle⟩ := h
  obtain ⟨between, rfl, hrest⟩ | ⟨between, rfl, hrest⟩ := List.append_eq_append_iff.1 hsplit
  · have hnot := busy_after hbusy between
    rw [← after_append, phaseAt_of_some hn] at hnot
    exact absurd hidle hnot
  · cases between with
    | nil =>
      rw [List.append_nil, phaseAt_of_some hn] at hbusy
      exact absurd hidle hbusy
    | cons m between =>
      obtain ⟨rfl, -⟩ := List.cons.inj hrest
      exact ⟨opening, between, s, rfl, hn, hidle⟩

theorem ready_of_call {call : Call} (hn : c.sessions[n]? = some s) (hidle : s.phase = .idle)
    (hq : (c.settings s).firstPacket? (call.draw c.identifiers).1 call = some q) :
    ∃ s', (c.apply (.callSession n call)).1.sessions[n]? = some s' ∧ s'.id = s.id ∧
      s'.phase = .ready q := by
  have hcall : c.startCall n call =
      (({ c with identifiers := (call.draw c.identifiers).2 }).setPhase n (.ready q),
        [.woke (.session n)]) := by
    obtain ⟨id, context, answers, phase⟩ := s
    obtain rfl : phase = .idle := hidle
    simp only [startCall, hn]
    have hsettings : ({ c with identifiers := (call.draw c.identifiers).2 }).settings
        ⟨id, context, answers, .idle⟩ = c.settings ⟨id, context, answers, .idle⟩ := rfl
    rw [hsettings, hq]
  show ∃ s', (c.startCall n call).1.sessions[n]? = some s' ∧ _
  rw [hcall]
  exact ⟨_, getElem?_setPhase_self
    (c := { c with identifiers := (call.draw c.identifiers).2 }) hn, rfl, rfl⟩

theorem apply_callSession {call : Call} (hn : c.sessions[n]? = some s) (hidle : s.phase = .idle)
    (htype : call.type = .authentication) :
    ∃ s' q, (c.apply (.callSession n call)).1.sessions[n]? = some s' ∧ s'.id = s.id ∧
      s'.phase = .ready q ∧ Numbered c.config s.id call.minor 0 q := by
  obtain ⟨q, hq, hnumbered⟩ :=
    firstPacket?_numbered (c.settings s) (call.draw c.identifiers).1 htype
  obtain ⟨s', hs', hid, hphase⟩ := ready_of_call hn hidle hq
  exact ⟨s', q, hs', hid, hphase, hnumbered⟩

variable {ms : List Move} {call : Call}

/-- **At every point of a login the packets it has registered are numbered in order.** -/
theorem keeps_after (hcalled : Called (fresh config identifiers) ms n call)
    (htype : call.type = .authentication) :
    ∃ s, ((fresh config identifiers).after ms).sessions[n]? = some s ∧ s.phase ≠ .idle ∧
      Keeps config s.id call.minor (registered (fresh config identifiers) n ms) s.phase := by
  have hconfig : ∀ ms, ((fresh config identifiers).after ms).config = config :=
    config_after (fresh config identifiers)
  refine called_induction hcalled ?_ ?_
  · intro opening s hn hidle
    obtain ⟨s', q, hs', hid, hphase, hnumbered⟩ := apply_callSession hn hidle htype
    have hr := recorded_after config identifiers n opening
    rw [phaseAt_of_some hn, hidle] at hr
    have hnone : registers? n ((fresh config identifiers).after opening) (.callSession n call)
        = none := by
      rw [registers?, phaseAt_of_some hn, hidle]
      rfl
    rw [after_concat, registered, gather_concat, hnone, ← registered, hr.1]
    refine ⟨s', hs', by rw [hphase]; exact SessionPhase.noConfusion, by simp, ?_⟩
    intro p hp
    obtain rfl := SessionPhase.ready.inj (hphase.symm.trans hp)
    rw [hid, ← hconfig opening]
    exact hnumbered
  · rintro ms m - ⟨s, hn, hidle, h⟩
    have hr := recorded_after config identifiers n ms
    rw [phaseAt_of_some hn] at hr
    obtain ⟨s', hs', hid, hidle', h'⟩ := keeps_apply (hconfig ms) hn hidle hr h m
    rw [← hid] at h'
    rw [after_concat, registered, gather_concat]
    exact ⟨s', hs', hidle', h'⟩

end Connection

end Tacacs
