/-
# `Tacacs.Proofs.Connection.WritingSide` — one agent at a time has the writing side

An agent knows from its phase whether it has the writing side of the stream: a session
has it while it writes and flushes, a call to close while it closes the stream, and the
dispatcher never.  The connection has a note of its own of who has it.  `OneWriter` says
that the two agree, and so no two agents have it at once (`eq_of_holds`).

A move leaves the writing side where it is, or an agent takes it that nobody has, or the
agent that has it gives it back (`Hands`).  That is all that is said here of the writing
side; who waits for it, and who is called next, does not matter.
-/
import Tacacs.Proofs.Connection.Record
import Tacacs.Proofs.Connection.Untouched

namespace Tacacs

/-- A session in this phase has the writing side of the stream. -/
def SessionPhase.writes : SessionPhase → Bool
  | .writing _ _ | .flushing _ => true
  | .idle | .ready _ | .registered _ | .queued _ | .unsent _ _ | .awaiting _ _ | .finished _
  | .dropped => false

namespace Connection

/-- An agent has the writing side of the stream, as its phase says. -/
def Holds (c : Connection) : Agent → Prop
  | .dispatcher => False
  | .session n => (c.phaseAt n).writes = true
  | .closing n => c.closings[n]? = some .holding

/-- The connection notes who has the writing side. -/
def OneWriter (c : Connection) : Prop :=
  ∀ a, c.Holds a ↔ c.writer = some a

variable {c c' : Connection} {n : Nat} {s s' : Session} {a b : Agent} {es : List Effect}
  {phase next : SessionPhase}

theorem holds_session : c.Holds (.session n) ↔ (c.phaseAt n).writes = true :=
  Iff.rfl

theorem holds_closing : c.Holds (.closing n) ↔ c.closings[n]? = some .holding :=
  Iff.rfl

/-- **No two agents have the writing side.** -/
theorem eq_of_holds (h : OneWriter c) (ha : c.Holds a) (hb : c.Holds b) : a = b :=
  Option.some.inj (((h a).1 ha).symm.trans ((h b).1 hb))

/-! ## What becomes of the writing side -/

/-- What a move makes of the writing side. -/
inductive Hands (c c' : Connection) : Prop
  | stays : c'.writer = c.writer → (∀ a, c'.Holds a ↔ c.Holds a) → Hands c c'
  | takes {a : Agent} : c.writer = none → c'.writer = some a →
      (∀ b, c'.Holds b ↔ b = a ∨ c.Holds b) → Hands c c'
  | gives {a : Agent} : c.Holds a → c'.writer = none → (∀ b, c'.Holds b ↔ b ≠ a ∧ c.Holds b) →
      Hands c c'

theorem oneWriter_hands (h : OneWriter c) (hh : Hands c c') : OneWriter c' := by
  intro b
  cases hh with
  | stays hw hholds => rw [hholds, hw, h b]
  | @takes a hnone hw hholds =>
    rw [hholds, hw, h b, hnone, Option.some.injEq]
    exact ⟨fun hb => (hb.resolve_right nofun).symm, fun hb => .inl hb.symm⟩
  | gives ha hw hholds =>
    rw [hholds, hw]
    exact ⟨fun hb => absurd (eq_of_holds h hb.2 ha) hb.1, nofun⟩

/-! ## Steps of a session -/

/-- A passage of a session that does not write: it still does not, or it has taken the
writing side. -/
theorem writes_passage {id : SessionId} {r : Registry} (hp : Passage c id phase next r)
    (h : phase.writes = false) :
    next.writes = false ∨ ∃ o, phase = .queued o ∧ next = .writing o o.octets := by
  cases hp with
  | takes => exact .inr ⟨_, rfl, rfl⟩
  | writes => cases h
  | written => cases h
  | _ => exact .inl rfl

/-- What a step of a session makes of the writing side. -/
inductive WriterStep (c : Connection) (n : Nat) :
    SessionPhase → SessionPhase → Option Agent → Prop
  | keeps {phase next : SessionPhase} : next.writes = phase.writes →
      WriterStep c n phase next c.writer
  | takes {o : Sending} : c.writer = none →
      WriterStep c n (.queued o) (.writing o o.octets) (some (.session n))
  | gives {phase next : SessionPhase} : phase.writes = true → next.writes = false →
      WriterStep c n phase next none

theorem phaseAt_setPhase (hn : c.sessions[n]? = some s) : (c.setPhase n next).phaseAt n = next :=
  phaseAt_of_some (getElem?_setPhase_self hn)

/-- Who asks for the writing side takes it if nobody has it, and else waits in line. -/
theorem askForWriter_writer (c : Connection) (a : Agent) :
    (c.writer = none ∧ ∃ line, c.askForWriter a = .taken { c with writer := some a, line }) ∨
      (∃ line, c.askForWriter a = .inLine { c with line }) ∨ c.askForWriter a = .waits := by
  unfold askForWriter
  split
  next hw => exact .inl ⟨hw, _, rfl⟩
  next =>
    split
    · exact .inr (.inl ⟨_, rfl⟩)
    · split
      · exact .inr (.inl ⟨_, rfl⟩)
      · exact .inr (.inr rfl)

theorem step_session_eq (hn : c.sessions[n]? = some s) :
    c.step (.session n) = c.stepSession n s := by
  rw [step, hn, Option.bind_some]

theorem writer_aside (hn : c.sessions[n]? = some s) (h : c.step (.session n) = some (c', es))
    (hqueued : ∀ o, s.phase ≠ .queued o) (hwrites : s.phase.writes = false) :
    c'.writer = c.writer := by
  rw [step_session_eq hn, stepSession] at h
  split at h
  next => cases h
  next => cases h
  next => cases h
  next q _ =>
    obtain ⟨_, _, hready⟩ := stepReady_eq (c := c) (n := n) (s := s) q
    rw [Option.some.inj h] at hready
    obtain rfl := hready
    rfl
  next =>
    obtain rfl := (Prod.mk.inj (Option.some.inj h)).1
    rfl
  next o hs => exact absurd hs (hqueued o)
  next hs => cases (congrArg SessionPhase.writes hs).symm.trans hwrites
  next hs => cases (congrArg SessionPhase.writes hs).symm.trans hwrites
  next =>
    obtain rfl := (Prod.mk.inj (Option.some.inj h)).1
    rfl
  next q w _ =>
    split at h
    · cases h
    · rename_i outcome _
      obtain ⟨_, htaken⟩ := stepOutcome_eq (c := { c with registry := c.registry.giveUp w.ticket })
        (n := n) (s := s) q outcome
      rw [Option.some.inj h] at htaken
      obtain rfl := htaken
      rfl

theorem writer_queued {o : Sending} (hn : c.sessions[n]? = some s) (hs : s.phase = .queued o)
    (h : c.step (.session n) = some (c', es)) :
    WriterStep c n s.phase (c'.phaseAt n) c'.writer := by
  rw [step_session_eq hn, stepSession] at h
  simp only [hs] at h
  rcases askForWriter_writer c (.session n) with ⟨hw, line, ha⟩ | ⟨line, ha⟩ | ha
  · rw [ha] at h
    obtain rfl := (Prod.mk.inj (Option.some.inj h)).1
    rw [hs, phaseAt_setPhase (c := { c with writer := some (.session n), line }) hn]
    exact .takes hw
  · rw [ha] at h
    obtain rfl := (Prod.mk.inj (Option.some.inj h)).1
    have hphase : ({ c with line }).phaseAt n = s.phase := phaseAt_of_some hn
    rw [hphase]
    exact .keeps rfl
  · rw [ha] at h
    cases h

theorem writer_writing (hn : c.sessions[n]? = some s) (hwrites : s.phase.writes = true)
    (h : c.step (.session n) = some (c', es)) :
    WriterStep c n s.phase (c'.phaseAt n) c'.writer := by
  rw [step_session_eq hn, stepSession] at h
  cases hs : s.phase with
  | writing o rest =>
    simp only [hs] at h
    unfold stepWriting at h
    split at h
    · cases h
    · rename_i f rules _
      obtain rfl := (Prod.mk.inj (Option.some.inj h)).1
      exact .gives rfl (congrArg _ (phaseAt_setPhase (c := ({ c with rules }).giveBackWriter.1) hn))
    · rename_i octets left rules _
      obtain rfl := (Prod.mk.inj (Option.some.inj h)).1
      refine .keeps ?_
      rw [phaseAt_of_some (getElem?_setPhase_self (c := { c with rules }) hn)]
      dsimp only
      split <;> rfl
  | flushing o =>
    simp only [hs, Option.some.injEq] at h
    unfold stepFlushing at h
    dsimp only at h
    split at h
    · obtain rfl := (Prod.mk.inj h).1
      exact .gives rfl (congrArg _ (phaseAt_of_some (getElem?_setPhase_self hn)))
    · obtain rfl := (Prod.mk.inj h).1
      exact .gives rfl (congrArg _ (phaseAt_of_some (getElem?_setPhase_self hn)))
  | _ =>
    rw [hs] at hwrites
    cases hwrites

theorem writer_step (hn : c.sessions[n]? = some s) (h : c.step (.session n) = some (c', es)) :
    WriterStep c n s.phase (c'.phaseAt n) c'.writer := by
  cases hwrites : s.phase.writes with
  | true => exact writer_writing hn hwrites h
  | false =>
    by_cases hqueued : ∃ o, s.phase = .queued o
    · obtain ⟨o, hs⟩ := hqueued
      exact writer_queued hn hs h
    · have hnot (o : Sending) (hs : s.phase = .queued o) : False := hqueued ⟨o, hs⟩
      rw [writer_aside hn h hnot hwrites]
      obtain ⟨s₀, next, hn₀, hstep⟩ := step_session h
      obtain rfl := Option.some.inj (hn.symm.trans hn₀)
      obtain ⟨s', hs', -, rfl⟩ := getElem?_step_self hn hstep
      rw [phaseAt_of_some hs']
      rcases writes_passage hstep.passage hwrites with hnext | ⟨o, hs, -⟩
      · exact .keeps (hnext.trans hwrites.symm)
      · exact absurd hs (hnot o)

/-! ## Every move -/

/-- Where the others have the writing side if they had it before, it is enough to look at
one agent. -/
theorem hands_of_others (others : ∀ b, b ≠ a → (c'.Holds b ↔ c.Holds b))
    (h : c'.writer = c.writer ∧ (c'.Holds a ↔ c.Holds a) ∨
      (c.writer = none ∧ c'.writer = some a ∧ c'.Holds a) ∨
      (c.Holds a ∧ c'.writer = none ∧ ¬c'.Holds a)) : Hands c c' := by
  rcases h with ⟨hw, hself⟩ | ⟨hnone, hw, hself⟩ | ⟨hbefore, hw, hself⟩
  · refine .stays hw ?_
    intro b
    by_cases hb : b = a
    · exact hb ▸ hself
    · exact others b hb
  · refine .takes hnone hw ?_
    intro b
    by_cases hb : b = a
    · exact ⟨fun _ => .inl hb, fun _ => hb ▸ hself⟩
    · rw [others b hb]
      exact ⟨.inr, fun h => h.resolve_left hb⟩
  · refine .gives hbefore hw ?_
    intro b
    by_cases hb : b = a
    · exact ⟨fun h => absurd (hb ▸ h) hself, fun h => absurd hb h.1⟩
    · rw [others b hb]
      exact ⟨fun h => ⟨hb, h⟩, And.right⟩

/-- Where a move touches neither the note nor the phases of those who may write, the
writing side stays where it is. -/
theorem hands_same (hw : c'.writer = c.writer) (hs : ∀ k, c'.phaseAt k = c.phaseAt k)
    (hc : ∀ k : Nat, c'.closings[k]? = some .holding ↔ c.closings[k]? = some .holding) :
    Hands c c' := by
  refine .stays hw ?_
  intro b
  cases b with
  | dispatcher => exact Iff.rfl
  | session k => rw [holds_session, holds_session, hs k]
  | closing k => exact hc k

theorem hands_session (h : c.step (.session n) = some (c', es)) : Hands c c' := by
  obtain ⟨s, next, hn, hstep⟩ := step_session h
  obtain ⟨c₁, h₁, hc'⟩ := hstep.after
  have hclosings : c'.closings = c.closings := hc' ▸ h₁.closings
  refine hands_of_others (a := .session n) ?_ ?_
  · intro b hb
    cases b with
    | dispatcher => exact Iff.rfl
    | session k =>
      have hk : k ≠ n := fun hk => hb (congrArg _ hk)
      rw [holds_session, holds_session, phaseAt, phaseAt, getElem?_step_of_ne hstep hk]
    | closing k => rw [holds_closing, holds_closing, hclosings]
  · have hw := writer_step hn h
    rw [← phaseAt_of_some hn] at hw
    rw [holds_session, holds_session]
    generalize c.phaseAt n = phase, c'.phaseAt n = phase', c'.writer = writer at hw
    cases hw with
    | keeps hwrites => exact .inl ⟨rfl, by rw [hwrites]⟩
    | takes hnone => exact .inr (.inl ⟨hnone, rfl, rfl⟩)
    | gives hwrites hnext =>
      refine .inr (.inr ⟨hwrites, rfl, ?_⟩)
      rw [hnext]
      exact Bool.false_ne_true

/-- What a step of a call to close makes of the writing side. -/
theorem writer_closing {p next : ClosingPhase} (hn : c.closings[n]? = some p)
    (h : c.step (.closing n) = some (c', es)) (hstep : ClosingStep c n p next c' es) :
    c'.writer = c.writer ∧ (next = .holding ↔ p = .holding) ∨
      (c.writer = none ∧ c'.writer = some (.closing n) ∧ next = .holding) ∨
      (p = .holding ∧ c'.writer = none ∧ next ≠ .holding) := by
  have hp := hstep.passage
  have hlast : c'.closings[n]? = some next := by
    rw [hstep.closings, List.getElem?_set_self (List.getElem?_eq_some_iff.1 hn).1]
  rw [step, hn, Option.bind_some] at h
  cases p with
  | ending stage =>
    obtain ⟨_, _, hend⟩ := endStep_eq (c := c) .closed stage
    refine .inl ⟨?_, ?_⟩
    · simp only [stepClosing] at h
      split at h
      next he =>
        obtain rfl := (Prod.mk.inj (Option.some.inj h)).1
        rw [he] at hend
        obtain rfl := hend
        rfl
      next he =>
        obtain rfl := (Prod.mk.inj (Option.some.inj h)).1
        rw [he] at hend
        obtain rfl := hend
        rfl
    · generalize c'.registry = r, c'.closed = b at hp
      -- neither before nor after does it hold the lock
      cases hp with
      | ends _ => exact ⟨ClosingPhase.noConfusion, ClosingPhase.noConfusion⟩
      | lines _ => exact ⟨ClosingPhase.noConfusion, ClosingPhase.noConfusion⟩
  | queued =>
    simp only [stepClosing] at h
    rcases askForWriter_writer c (.closing n) with ⟨hw, line, ha⟩ | ⟨line, ha⟩ | ha
    · rw [ha] at h
      obtain rfl := (Prod.mk.inj (Option.some.inj h)).1
      have hset : (c.closings.set n .holding)[n]? = some next := hlast
      rw [List.getElem?_set_self (List.getElem?_eq_some_iff.1 hn).1] at hset
      exact .inr (.inl ⟨hw, rfl, (Option.some.inj hset).symm⟩)
    · rw [ha] at h
      obtain rfl := (Prod.mk.inj (Option.some.inj h)).1
      have hsame : c.closings[n]? = some next := hlast
      obtain rfl := Option.some.inj (hn.symm.trans hsame)
      exact .inl ⟨rfl, Iff.rfl⟩
    · rw [ha] at h
      cases h
  | holding =>
    obtain rfl := (Prod.mk.inj (Option.some.inj h)).1
    refine .inr (.inr ⟨rfl, rfl, ?_⟩)
    cases hp with
    | finishes => exact fun he => ClosingPhase.noConfusion he
  | finished _ => cases h
  | dropped => cases h

theorem hands_closing (h : c.step (.closing n) = some (c', es)) : Hands c c' := by
  obtain ⟨p, next, hn, hstep⟩ := step_closing h
  have hself : c'.Holds (.closing n) ↔ next = .holding := by
    rw [holds_closing, hstep.closings,
      List.getElem?_set_self (List.getElem?_eq_some_iff.1 hn).1, Option.some.injEq]
  have hbefore : c.Holds (.closing n) ↔ p = .holding := by
    rw [holds_closing, hn, Option.some.injEq]
  refine hands_of_others (a := .closing n) ?_ ?_
  · intro b hb
    cases b with
    | dispatcher => exact Iff.rfl
    | session k => rw [holds_session, holds_session, phaseAt, phaseAt, hstep.sessions]
    | closing k =>
      have hk : n ≠ k := fun hk => hb (congrArg _ hk.symm)
      rw [holds_closing, holds_closing, hstep.closings, List.getElem?_set_ne hk]
  · rw [hself, hbefore]
    exact writer_closing hn h hstep

theorem hands_dispatcher (h : c.step .dispatcher = some (c', es)) : Hands c c' := by
  have hstep := step_dispatcher h
  have hwriter : c'.writer = c.writer := by
    obtain ⟨_, _, _, _, _, rfl⟩ := byDispatcher_step h
    rfl
  refine hands_same hwriter ?_ ?_
  · intro k
    rw [phaseAt, phaseAt, hstep.sessions]
  · intro k
    rw [hstep.closings]

theorem leaveWriter_writer (c : Connection) (a : Agent) :
    (c.leaveWriter a).1.writer = (if c.writer = some a then none else c.writer) ∧
      (c.leaveWriter a).1.sessions = c.sessions ∧ (c.leaveWriter a).1.closings = c.closings := by
  unfold leaveWriter
  split
  · exact ⟨rfl, rfl, rfl⟩
  · exact ⟨rfl, rfl, rfl⟩

theorem hands_leaveWriter {c₁ : Connection} (h : OneWriter c) (hw : c₁.writer = c.writer)
    (others : ∀ b, b ≠ a → (c₁.Holds b ↔ c.Holds b)) (hself : ¬c₁.Holds a) :
    Hands c (c₁.leaveWriter a).1 := by
  obtain ⟨hwriter, hsessions, hclosings⟩ := leaveWriter_writer c₁ a
  have same (b : Agent) : (c₁.leaveWriter a).1.Holds b ↔ c₁.Holds b := by
    cases b with
    | dispatcher => exact Iff.rfl
    | session k => rw [holds_session, holds_session, phaseAt, phaseAt, hsessions]
    | closing k => rw [holds_closing, holds_closing, hclosings]
  refine hands_of_others (fun b hb => (same b).trans (others b hb)) ?_
  rw [same a, hwriter, hw]
  by_cases ha : c.writer = some a
  · exact .inr (.inr ⟨(h a).2 ha, if_pos ha, hself⟩)
  · refine .inl ⟨if_neg ha, ?_⟩
    exact ⟨fun hnot => absurd hnot hself, fun hheld => absurd ((h a).1 hheld) ha⟩

theorem holds_setPhase (hnext : next.writes = false) :
    (∀ b, b ≠ .session n → ((c.setPhase n next).Holds b ↔ c.Holds b)) ∧
      ¬(c.setPhase n next).Holds (.session n) := by
  refine ⟨?_, ?_⟩
  · intro b hb
    cases b with
    | dispatcher => exact Iff.rfl
    | session k =>
      have hk : k ≠ n := fun hk => hb (congrArg _ hk)
      rw [holds_session, holds_session, phaseAt, phaseAt, getElem?_setPhase_of_ne hk]
    | closing k => exact Iff.rfl
  · rw [holds_session]
    cases hn : c.sessions[n]? with
    | none =>
      have hnone : (c.setPhase n next).sessions[n]? = none := by
        show (c.sessions.modify n _)[n]? = none
        rw [List.getElem?_modify, hn]
        rfl
      rw [phaseAt_of_none hnone]
      exact Bool.false_ne_true
    | some s =>
      rw [phaseAt_setPhase hn, hnext]
      exact Bool.false_ne_true

theorem hands_drop (h : OneWriter c) (a : Agent) : Hands c (c.dropAgent a).1 := by
  unfold dropAgent
  split
  · exact hands_same rfl (fun _ => rfl) fun _ => Iff.rfl
  · cases a with
    | dispatcher => exact hands_same rfl (fun _ => rfl) fun _ => Iff.rfl
    | session n =>
      have hdropped : SessionPhase.dropped.writes = false := rfl
      obtain ⟨others, hself⟩ := holds_setPhase (n := n) hdropped
      exact hands_leaveWriter h rfl others hself
    | closing n =>
      have others (b : Agent) (hb : b ≠ .closing n) :
          (c.setClosing n .dropped).Holds b ↔ c.Holds b := by
        cases b with
        | dispatcher => exact Iff.rfl
        | session k => exact Iff.rfl
        | closing k =>
          have hk : n ≠ k := fun hk => hb (congrArg _ hk.symm)
          show (c.closings.set n .dropped)[k]? = _ ↔ _
          rw [List.getElem?_set_ne hk]
          exact Iff.rfl
      refine hands_leaveWriter h rfl others ?_
      show ¬(c.closings.set n .dropped)[n]? = some .holding
      rw [List.getElem?_set]
      simp

theorem hands_call (call : Call) : Hands c (c.startCall n call).1 := by
  have calls {identifiers : Chap.IdentifierSequence} {phase : SessionPhase} {s : Session}
      (hn : c.sessions[n]? = some s) (hidle : s.phase = .idle) (hphase : phase.writes = false) :
      Hands c (({ c with identifiers }).setPhase n phase) := by
    obtain ⟨others, hself⟩ := holds_setPhase (c := { c with identifiers }) (n := n) hphase
    refine hands_of_others others (.inl ⟨rfl, ?_⟩)
    refine ⟨fun h => absurd h hself, fun h => ?_⟩
    rw [holds_session, phaseAt_of_some hn, hidle] at h
    cases h
  unfold startCall
  split
  next hn =>
    dsimp only
    split
    · exact calls hn rfl rfl
    · exact calls hn rfl rfl
  next => exact hands_same rfl (fun _ => rfl) fun _ => Iff.rfl

/-- **A move leaves the writing side where it is, or hands it over.** -/
theorem hands_apply (h : OneWriter c) (m : Move) : Hands c (c.apply m).1 := by
  have same : Hands c c := hands_same rfl (fun _ => rfl) fun _ => Iff.rfl
  cases m with
  | openSession candidates context answers =>
    refine hands_same rfl (fun k => ?_) fun _ => Iff.rfl
    cases hk : c.sessions[k]? with
    | none => rw [phaseAt_of_none hk, phaseAt_new hk]
    | some s =>
      have hlt : k < c.sessions.length := (List.getElem?_eq_some_iff.1 hk).1
      rw [phaseAt_of_some hk]
      exact phaseAt_of_some ((List.getElem?_append_left hlt).trans hk)
  | callSession n call => exact hands_call call
  | startClosing =>
    refine hands_same rfl (fun _ => rfl) fun k => ?_
    show (c.closings ++ [.ending .mark])[k]? = _ ↔ _
    rcases Nat.lt_or_ge k c.closings.length with hlt | hge
    · rw [List.getElem?_append_left hlt]
    · rw [List.getElem?_append_right hge, List.getElem?_eq_none hge]
      refine ⟨fun hk => ?_, nofun⟩
      cases List.mem_singleton.1 (List.mem_of_getElem? hk)
  | startDispatcher =>
    dsimp only [apply]
    split
    · exact hands_same rfl (fun _ => rfl) fun _ => Iff.rfl
    · exact same
  | drop a => exact hands_drop h a
  | arrive arrivals => exact hands_same rfl (fun _ => rfl) fun _ => Iff.rfl
  | changeRules rules => exact hands_same rfl (fun _ => rfl) fun _ => Iff.rfl
  | advance span => exact hands_same rfl (fun _ => rfl) fun _ => Iff.rfl
  | step a =>
    cases hstep : c.step a with
    | none =>
      rw [apply_step_of_none hstep]
      exact same
    | some p =>
      rw [apply_step_of_some hstep]
      cases a with
      | dispatcher => exact hands_dispatcher hstep
      | session n => exact hands_session hstep
      | closing n => exact hands_closing hstep

/-- **In every run the connection notes who has the writing side.** -/
theorem oneWriter_after (config : Config) (identifiers : Chap.IdentifierSequence)
    (ms : List Move) : OneWriter ((fresh config identifiers).after ms) := by
  induction ms using List.reverseRecOn with
  | nil =>
    intro a
    cases a with
    | dispatcher => exact ⟨nofun, nofun⟩
    | session n => exact ⟨fun h => Bool.noConfusion h, nofun⟩
    | closing n => exact ⟨nofun, nofun⟩
  | append_singleton ms m ih =>
    rw [after_concat]
    exact oneWriter_hands ih (hands_apply ih m)

end Connection

end Tacacs
