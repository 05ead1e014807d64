/-
# `Tacacs.Proofs.Connection.Untouched` — what the steps of an agent leave alone

A connection is one record for all who act on it, and each of them changes but a part:

    a session          sessions, registry, rules, writer, line
    a call to close    closings, closed, registry, writer, line, closes
    the dispatcher     dispatcher, closed, registry, established, arrivals

`BySession`, `ByClosing` and `ByDispatcher` say so by giving the connection after a step as the
one before it with other values in just these places.  What is in none of them is the same
before and after, and that is then seen at once, whatever it is: the settings, the clock, the
source of identifiers.  The last is changed by the call of a session alone (`startCall_eq`).
-/
import Tacacs.Proofs.Connection.Moves

namespace Tacacs.Connection

/-- A connection is another one, but for what a session can change. -/
def BySession (c c' : Connection) : Prop :=
  ∃ sessions registry rules writer line,
    c' = { c with sessions, registry, rules, writer, line }

/-- A connection is another one, but for what a call to close can change. -/
def ByClosing (c c' : Connection) : Prop :=
  ∃ closings closed registry writer line closes,
    c' = { c with closings, closed, registry, writer, line, closes }

/-- A connection is another one, but for what the dispatcher can change. -/
def ByDispatcher (c c' : Connection) : Prop :=
  ∃ dispatcher closed registry established arrivals,
    c' = { c with dispatcher, closed, registry, established, arrivals }

variable {c c' : Connection} {n : Nat} {s : Session} {es : List Effect}

/-! ## Sessions -/

theorem startCall_eq (c : Connection) (n : Nat) (call : Call) :
    ∃ sessions identifiers, (c.startCall n call).1 = { c with sessions, identifiers } := by
  unfold startCall
  split
  · dsimp only
    split <;> exact ⟨_, _, rfl⟩
  · exact ⟨_, _, rfl⟩

theorem stepReady_eq (q : Packet) :
    ∃ sessions registry, (c.stepReady n s q).1 = { c with sessions, registry } := by
  unfold stepReady
  split
  · exact ⟨_, _, rfl⟩
  · split <;> exact ⟨_, _, rfl⟩

/-- To take an outcome is a matter of the sessions alone. -/
theorem stepOutcome_eq (q : Packet) (outcome : Outcome) :
    ∃ sessions, (c.stepOutcome n s q outcome).1 = { c with sessions } := by
  unfold stepOutcome
  split
  · exact ⟨_, rfl⟩
  · split
    · unfold stepAsked
      split
      · exact ⟨_, rfl⟩
      · dsimp only
        split
        · exact ⟨_, rfl⟩
        · split <;> exact ⟨_, rfl⟩
    · exact ⟨_, rfl⟩

theorem bySession_stepWriting {o : Sending} {rest : Octets}
    (h : c.stepWriting n o rest = some (c', es)) : BySession c c' := by
  unfold stepWriting at h
  split at h
  · cases h
  · obtain rfl := (Prod.mk.inj (Option.some.inj h)).1
    exact ⟨_, _, _, _, _, rfl⟩
  · obtain rfl := (Prod.mk.inj (Option.some.inj h)).1
    exact ⟨_, _, _, _, _, rfl⟩

theorem bySession_stepFlushing (o : Sending) : BySession c (c.stepFlushing n o).1 := by
  unfold stepFlushing
  dsimp only
  split <;> exact ⟨_, _, _, _, _, rfl⟩

/-- **A session changes nothing else**, whatever it sends and whatever it is told. -/
theorem bySession_step (h : c.step (.session n) = some (c', es)) : BySession c c' := by
  obtain ⟨s, hn, h⟩ := Option.bind_eq_some_iff.1 h
  rw [stepSession] at h
  split at h
  next => cases h
  next => cases h
  next => cases h
  next q _ =>
    obtain ⟨_, _, hready⟩ := stepReady_eq (c := c) (n := n) (s := s) q
    rw [Option.some.inj h] at hready
    obtain rfl := hready
    exact ⟨_, _, _, _, _, rfl⟩
  next =>
    obtain rfl := (Prod.mk.inj (Option.some.inj h)).1
    exact ⟨_, _, _, _, _, rfl⟩
  next =>
    rcases askForWriter_cases (c := c) (.session n) with ⟨line, writer, ha⟩ | ⟨line, ha⟩ | ha
    · rw [ha] at h
      obtain rfl := (Prod.mk.inj (Option.some.inj h)).1
      exact ⟨_, _, _, _, _, rfl⟩
    · rw [ha] at h
      obtain rfl := (Prod.mk.inj (Option.some.inj h)).1
      exact ⟨_, _, _, _, _, rfl⟩
    · rw [ha] at h
      cases h
  next => exact bySession_stepWriting h
  next o _ =>
    have hstep := bySession_stepFlushing (c := c) (n := n) o
    rwa [Option.some.inj h] at hstep
  next =>
    obtain rfl := (Prod.mk.inj (Option.some.inj h)).1
    exact ⟨_, _, _, _, _, rfl⟩
  next q w _ =>
    split at h
    · cases h
    · rename_i outcome _
      obtain ⟨_, htaken⟩ := stepOutcome_eq (c := { c with registry := c.registry.giveUp w.ticket })
        (n := n) (s := s) q outcome
      rw [Option.some.inj h] at htaken
      obtain rfl := htaken
      exact ⟨_, _, _, _, _, rfl⟩

/-! ## Those who end a connection -/

/-- The stages of an end have to do with the mark and with the exchanges alone. -/
theorem endStep_eq (told : Failure) (stage : EndStage) :
    ∃ closed registry, (c.endStep told stage).2.1 = { c with closed, registry } := by
  cases stage with
  | mark => exact ⟨_, _, rfl⟩
  | collect => exact ⟨_, _, rfl⟩
  | fail ids => cases ids <;> exact ⟨_, _, rfl⟩

/-- **A call to close changes nothing else.** -/
theorem byClosing_step (h : c.step (.closing n) = some (c', es)) : ByClosing c c' := by
  obtain ⟨p, hn, h⟩ := Option.bind_eq_some_iff.1 h
  cases p with
  | ending stage =>
    obtain ⟨_, _, hend⟩ := endStep_eq (c := c) .closed stage
    rw [stepClosing] at h
    split at h
    · rename_i he
      obtain rfl := (Prod.mk.inj (Option.some.inj h)).1
      rw [he] at hend
      obtain rfl := hend
      exact ⟨_, _, _, _, _, _, rfl⟩
    · rename_i he
      obtain rfl := (Prod.mk.inj (Option.some.inj h)).1
      rw [he] at hend
      obtain rfl := hend
      exact ⟨_, _, _, _, _, _, rfl⟩
  | queued =>
    rw [stepClosing] at h
    rcases askForWriter_cases (c := c) (.closing n) with ⟨line, writer, ha⟩ | ⟨line, ha⟩ | ha
    · rw [ha] at h
      obtain rfl := (Prod.mk.inj (Option.some.inj h)).1
      exact ⟨_, _, _, _, _, _, rfl⟩
    · rw [ha] at h
      obtain rfl := (Prod.mk.inj (Option.some.inj h)).1
      exact ⟨_, _, _, _, _, _, rfl⟩
    · rw [ha] at h
      cases h
  | holding =>
    obtain rfl := (Prod.mk.inj (Option.some.inj h)).1
    exact ⟨_, _, _, _, _, _, rfl⟩
  | finished _ => cases h
  | dropped => cases h

/-! ## The dispatcher -/

theorem byDispatcher_stepFrame (f : Frame) : ByDispatcher c (c.stepFrame f).1 := by
  unfold stepFrame
  dsimp only
  split <;> exact ⟨_, _, _, _, _, rfl⟩

/-- **The dispatcher changes nothing else**, whatever arrives. -/
theorem byDispatcher_step (h : c.step .dispatcher = some (c', es)) : ByDispatcher c c' := by
  rw [step, stepDispatcher] at h
  split at h
  next => cases h
  next => cases h
  next => cases h
  next =>
    split at h
    next => cases h
    next =>
      dsimp only at h
      split at h
      next =>
        obtain rfl := (Prod.mk.inj (Option.some.inj h)).1
        exact ⟨_, _, _, _, _, rfl⟩
      next f _ =>
        have hstep := congrArg Prod.fst (Option.some.inj h)
        obtain ⟨_, _, _, _, _, hframe⟩ := byDispatcher_stepFrame (c := { c with arrivals := _ }) f
        rw [hframe] at hstep
        obtain rfl := hstep
        exact ⟨_, _, _, _, _, rfl⟩
      next =>
        obtain rfl := (Prod.mk.inj (Option.some.inj h)).1
        exact ⟨_, _, _, _, _, rfl⟩
      next =>
        obtain rfl := (Prod.mk.inj (Option.some.inj h)).1
        exact ⟨_, _, _, _, _, rfl⟩
  next stage told _ _ =>
    obtain ⟨_, _, hend⟩ := endStep_eq (c := c) told stage
    split at h
    next he =>
      obtain rfl := (Prod.mk.inj (Option.some.inj h)).1
      rw [he] at hend
      obtain rfl := hend
      exact ⟨_, _, _, _, _, rfl⟩
    next he =>
      obtain rfl := (Prod.mk.inj (Option.some.inj h)).1
      rw [he] at hend
      obtain rfl := hend
      exact ⟨_, _, _, _, _, rfl⟩

end Tacacs.Connection
