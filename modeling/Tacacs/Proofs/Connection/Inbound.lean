/-
# `Tacacs.Proofs.Connection.Inbound` — only the dispatcher looks at what comes in

What has arrived on the stream, and how far the dispatcher has come in reading it, is no
concern of anybody else.  A session or a call to close goes on in the same way whatever
stands there, and leaves it as it stands; the same holds of everything from outside that
does not bring something in or start or stop the dispatcher (`apply_withInbound`).

So two connections that differ only in their receiving side can be led along the same
way, and what a session does depends on the server through the registry alone.
-/
import Tacacs.Proofs.Connection.Moves

namespace Tacacs

/-- The move belongs to the receiving side of a connection: something comes in, or the
dispatcher is started, is called off or goes on. -/
def Move.isInbound : Move → Bool
  | .startDispatcher | .drop .dispatcher | .arrive _ | .step .dispatcher => true
  | _ => false

theorem Move.inbound_cases {m : Move} (h : m.isInbound = true) :
    m = .startDispatcher ∨ m = .drop .dispatcher ∨ (∃ arrivals, m = .arrive arrivals) ∨
      m = .step .dispatcher := by
  unfold isInbound at h
  split at h
  · exact .inl rfl
  · exact .inr (.inl rfl)
  · exact .inr (.inr (.inl ⟨_, rfl⟩))
  · exact .inr (.inr (.inr rfl))
  · cases h

namespace Connection

/-- A connection with another receiving side: where the dispatcher is, and what has
arrived and was not read. -/
def withInbound (d : DispatcherPhase) (a : List Arrival) (c : Connection) : Connection :=
  { c with dispatcher := d, arrivals := a }

@[simp] theorem withInbound_self (c : Connection) :
    c.withInbound c.dispatcher c.arrivals = c := rfl

variable (c : Connection) (d : DispatcherPhase) (a : List Arrival)

/-! ## Parts of steps -/

theorem askForWriter_withInbound (agent : Agent) :
    (c.withInbound d a).askForWriter agent =
      match c.askForWriter agent with
      | .taken c => .taken (c.withInbound d a)
      | .inLine c => .inLine (c.withInbound d a)
      | .waits => .waits := by
  simp only [askForWriter, withInbound]
  split
  · rfl
  · split
    · rfl
    · split <;> rfl

theorem endStep_withInbound (told : Failure) (stage : EndStage) :
    (c.withInbound d a).endStep told stage =
      ((c.endStep told stage).1, (c.endStep told stage).2.1.withInbound d a,
        (c.endStep told stage).2.2) := by
  cases stage with
  | mark => rfl
  | collect => rfl
  | fail ids => cases ids <;> rfl

theorem stepReady_withInbound (n : Nat) (s : Session) (q : Packet) :
    (c.withInbound d a).stepReady n s q =
      ((c.stepReady n s q).1.withInbound d a, (c.stepReady n s q).2) := by
  simp only [stepReady, withInbound]
  split
  · rfl
  · split <;> rfl

theorem stepWriting_withInbound (n : Nat) (o : Sending) (rest : Octets) :
    (c.withInbound d a).stepWriting n o rest =
      (c.stepWriting n o rest).map fun p => (p.1.withInbound d a, p.2) := by
  simp only [stepWriting, withInbound]
  split <;> rfl

theorem stepFlushing_withInbound (n : Nat) (o : Sending) :
    (c.withInbound d a).stepFlushing n o =
      ((c.stepFlushing n o).1.withInbound d a, (c.stepFlushing n o).2) := by
  simp only [stepFlushing, giveBackWriter, withInbound]
  split <;> rfl

theorem stepAsked_withInbound (n : Nat) (s : Session) (q reply : Packet) (message : String)
    (noEcho : Bool) (kind : PromptKind) :
    (c.withInbound d a).stepAsked n s q reply message noEcho kind =
      ((c.stepAsked n s q reply message noEcho kind).1.withInbound d a,
        (c.stepAsked n s q reply message noEcho kind).2) := by
  simp only [stepAsked, settings, withInbound]
  split
  · rfl
  · split
    · rfl
    · split <;> rfl

theorem stepOutcome_withInbound (n : Nat) (s : Session) (q : Packet) (outcome : Outcome) :
    (c.withInbound d a).stepOutcome n s q outcome =
      ((c.stepOutcome n s q outcome).1.withInbound d a, (c.stepOutcome n s q outcome).2) := by
  cases outcome with
  | error e => rfl
  | ok reply =>
    simp only [stepOutcome]
    split
    · exact stepAsked_withInbound ..
    · rfl

theorem leaveWriter_withInbound (agent : Agent) :
    (c.withInbound d a).leaveWriter agent =
      ((c.leaveWriter agent).1.withInbound d a, (c.leaveWriter agent).2) := by
  by_cases h : c.writer = some agent
  · have h' : (c.withInbound d a).writer = some agent := h
    rw [leaveWriter, leaveWriter, if_pos h, if_pos h']
    rfl
  · have h' : ¬(c.withInbound d a).writer = some agent := h
    rw [leaveWriter, leaveWriter, if_neg h, if_neg h']
    rfl

/-! ## Steps -/

theorem stepSession_withInbound (n : Nat) (s : Session) :
    (c.withInbound d a).stepSession n s =
      (c.stepSession n s).map fun p => (p.1.withInbound d a, p.2) := by
  unfold stepSession
  split
  · rfl
  · rfl
  · rfl
  · exact congrArg some (stepReady_withInbound ..)
  · rfl
  · rw [askForWriter_withInbound]
    cases c.askForWriter (.session n) <;> rfl
  · exact stepWriting_withInbound ..
  · exact congrArg some (stepFlushing_withInbound ..)
  · rfl
  · rename_i request w _
    have hresult : w.result? (c.withInbound d a).registry (c.withInbound d a).now
        = w.result? c.registry c.now := rfl
    rw [hresult]
    cases w.result? c.registry c.now with
    | none => rfl
    | some outcome =>
      exact congrArg some (stepOutcome_withInbound
        { c with registry := c.registry.giveUp w.ticket } d a n s request outcome)

theorem stepClosing_withInbound (n : Nat) (p : ClosingPhase) :
    (c.withInbound d a).stepClosing n p =
      (c.stepClosing n p).map fun p => (p.1.withInbound d a, p.2) := by
  cases p with
  | ending stage =>
    cases stage with
    | mark => rfl
    | collect => rfl
    | fail ids => cases ids <;> rfl
  | queued =>
    simp only [stepClosing, askForWriter_withInbound]
    cases c.askForWriter (.closing n) <;> rfl
  | holding => rfl
  | finished _ => rfl
  | dropped => rfl

/-! ## Moves -/

theorem startCall_withInbound (n : Nat) (call : Call) :
    (c.withInbound d a).startCall n call =
      ((c.startCall n call).1.withInbound d a, (c.startCall n call).2) := by
  simp only [startCall, withInbound]
  split
  · simp only [settings]
    split <;> rfl
  · rfl

theorem dropAgent_withInbound {agent : Agent} (h : agent ≠ .dispatcher) :
    (c.withInbound d a).dropAgent agent =
      ((c.dropAgent agent).1.withInbound d a, (c.dropAgent agent).2) := by
  cases agent with
  | dispatcher => exact absurd rfl h
  | closing n =>
    unfold dropAgent
    show (if (!c.started (.closing n) || !c.canStop (.closing n)) then _ else _) = _
    split
    · rfl
    · exact leaveWriter_withInbound (c.setClosing n .dropped) d a (.closing n)
  | session n =>
    unfold dropAgent
    show (if (!c.started (.session n) || !c.canStop (.session n)) then _ else _) = _
    split
    · rfl
    · let ticket := (c.sessions[n]?.map Session.phase).bind SessionPhase.ticket?
      let registry := ticket.elim c.registry c.registry.giveUp
      exact leaveWriter_withInbound (({ c with registry }).setPhase n .dropped) d a (.session n)

/-- **Nobody but the dispatcher looks at what comes in.** -/
theorem apply_withInbound {m : Move} (h : m.isInbound = false) :
    (c.withInbound d a).apply m = ((c.apply m).1.withInbound d a, (c.apply m).2) := by
  have steps : ∀ {p : Option (Connection × List Effect)},
      (p.map fun p => (p.1.withInbound d a, p.2)).getD (c.withInbound d a, []) =
        ((p.getD (c, [])).1.withInbound d a, (p.getD (c, [])).2) := by
    rintro (_ | _)
    · rfl
    · rfl
  cases m with
  | openSession candidates context answers => rfl
  | callSession n call => exact startCall_withInbound ..
  | startClosing => rfl
  | startDispatcher => cases h
  | arrive arrivals => cases h
  | changeRules rules => rfl
  | advance span => rfl
  | drop agent =>
    refine dropAgent_withInbound c d a ?_
    rintro rfl
    cases h
  | step agent =>
    cases agent with
    | dispatcher => cases h
    | session n =>
      have hstep : (c.withInbound d a).step (.session n) =
          (c.step (.session n)).map fun p => (p.1.withInbound d a, p.2) := by
        show (c.sessions[n]?).bind _ = ((c.sessions[n]?).bind _).map _
        cases c.sessions[n]? with
        | none => rfl
        | some s => exact stepSession_withInbound ..
      show ((c.withInbound d a).step (.session n)).getD _ = _
      rw [hstep]
      exact steps
    | closing n =>
      have hstep : (c.withInbound d a).step (.closing n) =
          (c.step (.closing n)).map fun p => (p.1.withInbound d a, p.2) := by
        show (c.closings[n]?).bind _ = ((c.closings[n]?).bind _).map _
        cases c.closings[n]? with
        | none => rfl
        | some p => exact stepClosing_withInbound ..
      show ((c.withInbound d a).step (.closing n)).getD _ = _
      rw [hstep]
      exact steps

/-- What comes in, and the dispatcher, are left alone by all others. -/
theorem inbound_apply {m : Move} (h : m.isInbound = false) :
    (c.apply m).1.dispatcher = c.dispatcher ∧ (c.apply m).1.arrivals = c.arrivals := by
  have hself := apply_withInbound c c.dispatcher c.arrivals h
  rw [withInbound_self] at hself
  have hsame : (c.apply m).1 = (c.apply m).1.withInbound c.dispatcher c.arrivals :=
    congrArg Prod.fst hself
  rw [hsame]
  exact ⟨rfl, rfl⟩

end Connection

end Tacacs
