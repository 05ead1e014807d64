/-
# `Tacacs.Proofs.Connection.Outcomes` — what exchanges and sessions come to

Whatever goes wrong with a session has one of two sources.

The first is the exchange.  An exchange that fails was told so by somebody, and there are
only so many who tell: an ending and a withdrawal say that the connection is closed, or what
lies in the server's octets (`Failure.forPending`), the dispatcher calls a packet corrupt,
and another exchange takes the place of this one.  The last is the only one to say `replaced`
(`error_apply`).

The second is the session itself: it has no number left, no input, no time, no connection,
no stream, or the reply is not the one that was asked for (`Failure.isOwn`).

`failure_apply` says that there is no third.  In particular no session ever fails because a
packet of its own was refused: all of them can be sent (`Made`).
-/
import Tacacs.Proofs.Connection.Requests
import Tacacs.Proofs.Connection.Standing

namespace Tacacs

/-! ## Failures -/

/-- What a session finds out by itself, without its exchange. -/
def Failure.isOwn : Failure → Bool
  | .sequenceExhausted | .noInput | .timeout _ | .unexpectedType _ | .sequenceMismatch _ _
  | .closed | .stream _ => true
  | .malformedHeader | .corruptPacket | .replaced | .encode _ | .invalidContext => false

theorem forPending_toldOf (result : Except Failure Unit) :
    (toldOf result).forPending = toldOf result := by
  cases result with
  | ok _ => rfl
  | error e => cases e <;> rfl

theorem Frame.outcome_error {config : Config} {f : Frame} {e : Failure}
    (h : f.outcome config = .error e) : e = .corruptPacket := by
  unfold Frame.outcome at h
  split at h
  · exact (Except.error.inj h).symm
  · cases hread : Packet.ofReceived .reply config.key f.header f.body with
    | ok p =>
      rw [hread] at h
      cases h
    | error e' =>
      rw [hread] at h
      exact (Except.error.inj h).symm

theorem judge_error {request reply : Packet} {e : Failure}
    (h : judge request reply = .finished (.error e)) : e.isOwn = true := by
  unfold judge at h
  split at h
  · cases h
    rfl
  · split at h
    · cases h
      rfl
    · split at h
      · split at h <;> cases h
      · cases h
      · cases h
        rfl

/-- A reply that was read is never found to have the body of another family. -/
theorem judge_ofReceived {key : Octets} {h : Header} {body : Octets} {request reply : Packet}
    (hread : Packet.ofReceived .reply key h body = .ok reply) :
    judge request reply ≠ .finished (.error (.unexpectedType request.header.type)) := by
  obtain ⟨rfl, hbody⟩ := Connection.ofReceived_family hread
  intro hjudge
  unfold judge at hjudge
  split at hjudge
  · rename_i hother
    exact hother (Failure.unexpectedType.inj (Except.error.inj (Turn.finished.inj hjudge)))
  · rename_i htype
    split at hjudge
    · cases hjudge
    · rw [Classical.not_not.1 htype] at hbody
      rcases hbody with ⟨ht, r, -, hr⟩ | ⟨ht, r, -, hr⟩
      · simp only [ht, hr] at hjudge
        split at hjudge <;> cases hjudge
      · simp only [ht, hr] at hjudge
        cases hjudge

namespace Registry

variable {r : Registry} {id id' : SessionId} {t : Ticket} {o o' : Outcome}

theorem outcome?_eq_some :
    r.outcome? t = some o ↔ ∃ id, r.exchanges[t]? = some ⟨id, .settled o⟩ := by
  constructor
  · intro h
    unfold outcome? at h
    split at h
    · rename_i id outcome hx
      cases h
      exact ⟨id, hx⟩
    · cases h
  · rintro ⟨id, hx⟩
    simp only [outcome?, hx]

end Registry

namespace Connection

variable {c c' : Connection} {m : Move} {ms : List Move} {n : Nat} {s s' : Session} {t : Ticket}
  {id : SessionId} {f : Failure} {r : Reader} {config : Config}
  {identifiers : Chap.IdentifierSequence}

/-! ## What an ending says -/

/-- A dispatcher that ends the connection tells the exchanges what is fit for them. -/
def TellsPending (c : Connection) : Prop :=
  ∀ stage told result, c.dispatcher = .ending stage told result → told.forPending = told

theorem dispatcher_of_reading (hd : c.dispatcher = .reading r) :
    (∃ r', (c.apply (.step .dispatcher)).1.dispatcher = .reading r') ∨
      ∃ result, (c.apply (.step .dispatcher)).1.dispatcher
        = .ending .mark (toldOf result) result := by
  by_cases ha : c.arrivals = []
  · rw [apply_read_nothing hd ha]
    exact .inl ⟨r, hd⟩
  · rcases hnext : r.nextFrame c.config.maxBodyLength c.arrivals with ⟨progress, rest⟩
    cases progress with
    | waiting r' =>
      rw [apply_read_part hd ha hnext]
      exact .inl ⟨r', rfl⟩
    | frame f =>
      cases hstops : f.stops c.config with
      | true =>
        rw [apply_read_stops hd ha hnext hstops]
        exact .inr ⟨.error (.unexpectedType .accounting), rfl⟩
      | false =>
        rw [apply_read_goesOn hd ha hnext hstops]
        exact .inl ⟨.start, rfl⟩
    | ended =>
      rw [apply_read_stop hd ha hnext (.inl ⟨rfl, rfl⟩)]
      exact .inr ⟨_, rfl⟩
    | failed failure =>
      rw [apply_read_stop hd ha hnext (.inr ⟨failure, rfl, rfl⟩)]
      exact .inr ⟨_, rfl⟩

theorem tellsPending_step (h : TellsPending c) : TellsPending (c.apply (.step .dispatcher)).1 := by
  cases hstep : c.step .dispatcher with
  | none =>
    rw [apply_step_of_none hstep]
    exact h
  | some p =>
    rw [apply_step_of_some hstep]
    have hp := (step_dispatcher hstep).passage
    have hnext := @dispatcher_of_reading c
    rw [apply_step_of_some hstep] at hnext
    intro stage told result hd'
    generalize hd : c.dispatcher = d at hp
    rw [hd'] at hp
    generalize p.1.registry = r, p.1.closed = b at hp
    cases hp with
    | breaks =>
      rcases hnext hd with ⟨r', hr⟩ | ⟨result', hr⟩
      · cases hd'.symm.trans hr
      · cases hd'.symm.trans hr
        exact forPending_toldOf _
    | ends _ => exact h _ _ _ hd

theorem tellsPending_apply (h : TellsPending c) (m : Move) : TellsPending (c.apply m).1 := by
  cases hi : m.isInbound with
  | false =>
    rw [TellsPending, (inbound_apply c hi).1]
    exact h
  | true =>
    rcases Move.inbound_cases hi with rfl | rfl | ⟨arrivals, rfl⟩ | rfl
    · dsimp only [apply]
      split
      · exact fun _ _ _ hd => DispatcherPhase.noConfusion hd
      · exact h
    · show TellsPending (c.dropAgent .dispatcher).1
      rcases dropAgent_dispatcher c with hsame | ⟨-, hdropped⟩
      · rwa [hsame]
      · rw [hdropped]
        exact fun _ _ _ hd => DispatcherPhase.noConfusion hd
    · exact h
    · exact tellsPending_step h

theorem tellsPending_after (config : Config) (identifiers : Chap.IdentifierSequence)
    (ms : List Move) : TellsPending ((fresh config identifiers).after ms) := by
  induction ms using List.reverseRecOn with
  | nil => exact fun _ _ _ hd => DispatcherPhase.noConfusion hd
  | append_singleton ms m ih =>
    rw [after_concat]
    exact tellsPending_apply ih m

/-! ## What an exchange comes to -/

/-- An exchange fails with a move because another one is registered. -/
def ReplacedBy (c : Connection) (m : Move) (id : SessionId) (t : Ticket) : Prop :=
  c.registry.exchanges[t]? = some ⟨id, .awaited⟩ ∧
    ∃ n s o, c.sessions[n]? = some s ∧ s.id = id ∧ registers? n c m = some o

theorem error_of_settle {id' : SessionId} {e : Failure} (he : e.forPending = e)
    (h : (c.registry.settle id' (.error e)).exchanges[t]? = some ⟨id, .settled (.error f)⟩) :
    c.registry.exchanges[t]? = some ⟨id, .settled (.error f)⟩ ∨ f.forPending = f := by
  rcases Registry.settled_of_settle h with h | ⟨he', -⟩
  · exact .inl h
  · exact .inr (Except.error.inj he' ▸ he)

theorem error_of_ending {told : Failure} {stage : EndStage} {next : Option EndStage} {r : Registry}
    {b : Bool} (htold : told.forPending = told) (hending : Ending c told stage next r b)
    (h : r.exchanges[t]? = some ⟨id, .settled (.error f)⟩) :
    c.registry.exchanges[t]? = some ⟨id, .settled (.error f)⟩ ∨ f.forPending = f := by
  rcases registry_ending hending with ⟨-, rfl⟩ | ⟨id', -, rfl⟩
  · exact .inl h
  · exact error_of_settle htold h

/-- A session settles an exchange by taking its own back, or by registering another one. -/
theorem error_of_passage {phase next : SessionPhase} {r : Registry} {id' : SessionId}
    (hp : Passage c id' phase next r) (h : r.exchanges[t]? = some ⟨id, .settled (.error f)⟩) :
    c.registry.exchanges[t]? = some ⟨id, .settled (.error f)⟩ ∨ f.forPending = f ∨
      ∃ o, registration phase next = some o := by
  cases hp with
  | registers _ _ => exact .inr (.inr ⟨_, rfl⟩)
  | withdraws => exact (error_of_settle rfl h).imp_right .inl
  | fails _ => exact .inl (Registry.settled_of_giveUp h)
  | answered _ _ => exact .inl (Registry.settled_of_giveUp h)
  | asked _ _ _ => exact .inl (Registry.settled_of_giveUp h)
  | _ => exact .inl h

/-- The dispatcher settles an exchange by a packet, or by an ending. -/
theorem error_of_dispatcher {c' : Connection} {es : List Effect} (htells : TellsPending c)
    (hs : DispatcherStep c c' es)
    (h : c'.registry.exchanges[t]? = some ⟨id, .settled (.error f)⟩) :
    c.registry.exchanges[t]? = some ⟨id, .settled (.error f)⟩ ∨ f.forPending = f := by
  have hp := hs.passage
  generalize hd : c.dispatcher = d at hp
  generalize c'.dispatcher = d' at hp
  generalize c'.registry = r at hp h
  generalize c'.closed = b at hp
  cases hp with
  | waits => exact .inl h
  | breaks => exact .inl h
  | @routes _ f' _ =>
    cases hstops : f'.stops c.config with
    | true =>
      rw [(Reception.ofFrame_of_stops hstops _ _).1] at h
      exact .inl h
    | false =>
      rw [(Reception.ofFrame_of_goesOn hstops _ _).1] at h
      cases ho : f'.outcome c.config with
      | ok p =>
        rw [ho] at h
        rcases Registry.settled_of_settle h with h | ⟨he, -⟩
        · exact .inl h
        · cases he
      | error e =>
        obtain rfl := Frame.outcome_error ho
        rw [ho] at h
        exact error_of_settle rfl h
  | ends hending => exact error_of_ending (htells _ _ _ hd) hending h
  | finishes hending => exact error_of_ending (htells _ _ _ hd) hending h

theorem error_of_closing {c' : Connection} {es : List Effect} {k : Nat} {p next : ClosingPhase}
    (hs : ClosingStep c k p next c' es)
    (h : c'.registry.exchanges[t]? = some ⟨id, .settled (.error f)⟩) :
    c.registry.exchanges[t]? = some ⟨id, .settled (.error f)⟩ ∨ f.forPending = f := by
  have hp := hs.passage
  generalize c'.registry = r at hp h
  generalize c'.closed = b at hp
  cases hp with
  | ends hending => exact error_of_ending rfl hending h
  | lines hending => exact error_of_ending rfl hending h
  | _ => exact .inl h

/-- **An exchange that fails is told what is fit for it, or is replaced.** -/
theorem error_apply (htells : TellsPending c)
    (h : (c.apply m).1.registry.exchanges[t]? = some ⟨id, .settled (.error f)⟩) :
    c.registry.exchanges[t]? = some ⟨id, .settled (.error f)⟩ ∨ f.forPending = f ∨
      f = .replaced ∧ ReplacedBy c m id t := by
  cases shift_apply c m with
  | stays _ _ hr =>
    rcases hr with hr | ⟨t', hr⟩
    · exact .inl (hr ▸ h)
    · exact .inl (Registry.settled_of_giveUp (hr ▸ h))
  | @registers n s o _ hn ho _ hr =>
    rcases Registry.settled_of_register (hr ▸ h) with h | ⟨he, rfl, hawaited⟩
    · exact .inl h
    · exact .inr (.inr ⟨(Except.error.inj he).symm, hawaited, n, s, o, hn, rfl, ho⟩)
  | settles _ hnone hr =>
    -- nobody registers an exchange, so somebody tells the exchange why it fails
    have told (h : c.registry.exchanges[t]? = some ⟨id, .settled (.error f)⟩ ∨ f.forPending = f) :
        c.registry.exchanges[t]? = some ⟨id, .settled (.error f)⟩ ∨ f.forPending = f ∨
          f = .replaced ∧ ReplacedBy c m id t := h.imp_right .inl
    have happening := apply_happening c m
    generalize hc' : (c.apply m).1 = c', (c.apply m).2 = es at h happening
    cases happening with
    | dispatcher hs => exact told (error_of_dispatcher htells hs h)
    | closing _ hs => exact told (error_of_closing hs h)
    | @session n s next _ _ hn hs =>
      rcases error_of_passage hs.passage h with h | h | ⟨o, ho⟩
      · exact .inl h
      · exact .inr (.inl h)
      · obtain ⟨s', hs', -, hnext⟩ := getElem?_step_self hn hs
        have hself := hnone n
        rw [registers?, hc', phaseAt_of_some hn, phaseAt_of_some hs', hnext, ho] at hself
        cases hself
    | dropsSession _ hregistry _ =>
      rcases hregistry with rfl | ⟨s, t', -, -, rfl⟩
      · exact .inl h
      · exact .inl (Registry.settled_of_giveUp h)
    | _ => exact .inl h

/-- **What an exchange was told, after any run.** -/
theorem error_after
    (h : ((fresh config identifiers).after ms).registry.outcome? t = some (.error f)) :
    f.forPending = f ∨ f = .replaced := by
  rw [Registry.outcome?_eq_some] at h
  obtain ⟨id, h⟩ := h
  induction ms using List.reverseRecOn with
  | nil => cases h
  | append_singleton ms m ih =>
    rw [after_concat] at h
    rcases error_apply (tellsPending_after config identifiers ms) h with h | h | ⟨h, -⟩
    · exact ih h
    · exact .inl h
    · exact .inr h

/-! ## What a session comes to -/

theorem unsent_apply {o : Sending} (hn : c.sessions[n]? = some s)
    (h : (c.apply m).1.phaseAt n = .unsent o f) :
    s.phase = .unsent o f ∨ f.isOwn = true := by
  obtain ⟨s', hs', -, hturn⟩ := session_apply hn m
  rw [phaseAt_of_some hs'] at h
  generalize s'.phase = next at hturn h
  cases hturn with
  | stays _ => exact .inl h
  | called _ _ => cases h
  | refused _ => cases h
  | dropped _ => cases h
  | passes hp =>
    rw [h] at hp
    generalize s.phase = phase, (c.apply (.step (.session n))).1.registry = r at hp
    cases hp with
    | refused _ => exact .inr rfl
    | breaks => exact .inr rfl
    | spills => exact .inr rfl

theorem unsent_after {o : Sending}
    (h : ((fresh config identifiers).after ms).phaseAt n = .unsent o f) : f.isOwn = true := by
  induction ms using List.reverseRecOn with
  | nil => cases h
  | append_singleton ms m ih =>
    rw [after_concat] at h
    cases hn : ((fresh config identifiers).after ms).sessions[n]? with
    | none =>
      rw [phaseAt_new hn] at h
      cases h
    | some s =>
      rcases unsent_apply hn h with hs | hown
      · exact ih ((phaseAt_of_some hn).trans hs)
      · exact hown

/-- A session that takes an outcome fails by that outcome, or by what it finds out itself. -/
theorem failure_of_outcome {settings : SessionSettings} {answers : Option (List (Option String))}
    {q : Packet} {w : Wait} {r : Registry} {now : Instant} {outcome : Outcome}
    (hw : w.result? r now = some outcome)
    (h : afterOutcome settings answers q outcome = .finished (.error f)) :
    r.outcome? w.ticket = some (.error f) ∨ f.isOwn = true := by
  cases outcome with
  | error e =>
    obtain rfl : e = f := Except.error.inj (SessionPhase.finished.inj h)
    unfold Wait.result? at hw
    split at hw
    · rename_i hr
      exact .inl (hr.trans hw)
    · split at hw
      · cases hw
        exact .inr rfl
      · cases hw
  | ok reply =>
    right
    simp only [afterOutcome] at h
    split at h
    · rename_i result hjudge
      obtain rfl := SessionPhase.finished.inj h
      exact judge_error hjudge
    · rename_i hjudge
      split at h
      · cases h
        rfl
      · split at h
        · rename_i input _ _ e hfollows
          obtain rfl : e = f := Except.error.inj (SessionPhase.finished.inj h)
          rcases followUp_cases settings q input (judge_asks hjudge).2 with
            ⟨-, he⟩ | ⟨next, hnext, -⟩
          · obtain rfl := Except.error.inj (hfollows.symm.trans he)
            rfl
          · cases hfollows.symm.trans hnext
        · cases h

/-- **A session fails by what its exchange came to, or by what it finds out itself.** -/
theorem failure_apply (hn : c.sessions[n]? = some s)
    (hmade : ∀ q, s.phase.request? = some q → Made c.config s.id q)
    (hunsent : ∀ o e, s.phase = .unsent o e → e.isOwn = true)
    (h : .sessionOver n (.error f) ∈ (c.apply m).2) :
    f.isOwn = true ∨
      ∃ q w, s.phase = .awaiting q w ∧ c.registry.outcome? w.ticket = some (.error f) := by
  obtain ⟨s', hs', -, hturn⟩ := session_apply hn m
  obtain ⟨hbefore, hover⟩ := (sessionOver_apply _ hn hs').1 h
  rw [hover] at hturn
  generalize hnext : SessionPhase.finished (.error f) = next at hturn
  cases hturn with
  | stays _ => exact absurd hnext.symm hbefore
  | called _ _ => cases hnext
  | @refused call hidle =>
    obtain ⟨q, hready, -⟩ := ready_apply hn hidle call
    cases (phaseAt_of_some hs').symm.trans hready |>.symm.trans hover
  | dropped _ => cases hnext
  | passes hp =>
    by_cases hwaits : ∃ q w, s.phase = .awaiting q w
    · obtain ⟨q, w, hs⟩ := hwaits
      obtain ⟨s'', hs'', -, houtcome⟩ := step_awaiting hn hs
      obtain rfl := Option.some.inj (hs'.symm.trans hs'')
      rcases houtcome with ⟨-, hstays⟩ | ⟨outcome, hw, he⟩
      · exact absurd (hstays.symm.trans hover) hbefore
      · rcases failure_of_outcome hw (he.symm.trans hover) with h | h
        · exact .inr ⟨q, w, hs, h⟩
        · exact .inl h
    · left
      subst hnext
      generalize (c.apply (.step (.session n))).1.registry = r at hp
      generalize hs : s.phase = phase at hp hmade hunsent hwaits
      cases hp with
      | exhausted _ => rfl
      | unwritable he => cases (hmade _ rfl).accepted.wire.symm.trans he
      | withdraws => exact hunsent _ _ rfl
      | fails _ => exact absurd ⟨_, _, rfl⟩ hwaits

theorem registers?_of_ready {q : Packet} {octets : Octets} (hn : c.sessions[n]? = some s)
    (hs : s.phase = .ready q) (h255 : q.header.sequence ≠ 255)
    (hwire : c.config.wire q = .ok octets) :
    registers? n c (.step (.session n))
      = some ⟨q, octets, c.registry.exchanges.length⟩ := by
  have hstep : c.step (.session n) = some (c.stepReady n s q) := by
    rw [step_session_eq hn, stepSession, hs]
  have happly : c.apply (.step (.session n)) = c.stepReady n s q := apply_step_of_some hstep
  have hnext : (c.stepReady n s q).1.phaseAt n
      = .registered ⟨q, octets, c.registry.exchanges.length⟩ := by
    simp only [stepReady, if_neg h255, hwire]
    exact phaseAt_setPhase (c := { c with registry := (c.registry.register s.id).2 }) hn
  rw [registers?, phaseAt_of_some hn, hs, happly, hnext]
  rfl

/-- **How a session of a run can fail.** -/
theorem failure_run (h : .sessionOver n (.error f) ∈ ((fresh config identifiers).run ms).2) :
    f.isOwn = true ∨ f.forPending = f ∨
      f = .replaced ∧ ∃ before later s q w, ms = before ++ later ∧
        ((fresh config identifiers).after before).sessions[n]? = some s ∧
        s.phase = .awaiting q w ∧
        ((fresh config identifiers).after before).registry.outcome? w.ticket
          = some (.error .replaced) := by
  obtain ⟨before, m, later, rfl, hover⟩ := mem_effects_run.1 h
  obtain ⟨s, hn⟩ := sessionOver_session hover
  have hmade (q : Packet) (hq : s.phase.request? = some q) :
      Made ((fresh config identifiers).after before).config s.id q := by
    rw [config_after]
    exact made_after hn hq
  have hunsent (o : Sending) (e : Failure) (hs : s.phase = .unsent o e) : e.isOwn = true :=
    unsent_after ((phaseAt_of_some hn).trans hs)
  rcases failure_apply hn hmade hunsent hover with hown | ⟨q, w, hs, ho⟩
  · exact .inl hown
  · rcases error_after ho with h | rfl
    · exact .inr (.inl h)
    · exact .inr (.inr ⟨rfl, before, _, s, q, w, rfl, hn, hs, ho⟩)

/-! ## No packet of a session is refused -/

/-- After this run no session has had a packet of its own refused, and none will. -/
structure NeverRefused (c : Connection) (ms : List Move) : Prop where
  /-- Whatever a session is called to do, it has a packet to send. -/
  called {n : Nat} {s : Session} : (c.after ms).sessions[n]? = some s → s.phase = .idle →
    ∀ call, ∃ q, (c.after (ms ++ [.callSession n call])).phaseAt n = .ready q
  /-- Whatever a session has in hands can be sent. -/
  accepted {n : Nat} {s : Session} {q : Packet} : (c.after ms).sessions[n]? = some s →
    s.phase.request? = some q → q.Accepted c.config
  /-- An exchange is registered for it, unless it has the last number. -/
  sends {n : Nat} {s : Session} {q : Packet} : (c.after ms).sessions[n]? = some s →
    s.phase = .ready q → q.header.sequence ≠ 255 →
    ∃ o, registers? n (c.after ms) (.step (.session n)) = some o ∧ o.request = q ∧
      o.octets = q.octets c.config.key
  /-- So no session has returned that a packet could not be put together or written. -/
  returned {n : Nat} {f : Failure} : .sessionOver n (.error f) ∈ (c.run ms).2 →
    f ≠ .invalidContext ∧ ∀ e, f ≠ .encode e
  /-- No reply for which a session waits has the body of another family than its header. -/
  judged {n : Nat} {id : SessionId} {q reply : Packet} {t : Ticket} :
    InFlight (c.after ms) n id q t → (c.after ms).registry.outcome? t = some (.ok reply) →
    judge q reply ≠ .finished (.error (.unexpectedType q.header.type))

/-- **A session never makes a packet that the library itself refuses**, whatever it is called
to do and whatever the server sends. -/
theorem never_refused (config : Config) (identifiers : Chap.IdentifierSequence)
    (ms : List Move) : NeverRefused (fresh config identifiers) ms := by
  have accepted {n : Nat} {s : Session} {q : Packet}
      (hn : ((fresh config identifiers).after ms).sessions[n]? = some s)
      (hq : s.phase.request? = some q) : q.Accepted config := (made_after hn hq).accepted
  refine ⟨?_, accepted, ?_, ?_, ?_⟩
  · intro n s hn hidle call
    obtain ⟨q, hready, -⟩ := ready_apply hn hidle call
    rw [after_concat]
    exact ⟨q, hready⟩
  · intro n s q hn hs h255
    have hwire : ((fresh config identifiers).after ms).config.wire q
        = .ok (q.octets config.key) := by
      rw [config_after]
      exact (accepted hn (congrArg SessionPhase.request? hs)).wire
    exact ⟨_, registers?_of_ready hn hs h255 hwire, rfl, rfl⟩
  · intro n f hover
    rcases failure_run hover with hown | hpending | ⟨rfl, -⟩
    · refine ⟨?_, ?_⟩
      · rintro rfl
        cases hown
      · rintro e rfl
        cases hown
    · refine ⟨?_, ?_⟩
      · rintro rfl
        cases hpending
      · rintro e rfl
        cases hpending
    · exact ⟨Failure.noConfusion, fun _ => Failure.noConfusion⟩
  · intro n id q reply t hflight ho
    obtain ⟨before, later, f, rfl, hroutes, -⟩ := inFlight_reply hflight ho
    exact judge_ofReceived hroutes.reads

end Connection

end Tacacs
