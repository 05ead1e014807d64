/-
# `Tacacs.Proofs.Connection.Moves` — what a move does, seen from each side

`Happening` lists everything a move can come to: an agent makes a step, something
happens from outside, or nothing happens.  `apply_happening` says that there is
nothing else; it is the only place where moves are taken apart.

Two views of the list serve all that follows.  Seen from one session a move is a
`Turn`: the session stays where it is, is called, is called off, or passes on by a
step of its own.  Seen from the registry it is a `Change`: a session registers an
exchange, takes one back or gives one up, the dispatcher routes a packet, or an
ending fails what stands under an id.  With these, a fact that all runs keep is
proved by the few cases in which it matters.
-/
import Tacacs.Proofs.Connection.Ending

namespace Tacacs.Connection

variable {c c' : Connection} {n : Nat} {s : Session}

/-! ## Runs -/

/-- A connection at its beginning. -/
def fresh (config : Config) (identifiers : Chap.IdentifierSequence) : Connection :=
  { config, identifiers }

/-- Where a run leads. -/
def after (c : Connection) (ms : List Move) : Connection :=
  (c.run ms).1

theorem after_append (c : Connection) (ms ms' : List Move) :
    c.after (ms ++ ms') = (c.after ms).after ms' := by
  induction ms generalizing c with
  | nil => rfl
  | cons m ms ih => exact ih (c.apply m).1

theorem after_append_cons (c : Connection) (ms : List Move) (m : Move) (ms' : List Move) :
    c.after (ms ++ m :: ms') = (c.after (ms ++ [m])).after ms' := by
  rw [← after_append, List.append_assoc, List.singleton_append]

theorem after_concat (c : Connection) (ms : List Move) (m : Move) :
    c.after (ms ++ [m]) = ((c.after ms).apply m).1 :=
  after_append c ms [m]

theorem effects_concat (c : Connection) (ms : List Move) (m : Move) :
    (c.run (ms ++ [m])).2 = (c.run ms).2 ++ ((c.after ms).apply m).2 := by
  induction ms generalizing c with
  | nil => exact List.append_nil _
  | cons m' ms ih =>
    show (c.apply m').2 ++ ((c.apply m').1.run (ms ++ [m])).2 = _
    rw [ih, ← List.append_assoc]
    rfl

/-- What is so at a move of a run is so at the first one or at one of the rest. -/
theorem exists_split_cons {P : Connection → Move → Prop} {m : Move} {ms : List Move} :
    (∃ before m' later, m :: ms = before ++ m' :: later ∧ P (c.after before) m') ↔
      P c m ∨
        ∃ before m' later, ms = before ++ m' :: later ∧ P ((c.apply m).1.after before) m' := by
  constructor
  · rintro ⟨before, m', later, hms, h⟩
    cases before with
    | nil =>
      obtain ⟨rfl, rfl⟩ := List.cons.inj hms
      exact .inl h
    | cons m₀ before =>
      obtain ⟨rfl, rfl⟩ := List.cons.inj hms
      exact .inr ⟨before, m', later, rfl, h⟩
  · rintro (h | ⟨before, m', later, rfl, h⟩)
    · exact ⟨[], m, ms, rfl, h⟩
    · exact ⟨m :: before, m', later, rfl, h⟩

theorem mem_effects_run {e : Effect} {ms : List Move} :
    e ∈ (c.run ms).2 ↔
      ∃ before m later, ms = before ++ m :: later ∧ e ∈ ((c.after before).apply m).2 := by
  induction ms generalizing c with
  | nil => simp [run]
  | cons m ms ih =>
    have hr : (c.run (m :: ms)).2 = (c.apply m).2 ++ ((c.apply m).1.run ms).2 := rfl
    rw [hr, List.mem_append, ih]
    exact (exists_split_cons (P := fun c m => e ∈ (c.apply m).2)).symm

/-- What is picked from each move of a run, in order. -/
def gather {α : Type} (pick : Connection → Move → Option α) (c : Connection) : List Move → List α
  | [] => []
  | m :: ms => (pick c m).toList ++ gather pick (c.apply m).1 ms

theorem gather_append {α : Type} (pick : Connection → Move → Option α) (c : Connection)
    (ms ms' : List Move) :
    gather pick c (ms ++ ms') = gather pick c ms ++ gather pick (c.after ms) ms' := by
  induction ms generalizing c with
  | nil => rfl
  | cons m ms ih =>
    show (pick c m).toList ++ gather pick (c.apply m).1 (ms ++ ms') = _
    rw [ih, ← List.append_assoc]
    rfl

theorem gather_concat {α : Type} (pick : Connection → Move → Option α) (c : Connection)
    (ms : List Move) (m : Move) :
    gather pick c (ms ++ [m]) = gather pick c ms ++ (pick (c.after ms) m).toList := by
  rw [gather_append]
  exact congrArg (gather pick c ms ++ ·) (List.append_nil _)

theorem mem_gather {α : Type} {pick : Connection → Move → Option α} {x : α} {ms : List Move} :
    x ∈ gather pick c ms ↔
      ∃ before m later, ms = before ++ m :: later ∧ pick (c.after before) m = some x := by
  induction ms generalizing c with
  | nil => simp [gather]
  | cons m ms ih =>
    rw [gather, List.mem_append, Option.mem_toList, ih]
    exact (exists_split_cons (P := fun c m => pick c m = some x)).symm

/-! ## Sessions after a change -/

theorem getElem?_setPhase_self {next : SessionPhase} (h : c.sessions[n]? = some s) :
    (c.setPhase n next).sessions[n]? = some { s with phase := next } := by
  show (c.sessions.modify n _)[n]? = _
  rw [List.getElem?_modify_eq, h]
  rfl

theorem getElem?_setPhase_of_ne {next : SessionPhase} {m : Nat} (h : m ≠ n) :
    (c.setPhase n next).sessions[m]? = c.sessions[m]? :=
  List.getElem?_modify_ne _ _ h.symm

theorem getElem?_step_self {next : SessionPhase} {es : List Effect} (hn : c.sessions[n]? = some s)
    (h : SessionStep c n s next c' es) :
    ∃ s', c'.sessions[n]? = some s' ∧ s'.id = s.id ∧ s'.phase = next := by
  obtain ⟨c₁, ⟨⟨answers, ha⟩, -⟩, rfl⟩ := h.after
  have h₁ : c₁.sessions[n]? = some { s with answers := answers s } := by
    rw [ha, List.getElem?_modify_eq, hn]
    rfl
  exact ⟨_, getElem?_setPhase_self h₁, rfl, rfl⟩

theorem getElem?_step_of_ne {next : SessionPhase} {es : List Effect} {m : Nat}
    (h : SessionStep c n s next c' es) (hm : m ≠ n) : c'.sessions[m]? = c.sessions[m]? := by
  obtain ⟨c₁, ⟨⟨answers, ha⟩, -⟩, rfl⟩ := h.after
  rw [getElem?_setPhase_of_ne hm, ha]
  exact List.getElem?_modify_ne _ _ hm.symm

/-! ## Everything that can happen -/

/-- What a move comes to: where it leads, and what is seen of it. -/
inductive Happening (c : Connection) : Move → Connection → List Effect → Prop
  /-- The move is not possible, or the agent has to wait. -/
  | nothing {m : Move} : (∀ a, m = .step a → c.step a = none) → Happening c m c []
  | opens {candidates : List SessionId} {context : Context}
      {answers : Option (List (Option String))} {s : Session} : s.phase = .idle →
      Happening c (.openSession candidates context answers)
        { c with sessions := c.sessions ++ [s] } []
  | calls {n : Nat} {call : Call} {s : Session} {q : Packet}
      {identifiers : Chap.IdentifierSequence} {es : List Effect} :
      c.sessions[n]? = some s → s.phase = .idle →
      (c.settings s).firstPacket? (call.draw c.identifiers).1 call = some q →
      (∀ e ∈ es, ∃ a, e = .woke a) →
      Happening c (.callSession n call) (({ c with identifiers }).setPhase n (.ready q)) es
  | callsInVain {n : Nat} {call : Call} {s : Session} {identifiers : Chap.IdentifierSequence} :
      c.sessions[n]? = some s → s.phase = .idle →
      Happening c (.callSession n call)
        (({ c with identifiers }).setPhase n (.finished (.error .invalidContext)))
        [.sessionOver n (.error .invalidContext)]
  | dropsSession {n : Nat} {registry : Registry} {writer : Option Agent} {line : Line Agent}
      {es : List Effect} : c.canStop (.session n) = true →
      (registry = c.registry ∨ ∃ s t, c.sessions[n]? = some s ∧ s.phase.ticket? = some t ∧
        registry = c.registry.giveUp t) →
      (∀ e ∈ es, ∃ a, e = .woke a) →
      Happening c (.drop (.session n))
        { ({ c with registry }).setPhase n .dropped with writer, line } es
  | dropsClosing {n : Nat} {writer : Option Agent} {line : Line Agent} {es : List Effect} :
      c.canStop (.closing n) = true → (∀ e ∈ es, ∃ a, e = .woke a) →
      Happening c (.drop (.closing n)) { c.setClosing n .dropped with writer, line } es
  | dropsDispatcher : c.canStop .dispatcher = true →
      Happening c (.drop .dispatcher) { c with dispatcher := .dropped } []
  | starts {es : List Effect} : c.dispatcher = .idle → (∀ e ∈ es, ∃ a, e = .woke a) →
      Happening c .startDispatcher { c with dispatcher := .reading .start } es
  | startsClosing {es : List Effect} : (∀ e ∈ es, ∃ a, e = .woke a) →
      Happening c .startClosing { c with closings := c.closings ++ [.ending .mark] } es
  /-- Octets arrive, the stream changes its ways, or time passes. -/
  | comes {m : Move} {arrivals : List Arrival} {rules : WriteRules} {now : Instant}
      {es : List Effect} : (∀ a, m ≠ .step a) → (∀ e ∈ es, ∃ a, e = .woke a) →
      Happening c m { c with arrivals, rules, now } es
  | session {n : Nat} {s : Session} {next : SessionPhase} {c' : Connection} {es : List Effect} :
      c.sessions[n]? = some s → SessionStep c n s next c' es →
      Happening c (.step (.session n)) c' es
  | dispatcher {c' : Connection} {es : List Effect} : DispatcherStep c c' es →
      Happening c (.step .dispatcher) c' es
  | closing {n : Nat} {p next : ClosingPhase} {c' : Connection} {es : List Effect} :
      c.closings[n]? = some p → ClosingStep c n p next c' es →
      Happening c (.step (.closing n)) c' es

/-- To leave the writing side changes nothing else. -/
theorem leaveWriter_eq (c : Connection) (a : Agent) :
    ∃ writer line es, c.leaveWriter a = ({ c with writer, line }, es) ∧
      ∀ e ∈ es, ∃ a, e = .woke a := by
  unfold leaveWriter
  split
  · exact ⟨_, _, _, rfl, mem_map_woke _⟩
  · exact ⟨_, _, _, rfl, mem_map_woke _⟩

theorem startCall_happening (c : Connection) (n : Nat) (call : Call) :
    Happening c (.callSession n call) (c.startCall n call).1 (c.startCall n call).2 := by
  unfold startCall
  split
  · rename_i hn
    dsimp only
    split
    · exact .callsInVain hn rfl
    · rename_i q hq
      exact .calls hn rfl hq (mem_map_woke [.session n])
  · exact .nothing nofun

theorem dropAgent_happening (c : Connection) (a : Agent) :
    Happening c (.drop a) (c.dropAgent a).1 (c.dropAgent a).2 := by
  unfold dropAgent
  split
  · exact .nothing nofun
  · rename_i h
    have hstop : c.canStop a = true := by
      cases hc : c.canStop a with
      | true => rfl
      | false => exact absurd (by rw [hc, Bool.not_false, Bool.or_true]) h
    cases a with
    | dispatcher => exact .dropsDispatcher hstop
    | closing n =>
      obtain ⟨writer, line, es, he, hes⟩ := leaveWriter_eq (c.setClosing n .dropped) (.closing n)
      simp only [he]
      exact .dropsClosing hstop hes
    | session n =>
      cases hticket : (c.sessions[n]?.map Session.phase).bind SessionPhase.ticket? with
      | none =>
        obtain ⟨writer, line, es, he, hes⟩ := leaveWriter_eq (c.setPhase n .dropped) (.session n)
        simp only [hticket, Option.elim, he]
        exact .dropsSession hstop (Or.inl rfl) hes
      | some t =>
        obtain ⟨writer, line, es, he, hes⟩ := leaveWriter_eq
          (({ c with registry := c.registry.giveUp t }).setPhase n .dropped) (.session n)
        simp only [hticket, Option.elim, he]
        obtain ⟨phase, hphase, ht⟩ := Option.bind_eq_some_iff.1 hticket
        obtain ⟨s, hn, rfl⟩ := Option.map_eq_some_iff.1 hphase
        exact .dropsSession hstop (Or.inr ⟨s, t, hn, ht, rfl⟩) hes

/-- **There is nothing else that a move can come to.** -/
theorem apply_happening (c : Connection) (m : Move) :
    Happening c m (c.apply m).1 (c.apply m).2 := by
  cases m with
  | openSession candidates context answers => exact .opens rfl
  | callSession n call => exact startCall_happening c n call
  | startClosing => exact .startsClosing (mem_map_woke [.closing c.closings.length])
  | startDispatcher =>
    dsimp only [apply]
    split
    · rename_i hd
      exact .starts hd (mem_map_woke [.dispatcher])
    · exact .nothing nofun
  | drop a => exact dropAgent_happening c a
  | arrive arrivals => exact .comes nofun (mem_map_woke [.dispatcher])
  | changeRules rules => exact .comes nofun (mem_map_woke _)
  | advance span => exact .comes nofun (mem_map_woke _)
  | step a =>
    dsimp only [apply]
    cases hstep : c.step a with
    | none => exact .nothing fun a' he => Move.step.inj he ▸ hstep
    | some p =>
      cases a with
      | dispatcher => exact .dispatcher (step_dispatcher hstep)
      | closing n =>
        obtain ⟨p, next, hn, hs⟩ := step_closing hstep
        exact .closing hn hs
      | session n =>
        obtain ⟨s, next, hn, hs⟩ := step_session hstep
        exact .session hn hs

/-- An agent that has to wait does nothing. -/
theorem apply_step_of_none {a : Agent} (h : c.step a = none) : c.apply (.step a) = (c, []) :=
  congrArg (Option.getD · (c, [])) h

theorem apply_step_of_some {a : Agent} {es : List Effect} (h : c.step a = some (c', es)) :
    c.apply (.step a) = (c', es) :=
  congrArg (Option.getD · (c, [])) h

/-! ## One session -/

/-- What a move makes of a session: the phase it comes to. -/
inductive Turn (c : Connection) (n : Nat) (s : Session) (r : Registry) : Move → SessionPhase → Prop
  /-- It stays where it is, and if the move was its own step it had to wait. -/
  | stays {m : Move} : (m = .step (.session n) → c.step (.session n) = none) →
      Turn c n s r m s.phase
  | called {call : Call} {q : Packet} : s.phase = .idle →
      (c.settings s).firstPacket? (call.draw c.identifiers).1 call = some q →
      Turn c n s r (.callSession n call) (.ready q)
  | refused {call : Call} : s.phase = .idle →
      Turn c n s r (.callSession n call) (.finished (.error .invalidContext))
  | dropped : c.canStop (.session n) = true → Turn c n s r (.drop (.session n)) .dropped
  | passes {next : SessionPhase} : Passage c s.id s.phase next r →
      Turn c n s r (.step (.session n)) next

/-- **Whatever a move does, a session takes a turn.** -/
theorem session_apply (hn : c.sessions[n]? = some s) (m : Move) :
    ∃ s', (c.apply m).1.sessions[n]? = some s' ∧ s'.id = s.id ∧
      Turn c n s (c.apply m).1.registry m s'.phase := by
  have h := apply_happening c m
  generalize (c.apply m).1 = c', (c.apply m).2 = es at h
  cases h with
  | nothing hm => exact ⟨s, hn, rfl, .stays fun he => hm _ he⟩
  | opens _ =>
    refine ⟨s, ?_, rfl, .stays nofun⟩
    exact (List.getElem?_append_left (List.getElem?_eq_some_iff.1 hn).1).trans hn
  | @calls k call s₀ q _ _ hk hidle hq _ =>
    by_cases hkn : n = k
    · subst hkn
      obtain rfl := Option.some.inj (hn.symm.trans hk)
      exact ⟨_, getElem?_setPhase_self hn, rfl, .called hidle hq⟩
    · exact ⟨s, (getElem?_setPhase_of_ne hkn).trans hn, rfl, .stays nofun⟩
  | @callsInVain k call s₀ _ hk hidle =>
    by_cases hkn : n = k
    · subst hkn
      obtain rfl := Option.some.inj (hn.symm.trans hk)
      exact ⟨_, getElem?_setPhase_self hn, rfl, .refused hidle⟩
    · exact ⟨s, (getElem?_setPhase_of_ne hkn).trans hn, rfl, .stays nofun⟩
  | @dropsSession k registry _ _ _ hstop _ _ =>
    by_cases hkn : n = k
    · subst hkn
      exact ⟨_, getElem?_setPhase_self (c := { c with registry }) hn, rfl, .dropped hstop⟩
    · exact ⟨s, (getElem?_setPhase_of_ne hkn).trans hn, rfl, .stays nofun⟩
  | dropsClosing _ _ => exact ⟨s, hn, rfl, .stays nofun⟩
  | dropsDispatcher _ => exact ⟨s, hn, rfl, .stays nofun⟩
  | starts _ _ => exact ⟨s, hn, rfl, .stays nofun⟩
  | startsClosing _ => exact ⟨s, hn, rfl, .stays nofun⟩
  | comes hm _ => exact ⟨s, hn, rfl, .stays fun he => absurd he (hm _)⟩
  | @session k s₀ next _ _ hk hs =>
    by_cases hkn : n = k
    · subst hkn
      obtain rfl := Option.some.inj (hn.symm.trans hk)
      obtain ⟨s', hs', hid, rfl⟩ := getElem?_step_self hn hs
      exact ⟨s', hs', hid, .passes hs.passage⟩
    · refine ⟨s, (getElem?_step_of_ne hs hkn).trans hn, rfl, .stays ?_⟩
      intro he
      cases he
      exact absurd rfl hkn
  | dispatcher hs => exact ⟨s, hs.sessions ▸ hn, rfl, .stays nofun⟩
  | closing _ hs => exact ⟨s, hs.sessions ▸ hn, rfl, .stays nofun⟩

theorem session_after (hn : c.sessions[n]? = some s) (ms : List Move) :
    ∃ s', (c.after ms).sessions[n]? = some s' ∧ s'.id = s.id := by
  induction ms generalizing c s with
  | nil => exact ⟨s, hn, rfl⟩
  | cons m ms ih =>
    obtain ⟨s₁, hs₁, hid, -⟩ := session_apply hn m
    obtain ⟨s', hs', hid'⟩ := ih hs₁
    exact ⟨s', hs', hid'.trans hid⟩

theorem session_new {m : Move} (hn : c.sessions[n]? = none)
    (hs : (c.apply m).1.sessions[n]? = some s) : s.phase = .idle := by
  have modified : ∀ {ss : List Session} (k : Nat) (f : Session → Session),
      ss[n]? = none → (ss.modify k f)[n]? = none := by
    intro ss k f hnone
    rw [List.getElem?_modify, hnone]
    rfl
  have h := apply_happening c m
  generalize (c.apply m).1 = c', (c.apply m).2 = es at h hs
  cases h with
  | nothing _ => exact nomatch hn.symm.trans hs
  | opens hidle =>
    have hle : c.sessions.length ≤ n := List.getElem?_eq_none_iff.1 hn
    rw [List.getElem?_append_right hle] at hs
    rw [List.mem_singleton.1 (List.mem_of_getElem? hs)]
    exact hidle
  | calls _ _ _ _ => exact nomatch (modified _ _ hn).symm.trans hs
  | callsInVain _ _ => exact nomatch (modified _ _ hn).symm.trans hs
  | dropsSession _ _ _ => exact nomatch (modified _ _ hn).symm.trans hs
  | dropsClosing _ _ => exact nomatch hn.symm.trans hs
  | dropsDispatcher _ => exact nomatch hn.symm.trans hs
  | starts _ _ => exact nomatch hn.symm.trans hs
  | startsClosing _ => exact nomatch hn.symm.trans hs
  | comes _ _ => exact nomatch hn.symm.trans hs
  | session _ h =>
    obtain ⟨c₁, ⟨⟨answers, ha⟩, -⟩, rfl⟩ := h.after
    have h₁ : c₁.sessions[n]? = none := ha ▸ modified _ _ hn
    exact nomatch (modified _ _ h₁).symm.trans hs
  | dispatcher h =>
    rw [h.sessions] at hs
    exact nomatch hn.symm.trans hs
  | closing _ h =>
    rw [h.sessions] at hs
    exact nomatch hn.symm.trans hs

/-! ## The registry -/

/-- What a move makes of the registry. -/
inductive Change (c c' : Connection) : Move → Prop
  | stays {m : Move} : c'.registry = c.registry → Change c c' m
  | goesOn {n : Nat} {s : Session} {next : SessionPhase} {es : List Effect} :
      c.sessions[n]? = some s → SessionStep c n s next c' es → Change c c' (.step (.session n))
  | routes {f : Frame} : c.nextFrame? = some f →
      c'.registry = (Reception.ofFrame c.config c.registry c.established f).registry →
      Change c c' (.step .dispatcher)
  /-- What stands under an id fails. -/
  | fails {m : Move} {id : SessionId} {f : Failure} :
      c'.registry = c.registry.settle id (.error f) → Change c c' m
  /-- A session is called off, and gives up its exchange. -/
  | givesUp {n : Nat} {s : Session} {t : Ticket} :
      c.sessions[n]? = some s → s.phase.ticket? = some t →
      c'.sessions[n]? = some { s with phase := .dropped } →
      c'.registry = c.registry.giveUp t → Change c c' (.drop (.session n))

theorem change_ending {told : Failure} {stage : EndStage} {next : Option EndStage} {b : Bool}
    (h : Ending c told stage next c'.registry b) (m : Move) : Change c c' m := by
  generalize hr : c'.registry = r at h
  cases h with
  | marks => exact .stays hr
  | collects => exact .stays hr
  | fails => exact .fails hr
  | through => exact .stays hr

/-- **Whatever a move does, the registry changes in one of five ways.** -/
theorem change_apply (c : Connection) (m : Move) : Change c (c.apply m).1 m := by
  have h := apply_happening c m
  generalize (c.apply m).1 = c', (c.apply m).2 = es at h
  cases h with
  | nothing _ => exact .stays rfl
  | opens _ => exact .stays rfl
  | calls _ _ _ _ => exact .stays rfl
  | callsInVain _ _ => exact .stays rfl
  | dropsSession _ hr _ =>
    rcases hr with rfl | ⟨s, t, hn, ht, rfl⟩
    · exact .stays rfl
    · exact .givesUp hn ht (getElem?_setPhase_self hn) rfl
  | dropsClosing _ _ => exact .stays rfl
  | dropsDispatcher _ => exact .stays rfl
  | starts _ _ => exact .stays rfl
  | startsClosing _ => exact .stays rfl
  | comes _ _ => exact .stays rfl
  | session hn hs => exact .goesOn hn hs
  | dispatcher hs =>
    have hp := hs.passage
    generalize hd : c.dispatcher = d at hp
    generalize hd' : c'.dispatcher = d' at hp
    generalize hr : c'.registry = r at hp
    generalize hb : c'.closed = b at hp
    cases hp with
    | waits => exact .stays hr
    | routes hf => exact .routes hf hr
    | breaks => exact .stays hr
    | ends h => exact change_ending (hr ▸ h) _
    | finishes h => exact change_ending (hr ▸ h) _
  | closing _ hs =>
    have hp := hs.passage
    generalize hr : c'.registry = r at hp
    generalize hb : c'.closed = b at hp
    cases hp with
    | ends h => exact change_ending (hr ▸ h) _
    | lines h => exact change_ending (hr ▸ h) _
    | stands => exact .stays hr
    | takes => exact .stays hr
    | finishes => exact .stays hr

/-! ## What a move leaves alone -/

theorem config_apply (c : Connection) (m : Move) : (c.apply m).1.config = c.config := by
  have h := apply_happening c m
  generalize (c.apply m).1 = c', (c.apply m).2 = es at h
  cases h with
  | session _ hs =>
    obtain ⟨c₁, h₁, rfl⟩ := hs.after
    exact h₁.config
  | dispatcher hs => exact hs.config
  | closing _ hs => exact hs.config
  | _ => rfl

theorem config_after (c : Connection) (ms : List Move) : (c.after ms).config = c.config := by
  induction ms generalizing c with
  | nil => rfl
  | cons m ms ih => exact (ih _).trans (config_apply c m)

theorem closed_ending {told : Failure} {stage : EndStage} {next : Option EndStage} {r : Registry}
    {b : Bool} (h : Ending c told stage next r b) (hc : c.closed = true) : b = true := by
  cases h with
  | marks => rfl
  | _ => exact hc

/-- **The closed mark stays.** -/
theorem closed_apply (hc : c.closed = true) (m : Move) : (c.apply m).1.closed = true := by
  have h := apply_happening c m
  generalize (c.apply m).1 = c', (c.apply m).2 = es at h
  cases h with
  | session _ hs =>
    obtain ⟨c₁, h₁, rfl⟩ := hs.after
    exact h₁.closed.trans hc
  | dispatcher hs =>
    have hp := hs.passage
    generalize c.dispatcher = d, c'.dispatcher = d', c'.registry = r at hp
    generalize c'.closed = b at hp
    cases hp with
    | ends h => exact closed_ending h hc
    | finishes h => exact closed_ending h hc
    | _ => exact hc
  | closing _ hs =>
    have hp := hs.passage
    generalize c'.registry = r at hp
    generalize c'.closed = b at hp
    cases hp with
    | ends h => exact closed_ending h hc
    | lines h => exact closed_ending h hc
    | _ => exact hc
  | _ => exact hc

theorem closed_after (hc : c.closed = true) (ms : List Move) : (c.after ms).closed = true := by
  induction ms generalizing c with
  | nil => exact hc
  | cons m ms ih => exact ih (closed_apply hc m)

/-! ## What is seen of a move -/

theorem passage_not_finished {id : SessionId} {phase next : SessionPhase} {r : Registry}
    (h : Passage c id phase next r) (result : Except Failure Response) :
    phase ≠ .finished result := by
  rintro rfl
  cases h

theorem sessionOver_session {m : Move} {result : Except Failure Response}
    (hover : .sessionOver n result ∈ (c.apply m).2) : ∃ s, c.sessions[n]? = some s := by
  have h := apply_happening c m
  generalize (c.apply m).1 = c', (c.apply m).2 = es at h hover
  have woken : (∀ e ∈ es, ∃ a, e = .woke a) → False := fun hw => nomatch hw _ hover
  cases h with
  | callsInVain hn _ =>
    obtain ⟨rfl, -⟩ := Effect.sessionOver.inj (List.mem_singleton.1 hover)
    exact ⟨_, hn⟩
  | session hn hs =>
    obtain ⟨rfl, -⟩ := (hs.isOver _ _).1 hover
    exact ⟨_, hn⟩
  | dispatcher hs => exact absurd hover (hs.quiet _ _)
  | closing _ hs => exact absurd hover (hs.quiet _ _)
  | calls _ _ _ hw => exact (woken hw).elim
  | dropsSession _ _ hw => exact (woken hw).elim
  | dropsClosing _ hw => exact (woken hw).elim
  | starts _ hw => exact (woken hw).elim
  | startsClosing hw => exact (woken hw).elim
  | comes _ hw => exact (woken hw).elim
  | nothing _ => cases hover
  | opens _ => cases hover
  | dropsDispatcher _ => cases hover

/-- **A session is seen to be over exactly when it comes to its end.** -/
theorem sessionOver_apply {m : Move} {s' : Session} (result : Except Failure Response)
    (hn : c.sessions[n]? = some s) (hs' : (c.apply m).1.sessions[n]? = some s') :
    .sessionOver n result ∈ (c.apply m).2 ↔
      s.phase ≠ .finished result ∧ s'.phase = .finished result := by
  have h := apply_happening c m
  generalize (c.apply m).1 = c', (c.apply m).2 = es at h hs'
  -- where the session stays as it is, it is not seen to be over
  have same : c'.sessions[n]? = some s → .sessionOver n result ∉ es →
      (.sessionOver n result ∈ es ↔ s.phase ≠ .finished result ∧ s'.phase = .finished result) := by
    intro hsame hnot
    obtain rfl := Option.some.inj (hs'.symm.trans hsame)
    exact ⟨fun hm => absurd hm hnot, fun hm => absurd hm.2 hm.1⟩
  have woken : (∀ e ∈ es, ∃ a, e = .woke a) → .sessionOver n result ∉ es :=
    fun hw hm => nomatch hw _ hm
  cases h with
  | nothing _ => exact same hn List.not_mem_nil
  | opens _ =>
    refine same ?_ List.not_mem_nil
    exact (List.getElem?_append_left (List.getElem?_eq_some_iff.1 hn).1).trans hn
  | @calls k _ _ q _ _ hk hidle _ hw =>
    by_cases hkn : n = k
    · subst hkn
      obtain rfl := Option.some.inj (hs'.symm.trans (getElem?_setPhase_self hn))
      exact ⟨fun hm => absurd hm (woken hw), fun hm => nomatch hm.2⟩
    · exact same ((getElem?_setPhase_of_ne hkn).trans hn) (woken hw)
  | @callsInVain k _ _ _ hk hidle =>
    by_cases hkn : n = k
    · subst hkn
      obtain rfl := Option.some.inj (hs'.symm.trans (getElem?_setPhase_self hn))
      obtain rfl := Option.some.inj (hn.symm.trans hk)
      simp [hidle, eq_comm]
    · exact same ((getElem?_setPhase_of_ne hkn).trans hn) (by simp [hkn])
  | @dropsSession k registry _ _ _ _ _ hw =>
    by_cases hkn : n = k
    · subst hkn
      obtain rfl := Option.some.inj
        (hs'.symm.trans (getElem?_setPhase_self (c := { c with registry }) hn))
      exact ⟨fun hm => absurd hm (woken hw), fun hm => nomatch hm.2⟩
    · exact same ((getElem?_setPhase_of_ne hkn).trans hn) (woken hw)
  | dropsClosing _ hw => exact same hn (woken hw)
  | dropsDispatcher _ => exact same hn List.not_mem_nil
  | starts _ hw => exact same hn (woken hw)
  | startsClosing hw => exact same hn (woken hw)
  | comes _ hw => exact same hn (woken hw)
  | @session k s₀ next _ _ hk hs =>
    by_cases hkn : n = k
    · subst hkn
      obtain rfl := Option.some.inj (hn.symm.trans hk)
      obtain ⟨s'', hs'', -, rfl⟩ := getElem?_step_self hn hs
      obtain rfl := Option.some.inj (hs'.symm.trans hs'')
      rw [hs.isOver]
      exact ⟨fun hm => ⟨passage_not_finished hs.passage result, hm.2⟩, fun hm => ⟨rfl, hm.2⟩⟩
    · refine same ((getElem?_step_of_ne hs hkn).trans hn) ?_
      rw [hs.isOver]
      exact fun hm => hkn hm.1
  | dispatcher hs => exact same (hs.sessions ▸ hn) (hs.quiet _ _)
  | closing _ hs => exact same (hs.sessions ▸ hn) (hs.quiet _ _)

/-- Only a session that writes sends octets. -/
theorem sent_apply {octets : Octets} (h : .sent octets ∈ (c.apply (.step (.session n))).2) :
    ∃ s o rest, c.sessions[n]? = some s ∧ s.phase = .writing o rest := by
  cases hstep : c.step (.session n) with
  | none =>
    rw [apply_step_of_none hstep] at h
    cases h
  | some p =>
    rw [apply_step_of_some hstep] at h
    obtain ⟨s, next, hn, hs⟩ := step_session hstep
    obtain ⟨o, rest, hphase⟩ := hs.sent _ h
    exact ⟨s, o, rest, hn, hphase⟩

end Tacacs.Connection
