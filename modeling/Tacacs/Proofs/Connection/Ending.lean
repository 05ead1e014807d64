/-
# `Tacacs.Proofs.Connection.Ending` — every way the dispatcher and a call to close can go on

The dispatcher and a call to close end the connection in the same three stages
(`Ending`): the closed mark is set, the ids under which exchanges stand are
collected, and what stands under them fails, id by id.  Around that, the
dispatcher reads and routes (`DispatcherPassage`), and a call to close takes the
writing side and closes the stream (`ClosingPassage`).

As for sessions, `step_dispatcher` and `step_closing` say that a step is a
passage and that nothing else happens: no session is touched but through its
exchange, and no octet goes out.
-/
import Tacacs.Proofs.Connection.Passage

namespace Tacacs.Connection

/-- The packet that the dispatcher cuts out of the stream with its next step. -/
def nextFrame? (c : Connection) : Option Frame :=
  match c.dispatcher with
  | .reading reader =>
    if c.arrivals.isEmpty then none
    else
      match (reader.nextFrame c.config.maxBodyLength c.arrivals).1 with
      | .frame f => some f
      | _ => none
  | _ => none

/-! ## Passages -/

/-- An end stage leads to the next one, if there is one, and leaves the registry
and the closed mark so. -/
inductive Ending (c : Connection) (told : Failure) :
    EndStage → Option EndStage → Registry → Bool → Prop
  | marks : Ending c told .mark (some .collect) c.registry true
  | collects : Ending c told .collect (some (.fail c.registry.ids)) c.registry c.closed
  | fails {id : SessionId} {ids : List SessionId} :
      Ending c told (.fail (id :: ids)) (some (.fail ids)) (c.registry.settle id (.error told))
        c.closed
  | through : Ending c told (.fail []) none c.registry c.closed

/-- The dispatcher passes from a phase to the next, and leaves the registry and the
closed mark so. -/
inductive DispatcherPassage (c : Connection) :
    DispatcherPhase → DispatcherPhase → Registry → Bool → Prop
  | waits {r r' : Reader} : DispatcherPassage c (.reading r) (.reading r') c.registry c.closed
  | routes {r : Reader} {f : Frame} : c.nextFrame? = some f →
      DispatcherPassage c (.reading r) (.reading .start)
        (Reception.ofFrame c.config c.registry c.established f).registry c.closed
  | breaks {r : Reader} {told : Failure} {result : Except Failure Unit} :
      DispatcherPassage c (.reading r) (.ending .mark told result) c.registry c.closed
  | ends {stage next : EndStage} {told : Failure} {result : Except Failure Unit} {r : Registry}
      {b : Bool} : Ending c told stage (some next) r b →
      DispatcherPassage c (.ending stage told result) (.ending next told result) r b
  | finishes {stage : EndStage} {told : Failure} {result : Except Failure Unit} {r : Registry}
      {b : Bool} : Ending c told stage none r b →
      DispatcherPassage c (.ending stage told result) (.finished result) r b

/-- A call to close passes from a phase to the next, and leaves the registry and
the closed mark so. -/
inductive ClosingPassage (c : Connection) : ClosingPhase → ClosingPhase → Registry → Bool → Prop
  | ends {stage next : EndStage} {r : Registry} {b : Bool} :
      Ending c .closed stage (some next) r b →
      ClosingPassage c (.ending stage) (.ending next) r b
  | lines {stage : EndStage} {r : Registry} {b : Bool} : Ending c .closed stage none r b →
      ClosingPassage c (.ending stage) .queued r b
  | stands : ClosingPassage c .queued .queued c.registry c.closed
  | takes : ClosingPassage c .queued .holding c.registry c.closed
  | finishes {result : Except Failure Unit} :
      ClosingPassage c .holding (.finished result) c.registry c.closed

/-- A step of the dispatcher. -/
structure DispatcherStep (c c' : Connection) (effects : List Effect) : Prop where
  passage : DispatcherPassage c c.dispatcher c'.dispatcher c'.registry c'.closed
  sessions : c'.sessions = c.sessions
  config : c'.config = c.config
  closings : c'.closings = c.closings
  quiet : ∀ m result, .sessionOver m result ∉ effects

/-- A step of a call to close. -/
structure ClosingStep (c : Connection) (n : Nat) (p next : ClosingPhase) (c' : Connection)
    (effects : List Effect) : Prop where
  passage : ClosingPassage c p next c'.registry c'.closed
  closings : c'.closings = c.closings.set n next
  sessions : c'.sessions = c.sessions
  config : c'.config = c.config
  dispatcher : c'.dispatcher = c.dispatcher
  quiet : ∀ m result, .sessionOver m result ∉ effects

variable {c c' : Connection} {n : Nat} {es : List Effect}

/-! ## The stages -/

/-- What an end stage does, and what it leaves alone. -/
theorem endStep_ending {told : Failure} {stage : EndStage} {next : Option EndStage}
    (h : c.endStep told stage = (next, c', es)) :
    Ending c told stage next c'.registry c'.closed ∧
      (c'.sessions = c.sessions ∧ c'.config = c.config ∧ c'.dispatcher = c.dispatcher ∧
        c'.closings = c.closings) ∧ ∀ m result, .sessionOver m result ∉ es := by
  cases stage with
  | mark =>
    cases h
    exact ⟨.marks, ⟨rfl, rfl, rfl, rfl⟩, fun _ _ => List.not_mem_nil⟩
  | collect =>
    cases h
    exact ⟨.collects, ⟨rfl, rfl, rfl, rfl⟩, fun _ _ => List.not_mem_nil⟩
  | fail ids =>
    cases ids with
    | nil =>
      cases h
      exact ⟨.through, ⟨rfl, rfl, rfl, rfl⟩, fun _ _ => List.not_mem_nil⟩
    | cons id ids =>
      cases h
      exact ⟨.fails, ⟨rfl, rfl, rfl, rfl⟩, fun _ _ => sessionOver_not_mem_wake _ _ _⟩

/-! ## The dispatcher -/

theorem registry_ofFrame_of_fatal {config : Config} {r : Registry} {established : Bool} {f : Frame}
    {e : Failure} (h : (Reception.ofFrame config r established f).fatal = some e) :
    (Reception.ofFrame config r established f).registry = r := by
  unfold Reception.ofFrame at h ⊢
  split
  · rename_i hf
    rw [if_pos hf] at h
    cases h
  · rename_i hf
    rw [if_neg hf] at h
    split
    · rename_i hp
      simp only [hp, Reception.route] at h
      cases h
    · rename_i hp
      simp only [hp, Reception.route] at h
      cases h
    · rfl

theorem stepFrame_passage {f : Frame} {r : Reader} (hd : c.dispatcher = .reading r)
    (hf : c.nextFrame? = some f) (arrivals : List Arrival) (d : DispatcherPhase) :
    DispatcherStep c (({ c with arrivals, dispatcher := d }).stepFrame f).1
      (({ c with arrivals, dispatcher := d }).stepFrame f).2 := by
  unfold stepFrame
  cases hfatal : (Reception.ofFrame c.config c.registry c.established f).fatal with
  | none =>
    simp only [hfatal]
    refine ⟨hd ▸ .routes hf, rfl, rfl, rfl, ?_⟩
    simp
  | some e =>
    have hr := registry_ofFrame_of_fatal hfatal
    simp only [hfatal, hr]
    refine ⟨hd ▸ .breaks, rfl, rfl, rfl, ?_⟩
    simp

/-- **A step of the dispatcher is a passage.** -/
theorem step_dispatcher (h : c.step .dispatcher = some (c', es)) : DispatcherStep c c' es := by
  change c.stepDispatcher = _ at h
  cases hd : c.dispatcher with
  | idle =>
    simp only [stepDispatcher, hd] at h
    cases h
  | finished _ =>
    simp only [stepDispatcher, hd] at h
    cases h
  | dropped =>
    simp only [stepDispatcher, hd] at h
    cases h
  | reading reader =>
    simp only [stepDispatcher, hd] at h
    split at h
    · cases h
    · rename_i harr
      split at h
      · cases h
        exact ⟨hd ▸ .waits, rfl, rfl, rfl, fun _ _ => List.not_mem_nil⟩
      · rename_i f hp
        have hf : c.nextFrame? = some f := by simp [nextFrame?, hd, harr, hp]
        have hstep := stepFrame_passage hd hf
          (reader.nextFrame c.config.maxBodyLength c.arrivals).2 (.reading reader)
        rwa [Option.some.inj h] at hstep
      · cases h
        refine ⟨hd ▸ .breaks, rfl, rfl, rfl, ?_⟩
        simp
      · cases h
        refine ⟨hd ▸ .breaks, rfl, rfl, rfl, ?_⟩
        simp
  | ending stage told result =>
    simp only [stepDispatcher, hd] at h
    split at h
    · rename_i next c₁ woken he
      cases h
      obtain ⟨hp, ⟨hs, hc, -, hcl⟩, hq⟩ := endStep_ending he
      exact ⟨hd ▸ .ends hp, hs, hc, hcl, hq⟩
    · rename_i c₁ woken he
      cases h
      obtain ⟨hp, ⟨hs, hc, -, hcl⟩, hq⟩ := endStep_ending he
      refine ⟨hd ▸ .finishes hp, hs, hc, hcl, ?_⟩
      simpa using hq

/-! ## Calls to close -/

/-- **A step of a call to close is a passage.** -/
theorem step_closing (h : c.step (.closing n) = some (c', es)) :
    ∃ p next, c.closings[n]? = some p ∧ ClosingStep c n p next c' es := by
  obtain ⟨p, hn, h⟩ := Option.bind_eq_some_iff.1 h
  suffices h : ∃ next, ClosingStep c n p next c' es from ⟨p, h.imp fun _ h => ⟨hn, h⟩⟩
  cases p with
  | ending stage =>
    simp only [stepClosing] at h
    split at h
    · rename_i next c₁ woken he
      cases h
      obtain ⟨hp, ⟨hs, hc, hd, hcl⟩, hq⟩ := endStep_ending he
      exact ⟨_, .ends hp, congrArg (List.set · n _) hcl, hs, hc, hd, hq⟩
    · rename_i c₁ woken he
      cases h
      obtain ⟨hp, ⟨hs, hc, hd, hcl⟩, hq⟩ := endStep_ending he
      exact ⟨_, .lines hp, congrArg (List.set · n _) hcl, hs, hc, hd, hq⟩
  | queued =>
    simp only [stepClosing] at h
    rcases askForWriter_cases (c := c) (.closing n) with ⟨l, w, ha⟩ | ⟨l, ha⟩ | ha
    · simp only [ha] at h
      cases h
      exact ⟨_, .takes, rfl, rfl, rfl, rfl, fun _ _ => List.not_mem_nil⟩
    · simp only [ha] at h
      cases h
      obtain ⟨hlt, hq⟩ := List.getElem?_eq_some_iff.1 hn
      refine ⟨_, .stands, ?_, rfl, rfl, rfl, fun _ _ => List.not_mem_nil⟩
      rw [← hq, List.set_getElem_self]
    · simp only [ha] at h
      cases h
  | holding =>
    obtain ⟨rfl, rfl⟩ := Prod.mk.inj (Option.some.inj h)
    refine ⟨_, .finishes, rfl, rfl, rfl, rfl, ?_⟩
    intro m result hm
    rcases List.mem_append.1 hm with hm | hm
    · exact sessionOver_not_mem_giveBackWriter _ _ hm
    · cases List.mem_singleton.1 hm
  | finished _ => cases h
  | dropped => cases h

end Tacacs.Connection
