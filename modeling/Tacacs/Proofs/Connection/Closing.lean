/-
# `Tacacs.Proofs.Connection.Closing` — no exchange is left standing by a close

To end a connection the closed mark is set first, and the exchanges that stand
fail afterwards.  To send a packet its exchange is registered first, and the mark
is looked at afterwards.  So of any two of these that meet, one sees the other:
either the exchange is among those that are collected, or the session finds the
connection closed and takes its exchange back.

`Accounted c ids` is this in the middle of things: every exchange that stands is
under one of the ids still to fail, or belongs to a session that is not admitted.
Once the mark is set every move keeps it (`accounted_apply`), collecting
establishes it, and each failing needs one id less.  `Promising` says so of every
ending that is under way, and when an ending is through there are no ids left.

What stands then need not belong to a session that has still to look.  To look and
to take the exchange back are two steps, and between them the session has looked
and the exchange stands (`stands_after_look`).  That is why a session counts as not
admitted until it has taken its exchange back.
-/
import Tacacs.Proofs.Connection.Refusal

namespace Tacacs

/-- The stage a call to close has come to in ending the connection, unless it was
called off; none stands for the end. -/
def ClosingPhase.stage? : ClosingPhase → Option (Option EndStage)
  | .ending stage => some (some stage)
  | .queued | .holding | .finished _ => some none
  | .dropped => none

/-- The stage the dispatcher has come to in ending the connection. -/
def DispatcherPhase.stage? : DispatcherPhase → Option (Option EndStage)
  | .ending stage _ _ => some (some stage)
  | .finished _ => some none
  | .idle | .reading _ | .dropped => none

namespace Connection

variable {c c' : Connection} {m : Move} {n : Nat} {t : Ticket} {ids : List SessionId}
  {es : List Effect}

/-! ## Exchanges that are accounted for -/

/-- Every exchange that stands is under one of these ids, or it belongs to a session
that is not admitted. -/
def Accounted (c : Connection) (ids : List SessionId) : Prop :=
  ∀ (t : Ticket) x, c.registry.exchanges[t]? = some x → x.stands = true →
    x.session ∈ ids ∨ ∃ (n : Nat) (s : Session),
      c.sessions[n]? = some s ∧ s.id = x.session ∧ s.phase.notAdmitted? = some t

/-- On a closed connection, whatever is accounted for remains so. -/
theorem accounted_apply (hc : c.closed = true) (h : Accounted c ids) (m : Move) :
    Accounted (c.apply m).1 ids := by
  intro t x hx hs
  rcases stands_apply hx hs with ⟨x₀, hx₀, hs₀, hid⟩ | ⟨-, hnew⟩
  · rcases h t x₀ hx₀ hs₀ with hmem | ⟨n, s, hn, hsid, ht⟩
    · exact Or.inl (hid ▸ hmem)
    · obtain ⟨s', hs', hsid', hnext⟩ := notAdmitted_apply hc hn ht m
      rcases hnext with ⟨ht', -⟩ | ⟨-, hr⟩
      · exact Or.inr ⟨n, s', hs', hsid'.trans (hsid.trans hid), ht'⟩
      · -- the session has taken back what stood under its id, this exchange with it
        have hne := (Registry.stands_of_settle (hr ▸ hx) hs).2
        exact absurd (hid.symm.trans hsid.symm) hne
  · exact Or.inr hnew

theorem accounted_after (hc : c.closed = true) (h : Accounted c ids) (ms : List Move) :
    Accounted (c.after ms) ids := by
  induction ms generalizing c with
  | nil => exact h
  | cons m ms ih => exact ih (closed_apply hc m) (accounted_apply hc h m)

theorem accounted_settle {id : SessionId} {o : Outcome} (h : Accounted c (id :: ids))
    (hr : c'.registry = c.registry.settle id o) (hsessions : c'.sessions = c.sessions) :
    Accounted c' ids := by
  intro t x hx hs
  obtain ⟨hx₀, hne⟩ := Registry.stands_of_settle (hr ▸ hx) hs
  rcases h t x hx₀ hs with hmem | hsession
  · exact Or.inl ((List.mem_cons.1 hmem).resolve_left hne)
  · exact Or.inr (hsessions ▸ hsession)

/-! ## What an ending promises -/

/-- What is sure when an ending has come to a stage. -/
def Promises (c : Connection) : Option EndStage → Prop
  | some .mark => True
  | some .collect => c.closed = true
  | some (.fail ids) => c.closed = true ∧ Accounted c ids
  | none => c.closed = true ∧ Accounted c []

/-- Every ending keeps what it promises. -/
structure Promising (c : Connection) : Prop where
  dispatcher : ∀ stage, c.dispatcher.stage? = some stage →
    Promises c stage
  closings : ∀ (n : Nat) (p : ClosingPhase) stage, c.closings[n]? = some p → p.stage? = some stage →
    Promises c stage

theorem promises_apply {stage : Option EndStage} (h : Promises c stage) (m : Move) :
    Promises (c.apply m).1 stage := by
  cases stage with
  | none => exact ⟨closed_apply h.1 m, accounted_apply h.1 h.2 m⟩
  | some stage =>
    cases stage with
    | mark => trivial
    | collect => exact closed_apply h m
    | fail ids => exact ⟨closed_apply h.1 m, accounted_apply h.1 h.2 m⟩

/-- Each stage leads to the next with what that promises. -/
theorem promises_ending {told : Failure} {stage : EndStage} {next : Option EndStage}
    (h : Ending c told stage next c'.registry c'.closed) (hsessions : c'.sessions = c.sessions)
    (hstage : Promises c (some stage)) : Promises c' next := by
  generalize hr : c'.registry = r at h
  generalize hb : c'.closed = b at h
  cases h with
  | marks => exact hb
  | collects =>
    refine ⟨hb.trans hstage, ?_⟩
    intro t x hx hs
    exact Or.inl (Registry.mem_ids (hr ▸ hx) hs)
  | fails => exact ⟨hb.trans hstage.1, accounted_settle hstage.2 hr hsessions⟩
  | through =>
    refine ⟨hb.trans hstage.1, ?_⟩
    intro t x hx hs
    rw [hsessions]
    exact hstage.2 t x (hr ▸ hx) hs

theorem promises_dispatcher (hs : DispatcherStep c c' es)
    (h : ∀ stage, c.dispatcher.stage? = some stage → Promises c stage) :
    ∀ stage, c'.dispatcher.stage? = some stage → Promises c' stage := by
  intro stage hstage
  have hp := hs.passage
  generalize c.dispatcher = d at hp h
  generalize c'.dispatcher = d' at hp hstage
  generalize hr : c'.registry = r at hp
  generalize hb : c'.closed = b at hp
  cases hp with
  | waits => cases hstage
  | routes _ => cases hstage
  | breaks =>
    cases hstage
    trivial
  | ends he =>
    cases hstage
    exact promises_ending (hr ▸ hb ▸ he) hs.sessions (h _ rfl)
  | finishes he =>
    cases hstage
    exact promises_ending (hr ▸ hb ▸ he) hs.sessions (h _ rfl)

theorem promises_closing {p next : ClosingPhase} (hs : ClosingStep c n p next c' es)
    (keep : ∀ {stage}, Promises c stage → Promises c' stage)
    (h : ∀ stage, p.stage? = some stage → Promises c stage) :
    ∀ stage, next.stage? = some stage → Promises c' stage := by
  intro stage hstage
  have hp := hs.passage
  generalize hr : c'.registry = r at hp
  generalize hb : c'.closed = b at hp
  cases hp with
  | ends he =>
    cases hstage
    exact promises_ending (hr ▸ hb ▸ he) hs.sessions (h _ rfl)
  | lines he =>
    cases hstage
    exact promises_ending (hr ▸ hb ▸ he) hs.sessions (h _ rfl)
  | stands =>
    cases hstage
    exact keep (h _ rfl)
  | takes =>
    cases hstage
    exact keep (h _ rfl)
  | finishes =>
    cases hstage
    exact keep (h _ rfl)

theorem promises_set {next : ClosingPhase} (hcl : c'.closings = c.closings.set n next)
    (hnext : ∀ stage, next.stage? = some stage → Promises c' stage)
    (hrest : ∀ (k : Nat) (p : ClosingPhase) stage, c.closings[k]? = some p →
      p.stage? = some stage → Promises c' stage) :
    ∀ (k : Nat) (p : ClosingPhase) stage, c'.closings[k]? = some p → p.stage? = some stage →
      Promises c' stage := by
  intro k p stage hk hstage
  rw [hcl] at hk
  by_cases hkn : k = n
  · subst hkn
    have hlt : k < c.closings.length := by
      have h := (List.getElem?_eq_some_iff.1 hk).1
      rwa [List.length_set] at h
    rw [List.getElem?_set_self hlt] at hk
    obtain rfl := Option.some.inj hk
    exact hnext stage hstage
  · rw [List.getElem?_set_ne (Ne.symm hkn)] at hk
    exact hrest k p stage hk hstage

theorem promising_apply (h : Promising c) (m : Move) : Promising (c.apply m).1 := by
  have keep : ∀ {stage}, Promises c stage → Promises (c.apply m).1 stage := by
    intro stage hstage
    exact promises_apply hstage m
  have hm := apply_happening c m
  generalize (c.apply m).1 = c', (c.apply m).2 = es at hm keep ⊢
  have dispatchers : c'.dispatcher = c.dispatcher →
      ∀ stage, c'.dispatcher.stage? = some stage → Promises c' stage := by
    intro hd stage hstage
    exact keep (h.dispatcher stage (hd ▸ hstage))
  have rest : ∀ (n : Nat) (p : ClosingPhase) stage, c.closings[n]? = some p →
      p.stage? = some stage → Promises c' stage := by
    intro n p stage hn hstage
    exact keep (h.closings n p stage hn hstage)
  have closings : c'.closings = c.closings → ∀ (n : Nat) (p : ClosingPhase) stage,
      c'.closings[n]? = some p → p.stage? = some stage → Promises c' stage := by
    intro hcl
    rwa [hcl]
  cases hm with
  | nothing _ => exact ⟨dispatchers rfl, closings rfl⟩
  | opens _ => exact ⟨dispatchers rfl, closings rfl⟩
  | calls _ _ _ _ => exact ⟨dispatchers rfl, closings rfl⟩
  | callsInVain _ _ => exact ⟨dispatchers rfl, closings rfl⟩
  | dropsSession _ _ _ => exact ⟨dispatchers rfl, closings rfl⟩
  | dropsClosing _ _ => exact ⟨dispatchers rfl, promises_set rfl nofun rest⟩
  | dropsDispatcher _ => exact ⟨nofun, closings rfl⟩
  | starts _ _ => exact ⟨nofun, closings rfl⟩
  | startsClosing _ =>
    refine ⟨dispatchers rfl, ?_⟩
    intro n p stage hn hstage
    rcases Nat.lt_or_ge n c.closings.length with hlt | hge
    · rw [List.getElem?_append_left hlt] at hn
      exact rest n p stage hn hstage
    · rw [List.getElem?_append_right hge] at hn
      obtain rfl := List.mem_singleton.1 (List.mem_of_getElem? hn)
      obtain rfl := Option.some.inj hstage
      trivial
  | comes _ _ => exact ⟨dispatchers rfl, closings rfl⟩
  | session _ hs =>
    obtain ⟨c₁, h₁, rfl⟩ := hs.after
    exact ⟨dispatchers h₁.dispatcher, closings h₁.closings⟩
  | dispatcher hs => exact ⟨promises_dispatcher hs h.dispatcher, closings hs.closings⟩
  | closing hn hs =>
    have hnext := promises_closing hs keep fun stage => h.closings _ _ stage hn
    exact ⟨dispatchers hs.dispatcher, promises_set hs.closings hnext rest⟩

theorem promising_after (config : Config) (identifiers : Chap.IdentifierSequence)
    (ms : List Move) : Promising ((fresh config identifiers).after ms) := by
  induction ms using List.reverseRecOn with
  | nil => exact ⟨nofun, nofun⟩
  | append_singleton ms m ih =>
    rw [after_concat]
    exact promising_apply ih m

/-! ## After a close -/

/-- A call to close, or the dispatcher, has set the closed mark and failed what stood. -/
def Ended (c : Connection) : Prop :=
  c.dispatcher.stage? = some none ∨
    ∃ (n : Nat) (p : ClosingPhase), c.closings[n]? = some p ∧ p.stage? = some none

/-- Nobody waits in vain on a connection that is closed. -/
structure NoneStranded (c : Connection) : Prop where
  closed : c.closed = true
  /-- An exchange that stands belongs to a session that is not admitted. -/
  entries : ∀ (t : Ticket) x, c.registry.exchanges[t]? = some x → x.stands = true →
    ∃ (n : Nat) (s : Session), c.sessions[n]? = some s ∧ s.id = x.session ∧
      s.phase.notAdmitted? = some t
  /-- Such a session is refused, whatever follows. -/
  refused : ∀ (n : Nat) (s : Session) t later, c.sessions[n]? = some s →
    s.phase.notAdmitted? = some t → Refused c n t later
  /-- A session that is admitted and waits, or is about to, finds its exchange settled. -/
  admitted : ∀ (n : Nat) (s : Session) request t, c.sessions[n]? = some s →
    s.phase.inFlight? = some (request, t) → s.phase.notAdmitted? = none →
    ∃ outcome, c.registry.outcome? t = some outcome

theorem inFlight?_of_notAdmitted? {phase : SessionPhase} (h : phase.notAdmitted? = some t) :
    ∃ q, phase.inFlight? = some (q, t) := by
  obtain ⟨o, rfl, rfl | rfl⟩ := notAdmitted_cases h
  · exact ⟨o.request, rfl⟩
  · exact ⟨o.request, rfl⟩

section

variable {config : Config} {identifiers : Chap.IdentifierSequence}

theorem refused_after {ms : List Move} {s : Session}
    (hc : ((fresh config identifiers).after ms).closed = true)
    (hn : ((fresh config identifiers).after ms).sessions[n]? = some s)
    (ht : s.phase.notAdmitted? = some t) (later : List Move) :
    Refused ((fresh config identifiers).after ms) n t later := by
  obtain ⟨q, hf⟩ := inFlight?_of_notAdmitted? ht
  obtain ⟨-, x, hx, hid⟩ := inFlight_sound ⟨s, hn, rfl, hf⟩
  exact refused_run hc hn ht hx hid later

/-- Where every exchange that stands belongs to a session that is not admitted, all
others have their outcome. -/
theorem noneStranded_of_accounted {ms : List Move}
    (hc : ((fresh config identifiers).after ms).closed = true)
    (h : Accounted ((fresh config identifiers).after ms) []) :
    NoneStranded ((fresh config identifiers).after ms) := by
  have entries := fun (t : Ticket) x hx hs => (h t x hx hs).resolve_left List.not_mem_nil
  refine ⟨hc, entries, fun n s t later hn ht => refused_after hc hn ht later, ?_⟩
  intro n s request t hn hf hadmitted
  have hflight : InFlight ((fresh config identifiers).after ms) n s.id request t := ⟨s, hn, rfl, hf⟩
  obtain ⟨id, hx | ⟨o, hx⟩⟩ := inFlight_heeded hflight
  · -- it does not stand any more: nobody but the session has it, and that is admitted
    obtain ⟨n', s', hn', -, ht'⟩ := entries t _ hx rfl
    obtain ⟨q', hf'⟩ := inFlight?_of_notAdmitted? ht'
    obtain rfl := inFlight_unique hflight ⟨s', hn', rfl, hf'⟩
    obtain rfl := Option.some.inj (hn.symm.trans hn')
    exact nomatch hadmitted.symm.trans ht'
  · exact ⟨o, by rw [Registry.outcome?, hx]⟩

/-- **No waiter is stranded by a close.**  Once an ending is through, whatever stands
belongs to a session that has still to look or has looked in vain, and is going to be
taken back, and all who were admitted have their outcome, now and ever after.  The
closed mark stays.  A session that registers an exchange when the mark is set is
refused. -/
theorem no_waiter_stranded (config : Config) (identifiers : Chap.IdentifierSequence) :
    (∀ before later, Ended ((fresh config identifiers).after before) →
      NoneStranded ((fresh config identifiers).after (before ++ later))) ∧
    (∀ before later, ((fresh config identifiers).after before).closed = true →
      ((fresh config identifiers).after (before ++ later)).closed = true) ∧
    ∀ before (n : Nat) (s s' : Session) q o later,
      ((fresh config identifiers).after before).closed = true →
      ((fresh config identifiers).after before).sessions[n]? = some s → s.phase = .ready q →
      ((fresh config identifiers).after (before ++ [.step (.session n)])).sessions[n]? = some s' →
      s'.phase = .registered o →
      Refused ((fresh config identifiers).after (before ++ [.step (.session n)])) n o.ticket
        later := by
  refine ⟨?_, ?_, ?_⟩
  · intro before later hended
    have hp : Promises ((fresh config identifiers).after before) none := by
      have h := promising_after config identifiers before
      rcases hended with hd | ⟨n, p, hn, hstage⟩
      · exact h.dispatcher none hd
      · exact h.closings n p none hn hstage
    rw [after_append]
    have hc := closed_after hp.1 later
    have ha := accounted_after hp.1 hp.2 later
    rw [← after_append] at hc ha ⊢
    exact noneStranded_of_accounted hc ha
  · intro before later hc
    rw [after_append]
    exact closed_after hc later
  · intro before n s s' q o later hc _ _ hs' hphase
    refine refused_after ?_ hs' (hphase ▸ rfl) later
    rw [after_append]
    exact closed_after hc _

/-- A connection is closed while a session has still to send its first packet. -/
def closedBeforeSending : List Move :=
  [.openSession [7] {} none, .callSession 0 (.pap "alice" "sesame"), .startClosing]
    ++ List.replicate 3 (.step (.closing 0))

theorem closedBeforeSending_noneStranded :
    Ended ((fresh {} ⟨0⟩).after closedBeforeSending) ∧
      ((fresh {} ⟨0⟩).after (closedBeforeSending ++ [.step (.session 0)])).registry.contains 7
        = true ∧
      NoneStranded
        ((fresh {} ⟨0⟩).after (closedBeforeSending ++ [.step (.session 0)])) := by
  have hended : Ended ((fresh {} ⟨0⟩).after closedBeforeSending) :=
    Or.inr ⟨0, .queued, rfl, rfl⟩
  refine ⟨hended, by decide +kernel, ?_⟩
  exact (no_waiter_stranded {} ⟨0⟩).1 closedBeforeSending [.step (.session 0)] hended

/-- Every exchange that stands belongs to a session that has still to look whether the
connection is closed. -/
def BeforeLook (c : Connection) : Prop :=
  ∀ (t : Ticket) x, c.registry.exchanges[t]? = some x → x.stands = true →
    ∃ (n : Nat) (s : Session) (o : Sending), c.sessions[n]? = some s ∧ s.id = x.session ∧
      s.phase = .registered o

/-- The session registers its exchange, and finds the connection closed. -/
def lookedInVain : List Move :=
  closedBeforeSending ++ [.step (.session 0), .step (.session 0)]

/-- To look and to take the exchange back are two steps.  Between them it stands, and the
session has looked. -/
theorem stands_after_look :
    Ended ((fresh {} ⟨0⟩).after closedBeforeSending) ∧
      (∃ s o, ((fresh {} ⟨0⟩).after lookedInVain).sessions = [s] ∧ s.id = 7 ∧
        s.phase = .unsent o .closed) ∧
      ((fresh {} ⟨0⟩).after lookedInVain).registry.contains 7 = true ∧
      ¬BeforeLook ((fresh {} ⟨0⟩).after lookedInVain) := by
  refine ⟨Or.inr ⟨0, .queued, rfl, rfl⟩, ⟨_, _, rfl, rfl, rfl⟩, by decide +kernel, ?_⟩
  intro hbefore
  obtain ⟨n, s, o, hn, -, hphase⟩ := hbefore 0 _ rfl rfl
  -- there is one session only
  obtain rfl : n = 0 := Nat.lt_one_iff.1 (List.getElem?_eq_some_iff.1 hn).1
  cases hn
  cases hphase

end

end Connection

end Tacacs
