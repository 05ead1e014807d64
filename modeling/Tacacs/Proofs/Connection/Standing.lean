/-
# `Tacacs.Proofs.Connection.Standing` — which exchanges stand, and whose they are

An exchange stands from the move with which a session registers it to the next move that
settles what stands under its id.  `settles?` says which moves these are: the dispatcher
routes a packet of that session, an ending fails the id, a session takes its exchange back,
or registers another one.  Nothing else makes an exchange come or go (`shift_apply`), least
of all the end of a wait.

So what stands can be told from the moves of a run (`under_after`): an exchange is
`Outstanding` if some session registered it and what stands under its id was not settled
since.  And where no session is called off, the session that has registered it is still
inside the exchange, or has returned that no reply came in time (`owner_after`).
-/
import Tacacs.Proofs.Connection.WritingSide
import Tacacs.Proofs.Connection.Stopping
import Tacacs.Proofs.Connection.Numbering

namespace Tacacs

namespace Registry

variable {r : Registry} {id id' : SessionId} {t t' : Ticket}

/-! ## What stands under an id -/

/-- The exchange with this ticket stands under this id. -/
def Under (r : Registry) (id : SessionId) (t : Ticket) : Prop :=
  ∃ x, r.exchanges[t]? = some x ∧ x.stands = true ∧ x.session = id

theorem Under.lt (h : r.Under id t) : t < r.exchanges.length := by
  obtain ⟨x, hx, -⟩ := h
  exact (List.getElem?_eq_some_iff.1 hx).1

theorem contains_iff_under : r.contains id = true ↔ ∃ t, r.Under id t := by
  simp only [contains, List.any_eq_true, Bool.and_eq_true, beq_iff_eq]
  constructor
  · rintro ⟨x, hx, hid, hs⟩
    obtain ⟨t, ht⟩ := List.mem_iff_getElem?.1 hx
    exact ⟨t, x, ht, hs, hid⟩
  · rintro ⟨t, x, hx, hs, hid⟩
    exact ⟨x, List.mem_of_getElem? hx, hid, hs⟩

theorem under_settle (o : Outcome) : (r.settle id o).Under id' t ↔ r.Under id' t ∧ id' ≠ id := by
  constructor
  · rintro ⟨x, hx, hs, rfl⟩
    obtain ⟨hx₀, hne⟩ := stands_of_settle hx hs
    exact ⟨⟨x, hx₀, hs, rfl⟩, hne⟩
  · rintro ⟨⟨x, hx, hs, rfl⟩, hne⟩
    refine ⟨x, ?_, hs, rfl⟩
    rw [getElem?_settle, hx, Option.map_some, if_neg hne]

theorem under_giveUp : (r.giveUp t').Under id t ↔ r.Under id t := by
  constructor
  · rintro ⟨x, hx, hs, rfl⟩
    obtain ⟨x₀, hx₀, hs₀, hid⟩ := stands_of_giveUp hx hs
    exact ⟨x₀, hx₀, hs₀, hid⟩
  · rintro ⟨x, hx, hs, rfl⟩
    refine ⟨if t' = t then x.abandon else x, ?_, ?_, ?_⟩
    · rw [getElem?_giveUp, hx, Option.map_some]
    · split
      · rw [Exchange.stands_abandon, hs]
      · exact hs
    · split
      · exact Exchange.session_abandon x
      · rfl

theorem under_register : (r.register id).2.Under id' t ↔
    r.Under id' t ∧ id' ≠ id ∨ t = r.exchanges.length ∧ id' = id := by
  by_cases ht : t = r.exchanges.length
  · subst ht
    constructor
    · rintro ⟨x, hx, -, rfl⟩
      rw [getElem?_register_self] at hx
      obtain rfl := Option.some.inj hx
      exact .inr ⟨rfl, rfl⟩
    · rintro (⟨h, -⟩ | ⟨-, rfl⟩)
      · exact absurd h.lt (Nat.lt_irrefl _)
      · exact ⟨⟨id', .awaited⟩, getElem?_register_self _ _, rfl, rfl⟩
  · rw [← under_settle (.error .replaced)]
    unfold Under
    rw [getElem?_register_of_ne _ _ ht, ← getElem?_settle]
    constructor
    · exact .inl
    · rintro (h | ⟨he, -⟩)
      · exact h
      · exact absurd he ht

theorem outcome?_of_under (h : r.Under id t) : r.outcome? t = none := by
  obtain ⟨⟨id', status⟩, hx, hs, -⟩ := h
  unfold outcome?
  rw [hx]
  cases status with
  | awaited => rfl
  | abandoned => rfl
  | settled _ => cases hs
  | forgotten => cases hs

theorem eq_of_under (hr : r.ids.Nodup) (h : r.Under id t) (h' : r.Under id t') : t = t' := by
  obtain ⟨x, hx, hs, rfl⟩ := h
  obtain ⟨x', hx', hs', hid⟩ := h'
  exact eq_of_stands hr hx hx' hs hs' hid.symm

end Registry

/-- The id that an end stage fails next. -/
def EndStage.failing? : EndStage → Option SessionId
  | .fail (id :: _) => some id
  | .fail [] | .mark | .collect => none

namespace Connection

variable {c c' : Connection} {m : Move} {ms : List Move} {n k : Nat} {s : Session} {o : Sending}
  {id : SessionId} {t : Ticket}

/-! ## What a move makes of what stands -/

/-- The id under which a move settles what stands. -/
def settles? (c : Connection) : Move → Option SessionId
  | .step .dispatcher =>
    match c.dispatcher with
    | .ending stage _ _ => stage.failing?
    -- a packet of the session is routed
    | _ => c.nextFrame?.bind fun f => if f.stops c.config then none else some f.session
  | .step (.closing n) =>
    match c.closings[n]? with
    | some (.ending stage) => stage.failing?
    | _ => none
  | .step (.session n) =>
    c.sessions[n]?.bind fun s =>
      match s.phase with
      -- the session takes its exchange back
      | .unsent _ _ => some s.id
      -- the session registers another one
      | _ => (registers? n c (.step (.session n))).map fun _ => s.id
  | _ => none

/-- What a move makes of the registry. -/
inductive Shift (c c' : Connection) (m : Move) : Prop
  | stays : c.settles? m = none → (∀ n, registers? n c m = none) →
      (c'.registry = c.registry ∨ ∃ t, c'.registry = c.registry.giveUp t) → Shift c c' m
  | settles {id : SessionId} {o : Outcome} : c.settles? m = some id →
      (∀ n, registers? n c m = none) → c'.registry = c.registry.settle id o → Shift c c' m
  | registers {n : Nat} {s : Session} {o : Sending} : c.settles? m = some s.id →
      c.sessions[n]? = some s → registers? n c m = some o →
      o.ticket = c.registry.exchanges.length → c'.registry = (c.registry.register s.id).2 →
      Shift c c' m

theorem registers?_of_ne (h : m ≠ .step (.session n)) : registers? n c m = none := by
  refine Option.eq_none_iff_forall_ne_some.2 ?_
  intro o ho
  exact h (registers?_eq_some ho).1

/-- A dispatcher that is reading routes the packet that it finds, or nothing happens to what
stands. -/
theorem shift_reading {r : Reader} (hd : c.dispatcher = .reading r) :
    Shift c (c.apply (.step .dispatcher)).1 (.step .dispatcher) := by
  have hnone (n : Nat) : registers? n c (.step .dispatcher) = none := registers?_of_ne nofun
  have hsettles : c.settles? (.step .dispatcher)
      = c.nextFrame?.bind fun f => if f.stops c.config then none else some f.session := by
    simp only [settles?, hd]
  by_cases ha : c.arrivals = []
  · have hframe : c.nextFrame? = none := by
      simp [nextFrame?, hd, ha]
    rw [hframe] at hsettles
    exact .stays hsettles hnone (.inl (by rw [apply_read_nothing hd ha]))
  · have hframe := nextFrame?_of_reading hd ha
    rcases hnext : r.nextFrame c.config.maxBodyLength c.arrivals with ⟨progress, rest⟩
    rw [hnext] at hframe
    cases progress with
    | waiting r' =>
      rw [hframe] at hsettles
      exact .stays hsettles hnone (.inl (by rw [apply_read_part hd ha hnext]))
    | frame f =>
      rw [hframe, Option.bind_some] at hsettles
      cases hstops : f.stops c.config with
      | true =>
        rw [if_pos hstops] at hsettles
        exact .stays hsettles hnone (.inl (by rw [apply_read_stops hd ha hnext hstops]))
      | false =>
        rw [if_neg (Bool.eq_false_iff.1 hstops)] at hsettles
        exact .settles hsettles hnone (by rw [apply_read_goesOn hd ha hnext hstops])
    | ended =>
      rw [hframe] at hsettles
      exact .stays hsettles hnone (.inl (by rw [apply_read_stop hd ha hnext (.inl ⟨rfl, rfl⟩)]))
    | failed failure =>
      rw [hframe] at hsettles
      exact .stays hsettles hnone
        (.inl (by rw [apply_read_stop hd ha hnext (.inr ⟨failure, rfl, rfl⟩)]))

theorem registry_ending {told : Failure} {stage : EndStage} {next : Option EndStage} {r : Registry}
    {b : Bool} (h : Ending c told stage next r b) :
    stage.failing? = none ∧ r = c.registry ∨
      ∃ id, stage.failing? = some id ∧ r = c.registry.settle id (.error told) := by
  cases h with
  | marks => exact .inl ⟨rfl, rfl⟩
  | collects => exact .inl ⟨rfl, rfl⟩
  | fails => exact .inr ⟨_, rfl, rfl⟩
  | through => exact .inl ⟨rfl, rfl⟩

theorem shift_ending {told : Failure} {stage : EndStage} {next : Option EndStage} {b : Bool}
    (h : Ending c told stage next c'.registry b) (hsettles : c.settles? m = stage.failing?)
    (hnone : ∀ n, registers? n c m = none) : Shift c c' m := by
  rcases registry_ending h with ⟨he, hr⟩ | ⟨id, he, hr⟩
  · exact .stays (hsettles.trans he) hnone (.inl hr)
  · exact .settles (hsettles.trans he) hnone hr

theorem shift_dispatcher (c : Connection) :
    Shift c (c.apply (.step .dispatcher)).1 (.step .dispatcher) := by
  have hnone (n : Nat) : registers? n c (.step .dispatcher) = none := registers?_of_ne nofun
  have rests (hstep : c.step .dispatcher = none)
      (hsettles : c.settles? (.step .dispatcher) = none) :
      Shift c (c.apply (.step .dispatcher)).1 (.step .dispatcher) :=
    .stays hsettles hnone (.inl (by rw [apply_step_of_none hstep]))
  cases hd : c.dispatcher with
  | idle =>
    exact rests (by simp [step, stepDispatcher, hd]) (by simp [settles?, nextFrame?, hd])
  | finished result =>
    exact rests (by simp [step, stepDispatcher, hd]) (by simp [settles?, nextFrame?, hd])
  | dropped =>
    exact rests (by simp [step, stepDispatcher, hd]) (by simp [settles?, nextFrame?, hd])
  | reading r => exact shift_reading hd
  | ending stage told result =>
    have hsettles : c.settles? (.step .dispatcher) = stage.failing? := by
      simp only [settles?, hd]
    cases hstep : c.step .dispatcher with
    | none =>
      simp only [step, stepDispatcher, hd] at hstep
      split at hstep
      · cases hstep
      · cases hstep
    | some p =>
      rw [apply_step_of_some hstep]
      have hp := (step_dispatcher hstep).passage
      rw [hd] at hp
      generalize hd' : p.1.dispatcher = d' at hp
      generalize hr : p.1.registry = r at hp
      generalize p.1.closed = b at hp
      cases hp with
      | ends h => exact shift_ending (hr ▸ h) hsettles hnone
      | finishes h => exact shift_ending (hr ▸ h) hsettles hnone

theorem shift_closing (c : Connection) (n : Nat) :
    Shift c (c.apply (.step (.closing n))).1 (.step (.closing n)) := by
  have hnone (k : Nat) : registers? k c (.step (.closing n)) = none := registers?_of_ne nofun
  cases hstep : c.step (.closing n) with
  | none =>
    rw [apply_step_of_none hstep]
    refine .stays ?_ hnone (.inl rfl)
    -- an ending never waits
    cases hn : c.closings[n]? with
    | none => simp only [settles?, hn]
    | some p =>
      rw [step, hn, Option.bind_some] at hstep
      cases p with
      | ending stage =>
        simp only [stepClosing] at hstep
        split at hstep
        · cases hstep
        · cases hstep
      | _ => simp only [settles?, hn]
  | some p =>
    rw [apply_step_of_some hstep]
    obtain ⟨phase, next, hn, hs⟩ := step_closing hstep
    have hp := hs.passage
    generalize hr : p.1.registry = r at hp
    generalize p.1.closed = b at hp
    cases hp with
    | ends h => exact shift_ending (hr ▸ h) (by simp only [settles?, hn]) hnone
    | lines h => exact shift_ending (hr ▸ h) (by simp only [settles?, hn]) hnone
    | stands => exact .stays (by simp only [settles?, hn]) hnone (.inl hr)
    | takes => exact .stays (by simp only [settles?, hn]) hnone (.inl hr)
    | finishes => exact .stays (by simp only [settles?, hn]) hnone (.inl hr)

theorem settles?_session (hn : c.sessions[n]? = some s) (hphase : ∀ o f, s.phase ≠ .unsent o f) :
    c.settles? (.step (.session n)) = (registers? n c (.step (.session n))).map fun _ => s.id := by
  simp only [settles?, hn, Option.bind_some]

theorem shift_passage {next : SessionPhase} {es : List Effect} (hn : c.sessions[n]? = some s)
    (hstep : c.step (.session n) = some (c', es)) (hs : SessionStep c n s next c' es) :
    Shift c c' (.step (.session n)) := by
  have hreg : registers? n c (.step (.session n)) = registration s.phase next := by
    obtain ⟨s', hs', -, hphase⟩ := getElem?_step_self hn hs
    rw [registers?, apply_step_of_some hstep, phaseAt_of_some hn, phaseAt_of_some hs', hphase]
  have hnone (hself : registration s.phase next = none) (k : Nat) :
      registers? k c (.step (.session n)) = none := by
    by_cases hk : k = n
    · rw [hk, hreg, hself]
    · refine registers?_of_ne ?_
      rintro he
      cases he
      exact hk rfl
  -- where nothing is registered or taken back, what stood stands
  have stays (hself : registration s.phase next = none) (hphase : ∀ o f, s.phase ≠ .unsent o f)
      (hr : c'.registry = c.registry ∨ ∃ t, c'.registry = c.registry.giveUp t) :
      Shift c c' (.step (.session n)) := by
    refine .stays ?_ (hnone hself) hr
    rw [settles?_session hn hphase, hnone hself, Option.map_none]
  have hp := hs.passage
  generalize hphase : s.phase = phase at hp hreg hnone stays
  generalize hr : c'.registry = r at hp stays
  cases hp with
  | registers _ _ =>
    refine .registers ?_ hn hreg rfl hr
    rw [settles?_session hn (by simp [hphase]), hreg]
    rfl
  | withdraws =>
    have hsettles : c.settles? (.step (.session n)) = some s.id := by
      simp only [settles?, hn, Option.bind_some, hphase]
    exact .settles hsettles (hnone rfl) hr
  | fails _ => exact stays rfl (fun _ _ => SessionPhase.noConfusion) (.inr ⟨_, rfl⟩)
  | answered _ _ => exact stays rfl (fun _ _ => SessionPhase.noConfusion) (.inr ⟨_, rfl⟩)
  | asked _ _ _ => exact stays rfl (fun _ _ => SessionPhase.noConfusion) (.inr ⟨_, rfl⟩)
  | _ => exact stays rfl (fun _ _ => SessionPhase.noConfusion) (.inl rfl)

theorem shift_session (c : Connection) (n : Nat) :
    Shift c (c.apply (.step (.session n))).1 (.step (.session n)) := by
  cases hstep : c.step (.session n) with
  | some p =>
    rw [apply_step_of_some hstep]
    obtain ⟨s, next, hn, hs⟩ := step_session hstep
    exact shift_passage hn hstep hs
  | none =>
    have hnone (k : Nat) : registers? k c (.step (.session n)) = none := by
      rw [registers?, apply_step_of_none hstep]
      exact registration_self _
    rw [apply_step_of_none hstep]
    refine .stays ?_ hnone (.inl rfl)
    cases hn : c.sessions[n]? with
    | none => simp only [settles?, hn, Option.bind_none]
    | some s =>
      rw [settles?_session hn, hnone n, Option.map_none]
      -- a session that is to take its exchange back never waits
      intro o f hs
      rw [step_session_eq hn, stepSession, hs] at hstep
      cases hstep

/-- **A move registers an exchange, or settles what stands under an id, or leaves standing
what stands.** -/
theorem shift_apply (c : Connection) (m : Move) : Shift c (c.apply m).1 m := by
  by_cases hm : ∃ a, m = .step a
  · obtain ⟨a, rfl⟩ := hm
    cases a with
    | dispatcher => exact shift_dispatcher c
    | session n => exact shift_session c n
    | closing n => exact shift_closing c n
  · have hnone (n : Nat) : registers? n c m = none := registers?_of_ne fun he => hm ⟨_, he⟩
    have hsettles : c.settles? m = none := by
      cases m with
      | step a => exact absurd ⟨a, rfl⟩ hm
      | _ => rfl
    refine .stays hsettles hnone ?_
    have h := apply_happening c m
    generalize (c.apply m).1 = c', (c.apply m).2 = es at h
    cases h with
    | session _ _ => exact absurd ⟨_, rfl⟩ hm
    | dispatcher _ => exact absurd ⟨_, rfl⟩ hm
    | closing _ _ => exact absurd ⟨_, rfl⟩ hm
    | dropsSession _ hr _ =>
      rcases hr with rfl | ⟨s, t, -, -, rfl⟩
      · exact .inl rfl
      · exact .inr ⟨t, rfl⟩
    | _ => exact .inl rfl

/-- One session at most registers an exchange with a move, and it gets the next ticket. -/
theorem registers?_unique {o' : Sending} (h : registers? n c m = some o)
    (h' : registers? k c m = some o') : n = k ∧ o = o' := by
  obtain rfl : n = k := by
    cases (registers?_eq_some h).1.symm.trans (registers?_eq_some h').1
    rfl
  exact ⟨rfl, Option.some.inj (h.symm.trans h')⟩

theorem registers?_ticket (h : registers? n c m = some o) :
    o.ticket = c.registry.exchanges.length := by
  cases shift_apply c m with
  | stays _ hnone _ => cases (hnone n).symm.trans h
  | settles _ hnone _ => cases (hnone n).symm.trans h
  | registers _ _ ho hticket _ =>
    obtain ⟨-, rfl⟩ := registers?_unique h ho
    exact hticket

/-- **What stands after a move stood before and was not settled, or it was just
registered.** -/
theorem under_apply : (c.apply m).1.registry.Under id t ↔
    c.registry.Under id t ∧ c.settles? m ≠ some id ∨
      ∃ n s o, c.sessions[n]? = some s ∧ s.id = id ∧ registers? n c m = some o ∧ o.ticket = t := by
  cases shift_apply c m with
  | stays hsettles hnone hr =>
    have hsame : (c.apply m).1.registry.Under id t ↔ c.registry.Under id t := by
      rcases hr with hr | ⟨t', hr⟩
      · rw [hr]
      · rw [hr, Registry.under_giveUp]
    rw [hsame, hsettles]
    constructor
    · exact fun h => .inl ⟨h, nofun⟩
    · rintro (⟨h, -⟩ | ⟨n, s, o, -, -, ho, -⟩)
      · exact h
      · cases (hnone n).symm.trans ho
  | @settles id' _ hsettles hnone hr =>
    rw [hr, Registry.under_settle, hsettles, ne_eq, ne_eq, Option.some.injEq, eq_comm (a := id)]
    constructor
    · exact .inl
    · rintro (h | ⟨n, s, o, -, -, ho, -⟩)
      · exact h
      · cases (hnone n).symm.trans ho
  | @registers n s o hsettles hn ho hticket hr =>
    rw [hr, Registry.under_register, hsettles, ne_eq, ne_eq, Option.some.injEq, eq_comm (a := id)]
    refine or_congr_right ?_
    constructor
    · rintro ⟨rfl, rfl⟩
      exact ⟨n, s, o, hn, rfl, ho, hticket⟩
    · rintro ⟨n', s', o', hn', rfl, ho', rfl⟩
      obtain ⟨rfl, rfl⟩ := registers?_unique ho ho'
      obtain rfl := Option.some.inj (hn.symm.trans hn')
      exact ⟨hticket, rfl⟩

/-! ## What stands after a run -/

/-- The ids under which what stands is settled in the course of a run. -/
def cleared (c : Connection) (ms : List Move) : List SessionId :=
  gather settles? c ms

/-- A session with this id has registered this exchange in the run, and nothing under its id
was settled since. -/
def Outstanding (c : Connection) (ms : List Move) (id : SessionId) (n : Nat) (o : Sending) : Prop :=
  ∃ before m later s, ms = before ++ m :: later ∧ (c.after before).sessions[n]? = some s ∧
    s.id = id ∧ registers? n (c.after before) m = some o ∧
    id ∉ cleared (c.after (before ++ [m])) later

theorem cleared_concat (c : Connection) (ms : List Move) (m : Move) :
    cleared c (ms ++ [m]) = cleared c ms ++ ((c.after ms).settles? m).toList :=
  gather_concat settles? c ms m

theorem not_outstanding_nil : ¬Outstanding c [] id n o := by
  rintro ⟨before, m, later, s, hsplit, -⟩
  cases (List.append_eq_nil_iff.1 hsplit.symm).2

theorem outstanding_concat : Outstanding c (ms ++ [m]) id n o ↔
    Outstanding c ms id n o ∧ (c.after ms).settles? m ≠ some id ∨
      ∃ s, (c.after ms).sessions[n]? = some s ∧ s.id = id ∧
        registers? n (c.after ms) m = some o := by
  constructor
  · rintro ⟨before, m', later, s, hsplit, hn, hid, ho, hclear⟩
    rcases List.eq_nil_or_concat later with rfl | ⟨later, m'', rfl⟩
    · obtain ⟨rfl, hm⟩ := List.append_inj' hsplit rfl
      obtain ⟨rfl, -⟩ := List.cons.inj hm
      exact .inr ⟨s, hn, hid, ho⟩
    · rw [List.concat_eq_append] at hsplit hclear
      rw [← List.cons_append, ← List.append_assoc] at hsplit
      obtain ⟨rfl, hm⟩ := List.append_inj' hsplit rfl
      obtain ⟨rfl, -⟩ := List.cons.inj hm
      rw [cleared_concat, List.mem_append, not_or] at hclear
      refine .inl ⟨⟨before, m', later, s, rfl, hn, hid, ho, hclear.1⟩, ?_⟩
      intro hsettles
      rw [after_append_cons] at hsettles
      exact hclear.2 (Option.mem_toList.2 hsettles)
  · rintro (⟨⟨before, m', later, s, rfl, hn, hid, ho, hclear⟩, hkeeps⟩ | ⟨s, hn, hid, ho⟩)
    · refine ⟨before, m', later ++ [m], s, ?_, hn, hid, ho, ?_⟩
      · rw [List.append_assoc, List.cons_append]
      · rw [after_append_cons] at hkeeps
        rw [cleared_concat, List.mem_append, not_or]
        exact ⟨hclear, fun hmem => hkeeps (Option.mem_toList.1 hmem)⟩
    · exact ⟨ms, m, [], s, rfl, hn, hid, ho, List.not_mem_nil⟩

section Run

variable {config : Config} {identifiers : Chap.IdentifierSequence}

/-- **What stands is what is outstanding.** -/
theorem under_after : ((fresh config identifiers).after ms).registry.Under id t ↔
    ∃ n o, Outstanding (fresh config identifiers) ms id n o ∧ o.ticket = t := by
  induction ms using List.reverseRecOn generalizing t with
  | nil =>
    constructor
    · rintro ⟨x, hx, -⟩
      cases hx
    · rintro ⟨n, o, h, -⟩
      exact absurd h not_outstanding_nil
  | append_singleton ms m ih =>
    rw [after_concat, under_apply, ih]
    constructor
    · rintro (⟨⟨n, o, h, ht⟩, hkeeps⟩ | ⟨n, s, o, hn, hid, ho, ht⟩)
      · exact ⟨n, o, outstanding_concat.2 (.inl ⟨h, hkeeps⟩), ht⟩
      · exact ⟨n, o, outstanding_concat.2 (.inr ⟨s, hn, hid, ho⟩), ht⟩
    · rintro ⟨n, o, h, ht⟩
      rcases outstanding_concat.1 h with ⟨h, hkeeps⟩ | ⟨s, hn, hid, ho⟩
      · exact .inl ⟨⟨n, o, h, ht⟩, hkeeps⟩
      · exact .inr ⟨n, s, o, hn, hid, ho, ht⟩

theorem outstanding_unique {o' : Sending} {id' : SessionId}
    (h : Outstanding (fresh config identifiers) ms id n o)
    (h' : Outstanding (fresh config identifiers) ms id' k o') (ht : o.ticket = o'.ticket) :
    n = k := by
  induction ms using List.reverseRecOn with
  | nil => exact absurd h not_outstanding_nil
  | append_singleton ms m ih =>
    -- what was outstanding before has a ticket already
    have old {id : SessionId} {n : Nat} {o : Sending}
        (h : Outstanding (fresh config identifiers) ms id n o) :
        o.ticket < ((fresh config identifiers).after ms).registry.exchanges.length :=
      (under_after.2 ⟨n, o, h, rfl⟩).lt
    rcases outstanding_concat.1 h with ⟨h, -⟩ | ⟨s, -, -, ho⟩
    · rcases outstanding_concat.1 h' with ⟨h', -⟩ | ⟨s', -, -, ho'⟩
      · exact ih h h'
      · exact absurd (ht.trans (registers?_ticket ho')) (Nat.ne_of_lt (old h))
    · rcases outstanding_concat.1 h' with ⟨h', -⟩ | ⟨s', -, -, ho'⟩
      · exact absurd (ht.symm.trans (registers?_ticket ho)) (Nat.ne_of_lt (old h'))
      · exact (registers?_unique ho ho').1

theorem ids_nodup (config : Config) (identifiers : Chap.IdentifierSequence) (ms : List Move) :
    ((fresh config identifiers).after ms).registry.ids.Nodup := by
  induction ms using List.reverseRecOn with
  | nil => exact List.Pairwise.nil
  | append_singleton ms m ih =>
    rw [after_concat]
    cases shift_apply ((fresh config identifiers).after ms) m with
    | stays _ _ hr =>
      rcases hr with hr | ⟨t, hr⟩
      · rwa [hr]
      · rwa [hr, Registry.ids_giveUp]
    | settles _ _ hr =>
      rw [hr, Registry.ids_settle]
      exact ih.filter _
    | registers _ _ _ _ hr =>
      rw [hr, Registry.ids_register]
      refine List.nodup_append.2 ⟨ih.filter _, List.pairwise_singleton _ _, ?_⟩
      rintro x hx _ hy rfl
      obtain rfl := List.mem_singleton.1 hy
      exact of_decide_eq_true (List.mem_filter.1 hx).2 rfl

end Run

/-! ## Whose it is -/

/-- The session is inside the exchange. -/
def Inside (c : Connection) (n : Nat) (o : Sending) : Prop :=
  (c.phaseAt n).inFlight? = some (o.request, o.ticket)

/-- The session has returned that no reply came in time. -/
def TimedOut (c : Connection) (n : Nat) : Prop :=
  ∃ limit, c.phaseAt n = .finished (.error (.timeout limit))

theorem step_awaiting_of_under {q : Packet} {w : Wait} (hn : c.sessions[n]? = some s)
    (hs : s.phase = .awaiting q w) (hu : c.registry.Under id w.ticket) :
    (c.apply (.step (.session n))).1.phaseAt n = s.phase ∨
      (c.apply (.step (.session n))).1.phaseAt n = .finished (.error (.timeout w.limit)) := by
  obtain ⟨s', hs', -, hnext⟩ := step_awaiting hn hs
  rw [phaseAt_of_some hs']
  refine hnext.imp And.right ?_
  rintro ⟨outcome, hw, hphase⟩
  have hlate : outcome = .error (.timeout w.limit) := by
    unfold Wait.result? at hw
    rw [Registry.outcome?_of_under hu] at hw
    dsimp only at hw
    split at hw
    · exact (Option.some.inj hw).symm
    · cases hw
  rw [hphase, hlate]
  rfl

theorem inFlight?_passage {phase next : SessionPhase} {r : Registry} {x : Packet × Ticket}
    (hp : Passage c id phase next r) (hwithdraws : ∀ o f, phase ≠ .unsent o f)
    (hwaits : ∀ q w, phase ≠ .awaiting q w) (h : phase.inFlight? = some x) :
    next.inFlight? = some x := by
  cases hp with
  | exhausted _ => cases h
  | unwritable _ => cases h
  | registers _ _ => cases h
  | withdraws => exact absurd rfl (hwithdraws _ _)
  | fails _ => exact absurd rfl (hwaits _ _)
  | answered _ _ => exact absurd rfl (hwaits _ _)
  | asked _ _ _ => exact absurd rfl (hwaits _ _)
  | _ => exact h

/-- While nothing settles what stands under its id, a session that is not called off stays
inside its exchange, or returns that no reply came in time. -/
theorem owner_apply (hn : c.sessions[n]? = some s) (hu : c.registry.Under s.id o.ticket)
    (hkeeps : c.settles? m ≠ some s.id) (hm : m ≠ .drop (.session n))
    (h : Inside c n o ∨ TimedOut c n) : Inside (c.apply m).1 n o ∨ TimedOut (c.apply m).1 n := by
  have hphase := phaseAt_of_some hn
  by_cases hwaits : m = .step (.session n) ∧ ∃ q w, s.phase = .awaiting q w
  · obtain ⟨rfl, q, w, hs⟩ := hwaits
    rw [hs] at hphase
    rcases h with h | ⟨limit, hover⟩
    · have hsame : some (q, w.ticket) = some (o.request, o.ticket) := by
        rw [Inside, hphase] at h
        exact h
      obtain ⟨rfl, hticket⟩ := Prod.mk.inj (Option.some.inj hsame)
      rw [← hticket] at hu
      rcases step_awaiting_of_under hn hs hu with hstays | hlate
      · rw [hs] at hstays
        rw [Inside, hphase] at h
        exact .inl ((congrArg SessionPhase.inFlight? hstays).trans h)
      · exact .inr ⟨_, hlate⟩
    · cases hphase.symm.trans hover
  · obtain ⟨s', hs', -, hturn⟩ := session_apply hn m
    have hnext := phaseAt_of_some hs'
    rw [Inside, TimedOut, hphase] at h
    rw [Inside, TimedOut, hnext]
    have busy : s.phase ≠ .idle := by
      intro hidle
      rw [hidle] at h
      rcases h with h | ⟨_, h⟩
      · cases h
      · cases h
    generalize s'.phase = next at hturn
    cases hturn with
    | stays _ => exact h
    | called hidle _ => exact absurd hidle busy
    | refused hidle => exact absurd hidle busy
    | dropped _ => exact absurd rfl hm
    | passes hp =>
      rcases h with h | ⟨limit, hover⟩
      · left
        have hwithdraws (o' : Sending) (f : Failure) : s.phase ≠ .unsent o' f := by
          intro hs
          refine hkeeps ?_
          simp only [settles?, hn, Option.bind_some, hs]
        have hnot (q : Packet) (w : Wait) : s.phase ≠ .awaiting q w :=
          fun hs => hwaits ⟨rfl, q, w, hs⟩
        exact inFlight?_passage hp hwithdraws hnot h
      · exact absurd hover (passage_not_finished hp _)

section Run

variable {config : Config} {identifiers : Chap.IdentifierSequence}

theorem session_of_outstanding (h : Outstanding (fresh config identifiers) ms id n o) :
    ∃ s, ((fresh config identifiers).after ms).sessions[n]? = some s ∧ s.id = id := by
  obtain ⟨before, m, later, s, rfl, hn, hid, -⟩ := h
  obtain ⟨s', hs', hid'⟩ := session_after hn (m :: later)
  rw [after_append]
  exact ⟨s', hs', hid'.trans hid⟩

/-- What holds of a session when it registers an exchange, and is kept by every move while the
exchange is outstanding, holds while the exchange is outstanding. -/
@[elab_as_elim]
theorem outstanding_induction {motive : List Move → Prop}
    (h : Outstanding (fresh config identifiers) ms id n o)
    (registers : ∀ ms m, registers? n ((fresh config identifiers).after ms) m = some o →
      motive (ms ++ [m]))
    (keeps : ∀ ms m s, ((fresh config identifiers).after ms).sessions[n]? = some s → s.id = id →
      ((fresh config identifiers).after ms).registry.Under id o.ticket →
      ((fresh config identifiers).after ms).settles? m ≠ some id → motive ms →
      motive (ms ++ [m])) : motive ms := by
  induction ms using List.reverseRecOn with
  | nil => exact absurd h not_outstanding_nil
  | append_singleton ms m ih =>
    rcases outstanding_concat.1 h with ⟨h, hkeeps⟩ | ⟨s, -, -, ho⟩
    · obtain ⟨s, hn, hid⟩ := session_of_outstanding h
      exact keeps ms m s hn hid (under_after.2 ⟨n, o, h, rfl⟩) hkeeps (ih h)
    · exact registers ms m ho

theorem inside_of_registers (ho : registers? n c m = some o) : Inside (c.apply m).1 n o := by
  obtain ⟨-, -, -, -, hnext⟩ := registers?_eq_some ho
  rw [Inside, hnext]
  rfl

/-- **What is outstanding is in the hands of the session that has registered it.** -/
theorem owner_after (hkept : ∀ n, .drop (.session n) ∉ ms)
    (h : Outstanding (fresh config identifiers) ms id n o) :
    (∃ s, ((fresh config identifiers).after ms).sessions[n]? = some s ∧ s.id = id) ∧
      (Inside ((fresh config identifiers).after ms) n o ∨
        TimedOut ((fresh config identifiers).after ms) n) := by
  refine ⟨session_of_outstanding h, ?_⟩
  revert hkept
  refine outstanding_induction h ?_ ?_
  · intro ms m ho _
    rw [after_concat]
    exact .inl (inside_of_registers ho)
  · intro ms m s hn hid hu hkeeps ih hkept
    subst hid
    rw [after_concat]
    refine owner_apply hn hu hkeeps ?_ (ih fun k hmem => hkept k (List.mem_append_left _ hmem))
    rintro rfl
    exact hkept n List.mem_concat_self

end Run

end Connection

end Tacacs
