/-
# `Tacacs.Proofs.Exchange.Events` — everything that can happen to exchanges

A run of a registry and of those who wait is a list of events: an exchange is
registered, resolved or withdrawn, everything fails, a wait begins, is looked
at or is called off, time passes.  `apply` says what an event does, and `told`
what the holder of a ticket learns by it.

Beside the run stands its reading by hand.  `verdict? id` says what an event
makes of the exchange that stands under an id, without looking at any state, and
`Stands id` says of a list of events that the last one that touched the id was a
registration.

Two facts carry all that follows.  `exchange_apply` is the only place where an
event meets the state of an exchange: a verdict settles it, giving up abandons
it, and nothing else changes it.  `Kept` is what every run keeps: nobody claims
a ticket twice, and a ticket is claimed as long as its exchange is awaited and
never after it was given up.
-/
import Tacacs.Waiting
import Mathlib.Data.List.Nodup

namespace Tacacs.Waiting

/-! ## Events and runs -/

/-- Something that happens to exchanges. -/
inductive Event
  /-- An exchange is registered, and its ticket is held. -/
  | register (id : SessionId)
  /-- What stands under an id gets an outcome. -/
  | resolve (id : SessionId) (outcome : Outcome)
  /-- What stands under an id is taken back. -/
  | withdraw (id : SessionId)
  | failAll (failure : Failure)
  /-- The holder of a ticket begins to wait. -/
  | wait (t : Ticket) (limit : Duration)
  /-- One who waits looks whether the wait is over. -/
  | poll (t : Ticket)
  /-- A ticket is discarded, held or waited for. -/
  | discard (t : Ticket)
  | advance (span : Duration)

/-- What an event does. -/
def apply (s : Waiting) : Event → Waiting
  | .register id => (s.register id).2
  | .resolve id outcome => (s.resolve id outcome).2
  | .withdraw id => s.withdraw id
  | .failAll failure => s.failAll failure
  | .wait t limit => s.wait t limit
  | .poll t => (s.poll t).2
  | .discard t => (s.discard t).2
  | .advance span => s.advance span

/-- What the holder of a ticket learns by an event. -/
def told (s : Waiting) (t : Ticket) : Event → Option Outcome
  | .poll t' => if t' = t then (s.poll t).1 else none
  | _ => none

/-- What a list of events does. -/
def run (s : Waiting) (es : List Event) : Waiting :=
  es.foldl apply s

/-- Everything the holder of a ticket learns by a list of events. -/
def outcomes (s : Waiting) (t : Ticket) : List Event → List Outcome
  | [] => []
  | e :: es => (s.told t e).toList ++ (s.apply e).outcomes t es

theorem run_append (s : Waiting) (es es' : List Event) :
    s.run (es ++ es') = (s.run es).run es' :=
  List.foldl_append

theorem run_concat (s : Waiting) (es : List Event) (e : Event) :
    s.run (es ++ [e]) = (s.run es).apply e :=
  run_append s es [e]

theorem outcomes_append (s : Waiting) (t : Ticket) (es es' : List Event) :
    s.outcomes t (es ++ es') = s.outcomes t es ++ (s.run es).outcomes t es' := by
  induction es generalizing s with
  | nil => rfl
  | cons e es ih =>
    show (s.told t e).toList ++ (s.apply e).outcomes t (es ++ es') = _
    rw [ih, ← List.append_assoc]
    rfl

theorem outcomes_concat (s : Waiting) (t : Ticket) (es : List Event) (e : Event) :
    s.outcomes t (es ++ [e]) = s.outcomes t es ++ ((s.run es).told t e).toList := by
  rw [outcomes_append]
  exact congrArg _ (List.append_nil _)

/-! ## A run, read by hand -/

/-- What an event makes of the exchange that stands under an id; nothing if it
does not touch the id. -/
def Event.verdict? (id : SessionId) : Event → Option Outcome
  | .register id' => if id' = id then some (.error .replaced) else none
  | .resolve id' outcome => if id' = id then some outcome else none
  | .withdraw id' => if id' = id then some (.error .closed) else none
  | .failAll failure => some (.error failure)
  | _ => none

/-- What the first of the events that touches an id makes of the exchange that
stands under it. -/
def verdict? (id : SessionId) (es : List Event) : Option Outcome :=
  es.findSome? (Event.verdict? id)

/-- The last of the events that touched the id was a registration. -/
def Stands (id : SessionId) (es : List Event) : Prop :=
  ∃ before later, es = before ++ .register id :: later ∧ verdict? id later = none

theorem verdict?_concat (id : SessionId) (es : List Event) (e : Event) :
    verdict? id (es ++ [e]) = (verdict? id es).or (e.verdict? id) := by
  rw [verdict?, List.findSome?_append]
  cases h : e.verdict? id <;> simp [verdict?, List.findSome?, h]

theorem not_stands_nil (id : SessionId) : ¬Stands id [] := by
  rintro ⟨before, later, h, -⟩
  cases before <;> cases h

/-- Whether the last toucher is a registration is decided by the last event, or,
if that does not touch the id, by those before it. -/
theorem stands_concat {id : SessionId} {es : List Event} {e : Event} :
    Stands id (es ++ [e]) ↔ e = .register id ∨ e.verdict? id = none ∧ Stands id es := by
  constructor
  · rintro ⟨before, later, h, hv⟩
    rcases List.eq_nil_or_concat later with rfl | ⟨later, e', rfl⟩
    · exact Or.inl (List.head_eq_of_cons_eq (List.append_inj' h rfl).2)
    · rw [List.concat_eq_append] at h hv
      rw [← List.cons_append, ← List.append_assoc] at h
      obtain ⟨hes, he⟩ := List.append_inj' h rfl
      obtain rfl := List.head_eq_of_cons_eq he
      rw [verdict?_concat, Option.or_eq_none_iff] at hv
      exact Or.inr ⟨hv.2, before, later, hes, hv.1⟩
  · rintro (rfl | ⟨he, before, later, rfl, hv⟩)
    · exact ⟨es, [], rfl, rfl⟩
    · refine ⟨before, later ++ [e], by rw [List.append_assoc]; rfl, ?_⟩
      rw [verdict?_concat, hv]
      exact he

/-- The holder of a ticket gave up in the course of these events: the ticket was
discarded, or a wait for it came to an end. -/
def GaveUp (s : Waiting) (t : Ticket) (es : List Event) : Prop :=
  .discard t ∈ es ∨ s.outcomes t es ≠ []

/-- With this event the holder of a ticket goes away. -/
def Event.leaves (s : Waiting) (t : Ticket) : Event → Bool
  | .discard t' => t' == t
  | e => (s.told t e).isSome

theorem leaves_poll (s : Waiting) (t t' : Ticket) :
    (Event.poll t').leaves s t = (t' == t && (s.poll t').1.isSome) := by
  by_cases ht : t' = t
  · subst ht
    simp [Event.leaves, told]
  · simp [Event.leaves, told, ht]

theorem gaveUp_concat {s : Waiting} {t : Ticket} {es : List Event} {e : Event} :
    GaveUp s t (es ++ [e]) ↔ GaveUp s t es ∨ e.leaves (s.run es) t = true := by
  have hd : Event.discard t ∈ es ++ [e] ↔ .discard t ∈ es ∨ e = .discard t := by
    rw [List.mem_append, List.mem_singleton, eq_comm (a := e)]
  rw [GaveUp, GaveUp, hd, outcomes_concat]
  cases e with
  | discard t' =>
    simp only [Event.leaves, told, beq_iff_eq, Option.toList_none, List.append_nil,
      Event.discard.injEq]
    exact or_right_comm
  | poll t' => cases h : (s.run es).told t (.poll t') <;> simp [Event.leaves, h]
  | register _ => simp [Event.leaves, told]
  | resolve _ _ => simp [Event.leaves, told]
  | withdraw _ => simp [Event.leaves, told]
  | failAll _ => simp [Event.leaves, told]
  | wait _ _ => simp [Event.leaves, told]
  | advance _ => simp [Event.leaves, told]

/-! ## One event and one exchange -/

theorem poll_cases (s : Waiting) (t : Ticket) :
    s.poll t = (none, s) ∨
      ∃ w o, w ∈ s.waits ∧ w.ticket = t ∧ w.result? s.registry s.now = some o ∧
        s.poll t = (some o,
          { s with registry := s.registry.giveUp t, waits := s.waits.filter (·.ticket != t) }) := by
  rw [poll]
  cases hw : s.waits.find? fun w => w.ticket == t with
  | none => exact Or.inl rfl
  | some w =>
    cases ho : w.result? s.registry s.now with
    | none =>
      refine Or.inl ?_
      rw [Option.bind_some, ho]
    | some o =>
      refine Or.inr ⟨w, o, List.mem_of_find?_eq_some hw, ?_, ho, ?_⟩
      · simpa using List.find?_some hw
      · rw [Option.bind_some, ho]

/-- What an event makes of the exchange with a ticket. -/
def Event.change (s : Waiting) (t : Ticket) (e : Event) (x : Exchange) : Exchange :=
  match e.verdict? x.session with
  | some o => x.settle o
  | none => if e.leaves s t then x.abandon else x

@[simp] theorem session_change (s : Waiting) (t : Ticket) (e : Event) (x : Exchange) :
    (e.change s t x).session = x.session := by
  unfold Event.change
  split
  · exact Exchange.session_settle _ x
  · split
    · exact Exchange.session_abandon x
    · rfl

/-- A verdict settles an exchange, its holder's leaving abandons it, and nothing
else changes it. -/
theorem exchange_apply {s : Waiting} {t : Ticket} {x : Exchange}
    (h : s.registry.exchanges[t]? = some x) (e : Event) :
    (s.apply e).registry.exchanges[t]? = some (e.change s t x) := by
  have hlt : t < s.registry.exchanges.length := (List.getElem?_eq_some_iff.1 h).1
  cases e with
  | register id =>
    show (s.registry.register id).2.exchanges[t]? = _
    rw [Registry.getElem?_register_of_ne _ _ (Nat.ne_of_lt hlt), h]
    by_cases hid : x.session = id
    · simp [Event.change, Event.verdict?, hid]
    · simp [Event.change, Event.verdict?, hid, Ne.symm hid, Event.leaves, told]
  | resolve id o =>
    show (s.registry.settle id o).exchanges[t]? = _
    rw [Registry.getElem?_settle, h]
    by_cases hid : x.session = id
    · simp [Event.change, Event.verdict?, hid]
    · simp [Event.change, Event.verdict?, hid, Ne.symm hid, Event.leaves, told]
  | withdraw id =>
    show (s.registry.settle id (.error .closed)).exchanges[t]? = _
    rw [Registry.getElem?_settle, h]
    by_cases hid : x.session = id
    · simp [Event.change, Event.verdict?, hid]
    · simp [Event.change, Event.verdict?, hid, Ne.symm hid, Event.leaves, told]
  | failAll f =>
    show (s.registry.failAll f).exchanges[t]? = _
    rw [Registry.getElem?_failAll, h]
    rfl
  | wait t' limit =>
    have hr : (s.apply (.wait t' limit)).registry = s.registry := by
      simp only [apply, wait]
      split <;> rfl
    rw [hr, h]
    rfl
  | poll t' =>
    rcases poll_cases s t' with hp | ⟨w, o, -, -, -, hp⟩
    · simp [apply, hp, h, Event.change, Event.verdict?, leaves_poll]
    · simp [apply, hp, Registry.getElem?_giveUp, h, Event.change, Event.verdict?, leaves_poll]
  | discard t' =>
    show (s.registry.giveUp t').exchanges[t]? = _
    rw [Registry.getElem?_giveUp, h]
    by_cases ht : t' = t <;> simp [Event.change, Event.verdict?, Event.leaves, ht]
  | advance span => exact h

theorem exchange_run {s : Waiting} {t : Ticket} {x : Exchange}
    (h : s.registry.exchanges[t]? = some x) (es : List Event) :
    ∃ x', (s.run es).registry.exchanges[t]? = some x' := by
  induction es generalizing s x with
  | nil => exact ⟨x, h⟩
  | cons e es ih => exact ih (exchange_apply h e)

/-- An event brings at most one new exchange, which is awaited. -/
theorem exchange_new {s : Waiting} {t : Ticket} {e : Event} {x : Exchange}
    (h : s.registry.exchanges[t]? = none) (h' : (s.apply e).registry.exchanges[t]? = some x) :
    t = s.registry.exchanges.length ∧ ∃ id, e = .register id ∧ x = ⟨id, .awaited⟩ := by
  have hle : s.registry.exchanges.length ≤ t := List.getElem?_eq_none_iff.1 h
  have same : (s.apply e).registry.exchanges.length = s.registry.exchanges.length → False := by
    intro hl
    exact absurd (hl ▸ (List.getElem?_eq_some_iff.1 h').1) (Nat.not_lt.2 hle)
  cases e with
  | register id =>
    have hlt : t < s.registry.exchanges.length + 1 :=
      Registry.length_register s.registry id ▸ (List.getElem?_eq_some_iff.1 h').1
    obtain rfl : t = s.registry.exchanges.length := Nat.le_antisymm (Nat.le_of_lt_succ hlt) hle
    refine ⟨rfl, id, rfl, ?_⟩
    have hs : (s.apply (.register id)).registry.exchanges[s.registry.exchanges.length]?
        = some ⟨id, .awaited⟩ := Registry.getElem?_register_self _ _
    exact Option.some.inj (h'.symm.trans hs)
  | resolve id o => exact (same (Registry.length_settle _ _ _)).elim
  | withdraw id => exact (same (Registry.length_settle _ _ _)).elim
  | failAll f =>
    have h0 := Registry.getElem?_failAll s.registry f t
    rw [h] at h0
    exact nomatch h'.symm.trans h0
  | wait t' limit =>
    refine (same ?_).elim
    simp only [apply, wait]
    split <;> rfl
  | poll t' =>
    refine (same ?_).elim
    rcases poll_cases s t' with hp | ⟨w, o, -, -, -, hp⟩ <;> simp [apply, hp]
  | discard t' => exact (same (Registry.length_giveUp _ _)).elim
  | advance span => exact (same rfl).elim

/-! ## What every run keeps -/

/-- The tickets that somebody holds or waits for. -/
def claims (s : Waiting) : List Ticket :=
  s.held ++ s.waits.map Wait.ticket

/-- What every run keeps. -/
structure Kept (s : Waiting) : Prop where
  /-- One exchange at most stands under an id. -/
  ids : s.registry.ids.Nodup
  /-- Nobody holds a ticket twice, or holds it and waits for it. -/
  claims : s.claims.Nodup
  /-- A ticket that is claimed has its exchange, which was not given up. -/
  heeded : ∀ t ∈ s.claims, ∃ x, s.registry.exchanges[t]? = some x ∧
    x.status ≠ .abandoned ∧ x.status ≠ .forgotten

theorem mem_claims {s : Waiting} {t : Ticket} :
    t ∈ s.claims ↔ t ∈ s.held ∨ ∃ w ∈ s.waits, w.ticket = t := by
  rw [claims, List.mem_append, List.mem_map]

theorem kept_nothing : Kept {} :=
  ⟨List.nodup_nil, List.nodup_nil, fun _ h => absurd h List.not_mem_nil⟩

theorem ids_apply {s : Waiting} (h : s.registry.ids.Nodup) (e : Event) :
    (s.apply e).registry.ids.Nodup := by
  cases e with
  | register id =>
    show (s.registry.register id).2.ids.Nodup
    rw [Registry.ids_register]
    refine List.nodup_append.2 ⟨h.filter _, List.nodup_singleton id, ?_⟩
    intro a ha b hb
    rw [List.mem_singleton.1 hb]
    simpa using (List.mem_filter.1 ha).2
  | resolve id o =>
    show (s.registry.settle id o).ids.Nodup
    rw [Registry.ids_settle]
    exact h.filter _
  | withdraw id =>
    show (s.registry.settle id (.error .closed)).ids.Nodup
    rw [Registry.ids_settle]
    exact h.filter _
  | failAll f =>
    show (s.registry.failAll f).ids.Nodup
    rw [Registry.ids_failAll]
    exact List.nodup_nil
  | wait t limit =>
    simp only [apply, wait]
    split <;> exact h
  | poll t =>
    rcases poll_cases s t with hp | ⟨w, o, -, -, -, hp⟩
    · simp only [apply, hp]
      exact h
    · simp only [apply, hp, Registry.ids_giveUp]
      exact h
  | discard t =>
    show (s.registry.giveUp t).ids.Nodup
    rw [Registry.ids_giveUp]
    exact h
  | advance span => exact h

theorem claims_wait (s : Waiting) (t : Ticket) (limit : Duration) :
    (s.wait t limit).claims.Perm s.claims := by
  rw [wait]
  split
  · rename_i ht
    have ht' : t ∈ s.held := by simpa using ht
    rw [claims, List.map_append, ← List.append_assoc]
    exact (List.perm_append_singleton t _).trans ((List.perm_cons_erase ht').append_right _).symm
  · exact List.Perm.refl _

/-- A ticket that is not discarded and whose wait does not end stays claimed, and
only the ticket of a new exchange is claimed newly. -/
theorem mem_claims_apply {s : Waiting} (h : Kept s) {t : Ticket} {e : Event} :
    t ∈ (s.apply e).claims ↔
      t ∈ s.claims ∧ e.leaves s t = false ∨
        t = s.registry.exchanges.length ∧ ∃ id, e = .register id := by
  have hd := List.nodup_append.1 h.claims
  cases e with
  | register id =>
    show t ∈ (s.held ++ [s.registry.exchanges.length]) ++ s.waits.map Wait.ticket ↔ _
    simp only [List.mem_append, List.mem_singleton, Event.leaves, told, claims, Option.isSome_none,
      and_true, Event.register.injEq, exists_eq']
    exact or_right_comm
  | resolve id o => simp [apply, resolve, claims, Event.leaves, told]
  | withdraw id => simp [apply, withdraw, claims, Event.leaves, told]
  | failAll f => simp [apply, failAll, claims, Event.leaves, told]
  | wait t' limit =>
    rw [show s.apply (.wait t' limit) = s.wait t' limit from rfl, (claims_wait s t' limit).mem_iff]
    simp [Event.leaves, told]
  | poll t' =>
    rcases poll_cases s t' with hp | ⟨w, o, hw, hwt, -, hp⟩
    · simp [apply, hp, leaves_poll]
    · have hn : t' ∉ s.held := fun hh => hd.2.2 _ hh _ (List.mem_map.2 ⟨w, hw, hwt⟩) rfl
      simp only [apply, hp, mem_claims, leaves_poll]
      grind
  | discard t' =>
    show t ∈ s.held.erase t' ++ (s.waits.filter (·.ticket != t')).map Wait.ticket ↔ _
    have he : t ∈ s.held.erase t' ↔ t ≠ t' ∧ t ∈ s.held := hd.1.mem_erase_iff
    rw [List.mem_append, he, mem_claims]
    simp only [List.mem_map, List.mem_filter, Event.leaves]
    grind
  | advance span => simp [apply, advance, claims, Event.leaves, told]

theorem nodup_claims_apply {s : Waiting} (h : Kept s) (e : Event) : (s.apply e).claims.Nodup := by
  have hd := List.nodup_append.1 h.claims
  cases e with
  | register id =>
    have hnew : s.registry.exchanges.length ∉ s.claims := by
      intro hm
      obtain ⟨x, hx, -⟩ := h.heeded _ hm
      exact absurd (List.getElem?_eq_some_iff.1 hx).1 (Nat.lt_irrefl _)
    show ((s.held ++ [s.registry.exchanges.length]) ++ s.waits.map Wait.ticket).Nodup
    have hp : ((s.held ++ [s.registry.exchanges.length]) ++ s.waits.map Wait.ticket).Perm
        (s.registry.exchanges.length :: s.claims) :=
      (List.perm_append_singleton _ _).append_right _
    exact hp.nodup_iff.2 (List.nodup_cons.2 ⟨hnew, h.claims⟩)
  | resolve id o => exact h.claims
  | withdraw id => exact h.claims
  | failAll f => exact h.claims
  | wait t limit => exact (claims_wait s t limit).nodup_iff.2 h.claims
  | poll t =>
    rcases poll_cases s t with hp | ⟨w, o, -, -, -, hp⟩
    · simp only [apply, hp]
      exact h.claims
    · simp only [apply, hp]
      exact h.claims.sublist ((List.filter_sublist.map _).append_left _)
  | discard t =>
    exact h.claims.sublist (List.erase_sublist.append (List.filter_sublist.map _))
  | advance span => exact h.claims

theorem kept_apply {s : Waiting} (h : Kept s) (e : Event) : Kept (s.apply e) := by
  refine ⟨ids_apply h.ids e, nodup_claims_apply h e, ?_⟩
  intro t ht
  rcases (mem_claims_apply h).1 ht with ⟨hm, hl⟩ | ⟨rfl, id, rfl⟩
  · obtain ⟨x, hx, hs⟩ := h.heeded t hm
    refine ⟨_, exchange_apply hx e, ?_⟩
    unfold Event.change
    rw [hl]
    rcases x with ⟨id, status⟩
    cases e.verdict? id with
    | none => exact hs
    | some o => cases status <;> simp_all [Exchange.settle]
  · exact ⟨_, Registry.getElem?_register_self _ id, nofun, nofun⟩

theorem kept_run {s : Waiting} (h : Kept s) (es : List Event) : Kept (s.run es) := by
  induction es generalizing s with
  | nil => exact h
  | cons e es ih => exact ih (kept_apply h e)

end Tacacs.Waiting
