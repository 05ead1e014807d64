/-
# `Tacacs.Proofs.Exchange.OneShot` — an exchange has one outcome, and the first event decides it

An exchange that is registered under an id stands until the first event that
touches the id, whatever happens under other ids and whatever those who wait do.
That event is its verdict.  Whoever holds the ticket learns the verdict the first
time they look after it, if they still wait, and learns nothing else ever; or
they have given up before, and then the verdict reaches nobody.

The proof follows an exchange and its ticket through the run.  `tracked_run` says
how the exchange stands after any events, `claimed_run` whether the ticket is
still somebody's, and `awaits_run` which wait it is in.  Together they make of a
look what `answer?` reads off the list of events.  `exchange_origin` goes the
other way and finds the registration an exchange comes from; with it, what the
registry answers to the outside (`contains`, `size`, whether `resolve` reached
anybody) is read off the events alone, too.
-/
import Tacacs.Proofs.Exchange.Events
import Mathlib.Data.List.Induction

namespace Tacacs.Waiting

/-! ## What a look comes to, read by hand -/

/-- The time that passes by an event. -/
def Event.span : Event → Nat
  | .advance span => span.nanoseconds
  | _ => 0

/-- The time that passes by a list of events. -/
def elapsed : List Event → Nat
  | [] => 0
  | e :: es => e.span + elapsed es

/-- The limit of the first wait for a ticket, and the time that has passed since
it began. -/
def patience? (t : Ticket) : List Event → Option (Duration × Nat)
  | [] => none
  | .wait t' limit :: es => if t' = t then some (limit, elapsed es) else patience? t es
  | _ :: es => patience? t es

/-- What one who waits for the exchange with a ticket learns from a look: the
verdict on its id, or else that the time is up, or else nothing. -/
def answer? (id : SessionId) (t : Ticket) (es : List Event) : Option Outcome :=
  (patience? t es).bind fun (limit, span) =>
    (verdict? id es).or (if limit.nanoseconds ≤ span then some (.error (.timeout limit)) else none)

theorem elapsed_concat (es : List Event) (e : Event) :
    elapsed (es ++ [e]) = elapsed es + e.span := by
  induction es with
  | nil => simp [elapsed]
  | cons e' es ih => rw [List.cons_append, elapsed, elapsed, ih, Nat.add_assoc]

theorem now_apply (s : Waiting) (e : Event) : (s.apply e).now = s.now + e.span := by
  cases e with
  | wait t limit =>
    simp only [apply, wait]
    split <;> rfl
  | poll t =>
    rcases poll_cases s t with hp | ⟨w, o, -, -, -, hp⟩ <;> simp [apply, hp, Event.span]
  | register _ => rfl
  | resolve _ _ => rfl
  | withdraw _ => rfl
  | failAll _ => rfl
  | discard _ => rfl
  | advance _ => rfl

theorem patience?_concat_of_some {t : Ticket} {es : List Event} {limit : Duration} {span : Nat}
    (h : patience? t es = some (limit, span)) (e : Event) :
    patience? t (es ++ [e]) = some (limit, span + e.span) := by
  induction es with
  | nil => cases h
  | cons e' es ih =>
    cases e' with
    | wait t' limit' =>
      by_cases ht : t' = t
      · simp only [patience?, ht, if_true, Option.some.injEq, Prod.mk.injEq] at h
        simp [patience?, ht, elapsed_concat, h]
      · simp only [patience?, ht, if_false] at h
        simpa [patience?, ht] using ih h
    | register _ => exact ih h
    | resolve _ _ => exact ih h
    | withdraw _ => exact ih h
    | failAll _ => exact ih h
    | poll _ => exact ih h
    | discard _ => exact ih h
    | advance _ => exact ih h

theorem patience?_concat_of_none {t : Ticket} {es : List Event} (h : patience? t es = none)
    (e : Event) : patience? t (es ++ [e]) = patience? t [e] := by
  induction es with
  | nil => rfl
  | cons e' es ih =>
    cases e' with
    | wait t' limit' =>
      by_cases ht : t' = t
      · simp [patience?, ht] at h
      · simp only [patience?, ht, if_false] at h
        simpa only [List.cons_append, patience?, ht, if_false] using ih h
    | register _ => exact ih h
    | resolve _ _ => exact ih h
    | withdraw _ => exact ih h
    | failAll _ => exact ih h
    | poll _ => exact ih h
    | discard _ => exact ih h
    | advance _ => exact ih h

/-! ## The exchange, followed through a run -/

/-- How an exchange stands that was awaited under an id before these events. -/
structure Tracked (s : Waiting) (t : Ticket) (id : SessionId) (es : List Event) (x : Exchange) :
    Prop where
  session : x.session = id
  awaited : verdict? id es = none → ¬GaveUp s t es → x.status = .awaited
  abandoned : verdict? id es = none → GaveUp s t es → x.status = .abandoned
  settled : ∀ o, verdict? id es = some o → ¬GaveUp s t es → x.status = .settled o
  gone : ∀ o, verdict? id es = some o → GaveUp s t es → x.stands = false

theorem tracked_apply {s : Waiting} {t : Ticket} {id : SessionId} {es : List Event} {x : Exchange}
    (h : Tracked s t id es x) (e : Event) :
    Tracked s t id (es ++ [e]) (e.change (s.run es) t x) := by
  obtain ⟨rfl, hawaited, habandoned, hsettled, hgone⟩ := h
  have quiet : ¬GaveUp s t (es ++ [e]) ↔ ¬GaveUp s t es ∧ e.leaves (s.run es) t = false := by
    rw [gaveUp_concat, not_or, Bool.not_eq_true]
  refine ⟨session_change _ _ _ _, ?_, ?_, ?_, ?_⟩
  · intro hv hg
    rw [verdict?_concat, Option.or_eq_none_iff] at hv
    obtain ⟨hg, hl⟩ := quiet.1 hg
    simp only [Event.change, hv.2, hl]
    exact hawaited hv.1 hg
  · intro hv hg
    rw [verdict?_concat, Option.or_eq_none_iff] at hv
    by_cases hg' : GaveUp s t es
    · have hs := habandoned hv.1 hg'
      rcases x with ⟨id, status⟩
      obtain rfl : status = .abandoned := hs
      simp only [Event.change, hv.2]
      split <;> rfl
    · have hl := (gaveUp_concat.1 hg).resolve_left hg'
      have hs := hawaited hv.1 hg'
      simp only [Event.change, hv.2, hl, if_true, Exchange.abandon, hs]
  · intro o hv hg
    obtain ⟨hg, hl⟩ := quiet.1 hg
    rw [verdict?_concat] at hv
    cases hes : verdict? x.session es with
    | none =>
      rw [hes, Option.none_or] at hv
      simp only [Event.change, hv, Exchange.settle, hawaited hes hg]
    | some o' =>
      obtain rfl : o' = o := by simpa [hes] using hv
      have hs := hsettled o' hes hg
      have hn : x.stands = false := by rw [Exchange.stands, hs]
      unfold Event.change
      split
      · rw [Exchange.settle_of_not_stands hn, hs]
      · rw [hl, if_neg Bool.false_ne_true, hs]
  · intro o hv hg
    rw [verdict?_concat] at hv
    unfold Event.change
    split
    · exact Exchange.stands_settle _ _
    · rename_i he
      have hes : verdict? x.session es = some o := by simpa [he] using hv
      have hn : x.stands = false := by
        by_cases hg' : GaveUp s t es
        · exact hgone o hes hg'
        · rw [Exchange.stands, hsettled o hes hg']
      split
      · rw [Exchange.stands_abandon, hn]
      · exact hn

theorem tracked_run {s : Waiting} {t : Ticket} {id : SessionId}
    (h : s.registry.exchanges[t]? = some ⟨id, .awaited⟩) (es : List Event) :
    ∃ x, (s.run es).registry.exchanges[t]? = some x ∧ Tracked s t id es x := by
  induction es using List.reverseRecOn with
  | nil =>
    have hn : ¬GaveUp s t [] := fun hg => hg.elim List.not_mem_nil fun hn => hn rfl
    refine ⟨_, h, rfl, fun _ _ => rfl, fun _ hg => absurd hg hn, ?_, ?_⟩
    · intro o hv
      cases hv
    · intro o hv
      cases hv
  | append_singleton es e ih =>
    obtain ⟨x, hx, ht⟩ := ih
    refine ⟨_, ?_, tracked_apply ht e⟩
    rw [run_concat]
    exact exchange_apply hx e

/-- An exchange is awaited as long as there is no verdict and nobody gave it up. -/
theorem awaited_iff {s : Waiting} {t : Ticket} {id : SessionId} {es : List Event} {x : Exchange}
    (h : Tracked s t id es x) :
    x.status = .awaited ↔ verdict? id es = none ∧ ¬GaveUp s t es := by
  refine ⟨?_, fun hn => h.awaited hn.1 hn.2⟩
  intro hx
  have hs : x.stands = true := by rw [Exchange.stands, hx]
  cases hv : verdict? id es with
  | none =>
    refine ⟨rfl, ?_⟩
    intro hg
    exact nomatch hx.symm.trans (h.abandoned hv hg)
  | some o =>
    by_cases hg : GaveUp s t es
    · exact nomatch hs.symm.trans (h.gone o hv hg)
    · exact nomatch hx.symm.trans (h.settled o hv hg)

theorem exchange_origin {es : List Event} {t : Ticket} {x : Exchange}
    (h : (run {} es).registry.exchanges[t]? = some x) :
    ∃ before later, es = before ++ .register x.session :: later ∧
      t = (run {} before).registry.exchanges.length := by
  induction es using List.reverseRecOn generalizing x with
  | nil => exact nomatch h
  | append_singleton es e ih =>
    rw [run_concat] at h
    cases hx : (run {} es).registry.exchanges[t]? with
    | none =>
      obtain ⟨ht, id, rfl, rfl⟩ := exchange_new hx h
      exact ⟨es, [], rfl, ht⟩
    | some x' =>
      rw [exchange_apply hx e] at h
      obtain rfl := Option.some.inj h
      obtain ⟨before, later, rfl, ht⟩ := ih hx
      refine ⟨before, later ++ [e], ?_, ht⟩
      rw [session_change, List.append_assoc]
      rfl

/-! ## The ticket, followed through a run -/

theorem claimed_run {s : Waiting} (hk : Kept s) {t : Ticket} (ht : t ∈ s.claims)
    (es : List Event) : t ∈ (s.run es).claims ↔ ¬GaveUp s t es := by
  obtain ⟨x, hx, -⟩ := hk.heeded t ht
  induction es using List.reverseRecOn with
  | nil =>
    refine ⟨?_, fun _ => ht⟩
    intro _ hg
    exact hg.elim List.not_mem_nil fun hn => hn rfl
  | append_singleton es e ih =>
    have hne : t ≠ (s.run es).registry.exchanges.length := by
      obtain ⟨x', hx'⟩ := exchange_run hx es
      exact Nat.ne_of_lt (List.getElem?_eq_some_iff.1 hx').1
    rw [run_concat, mem_claims_apply (kept_run hk es), ih, gaveUp_concat, not_or, Bool.not_eq_true]
    exact or_iff_left fun h => hne h.1

/-- In which wait a ticket is that nobody gave up. -/
def Awaits (s : Waiting) (t : Ticket) : Option (Duration × Nat) → Prop
  | none => t ∈ s.held
  | some (limit, span) => ∃ w ∈ s.waits, w.ticket = t ∧ w.limit = limit ∧
      w.deadline + span = s.now + limit.nanoseconds

theorem awaits_apply_of_held {s : Waiting} {t : Ticket} {e : Event} (hl : e.leaves s t = false)
    (h : t ∈ s.held) : Awaits (s.apply e) t (patience? t [e]) := by
  cases e with
  | register id => exact List.mem_append_left _ h
  | wait t' limit =>
    by_cases ht : t' = t
    · subst ht
      have hs : s.apply (.wait t' limit) = { s with
          held := s.held.erase t', waits := s.waits ++ [⟨t', limit, s.now.later limit⟩] } := by
        simp [apply, wait, h]
      rw [patience?, if_pos rfl, hs]
      exact ⟨_, List.mem_append_right _ (List.mem_singleton.2 rfl), rfl, rfl, rfl⟩
    · rw [patience?, if_neg ht]
      show t ∈ (s.wait t' limit).held
      rw [wait]
      split
      · exact (List.mem_erase_of_ne (Ne.symm ht)).2 h
      · exact h
  | poll t' =>
    show t ∈ (s.poll t').2.held
    rcases poll_cases s t' with hp | ⟨w, o, -, -, -, hp⟩
    · rw [hp]
      exact h
    · rw [hp]
      exact h
  | discard t' =>
    have ht : t' ≠ t := by simpa [Event.leaves] using hl
    exact (List.mem_erase_of_ne ht.symm).2 h
  | resolve _ _ => exact h
  | withdraw _ => exact h
  | failAll _ => exact h
  | advance _ => exact h

theorem awaits_apply_of_wait {s : Waiting} {t : Ticket} {e : Event} (hl : e.leaves s t = false)
    {limit : Duration} {span : Nat} (h : Awaits s t (some (limit, span))) :
    Awaits (s.apply e) t (some (limit, span + e.span)) := by
  obtain ⟨w, hw, rfl, rfl, hd⟩ := h
  refine ⟨w, ?_, rfl, rfl, ?_⟩
  · cases e with
    | wait t' limit =>
      show w ∈ (s.wait t' limit).waits
      rw [wait]
      split
      · exact List.mem_append_left _ hw
      · exact hw
    | poll t' =>
      show w ∈ (s.poll t').2.waits
      rw [leaves_poll] at hl
      rcases poll_cases s t' with hp | ⟨w', o, -, -, -, hp⟩
      · rw [hp]
        exact hw
      · rw [hp] at hl ⊢
        have ht : t' ≠ w.ticket := by simpa using hl
        exact List.mem_filter.2 ⟨hw, by simpa using ht.symm⟩
    | discard t' =>
      have ht : t' ≠ w.ticket := by simpa [Event.leaves] using hl
      exact List.mem_filter.2 ⟨hw, by simpa using ht.symm⟩
    | register _ => exact hw
    | resolve _ _ => exact hw
    | withdraw _ => exact hw
    | failAll _ => exact hw
    | advance _ => exact hw
  · rw [now_apply, ← Nat.add_assoc, hd]
    exact Nat.add_right_comm _ _ _

theorem awaits_run {s : Waiting} {t : Ticket} (ht : t ∈ s.held) {es : List Event}
    (hg : ¬GaveUp s t es) : Awaits (s.run es) t (patience? t es) := by
  induction es using List.reverseRecOn with
  | nil => exact ht
  | append_singleton es e ih =>
    rw [gaveUp_concat, not_or, Bool.not_eq_true] at hg
    have h := ih hg.1
    rw [run_concat]
    cases hp : patience? t es with
    | none =>
      rw [hp] at h
      rw [patience?_concat_of_none hp]
      exact awaits_apply_of_held hg.2 h
    | some p =>
      rcases p with ⟨limit, span⟩
      rw [hp] at h
      rw [patience?_concat_of_some hp]
      exact awaits_apply_of_wait hg.2 h

/-! ## What the holder of a ticket learns -/

theorem find?_wait {ws : List Wait} (h : (ws.map Wait.ticket).Nodup) {w : Wait} (hw : w ∈ ws) :
    (ws.find? fun w' => w'.ticket == w.ticket) = some w := by
  induction ws with
  | nil => exact absurd hw List.not_mem_nil
  | cons w' ws ih =>
    rw [List.map_cons, List.nodup_cons] at h
    rcases List.mem_cons.1 hw with rfl | hw
    · exact List.find?_cons_of_pos (beq_self_eq_true _)
    · have hne : w'.ticket ≠ w.ticket := fun he => h.1 (he ▸ List.mem_map_of_mem hw)
      rw [List.find?_cons_of_neg (by simpa using hne)]
      exact ih h.2 hw

theorem poll_of_held {s : Waiting} (h : s.claims.Nodup) {t : Ticket} (ht : t ∈ s.held) :
    (s.poll t).1 = none := by
  rcases poll_cases s t with hp | ⟨w, o, hw, hwt, -, -⟩
  · rw [hp]
  · exact absurd rfl ((List.nodup_append.1 h).2.2 t ht t (List.mem_map.2 ⟨w, hw, hwt⟩))

theorem poll_of_not_claimed {s : Waiting} {t : Ticket} (ht : t ∉ s.claims) :
    (s.poll t).1 = none := by
  rcases poll_cases s t with hp | ⟨w, o, hw, hwt, -, -⟩
  · rw [hp]
  · exact absurd (mem_claims.2 (Or.inr ⟨w, hw, hwt⟩)) ht

/-- Who has not given up learns from a look what the events say. -/
theorem poll_run {s : Waiting} (hk : Kept s) {t : Ticket} {id : SessionId} (ht : t ∈ s.held)
    (hx : s.registry.exchanges[t]? = some ⟨id, .awaited⟩) {es : List Event}
    (hg : ¬GaveUp s t es) : ((s.run es).poll t).1 = answer? id t es := by
  have hn := (kept_run hk es).claims
  have ha := awaits_run ht hg
  rw [answer?]
  cases hp : patience? t es with
  | none =>
    rw [hp] at ha
    exact poll_of_held hn ha
  | some p =>
    rcases p with ⟨limit, span⟩
    rw [hp] at ha
    obtain ⟨w, hw, rfl, rfl, hd⟩ := ha
    have hr : ((s.run es).poll w.ticket).1 = w.result? (s.run es).registry (s.run es).now := by
      rw [poll, find?_wait (List.nodup_append.1 hn).2.1 hw, Option.bind_some]
      cases w.result? (s.run es).registry (s.run es).now <;> rfl
    have hle : w.deadline ≤ (s.run es).now ↔ w.limit.nanoseconds ≤ span :=
      ⟨fun h => Nat.le_of_add_le_add_left (hd ▸ Nat.add_le_add_right h span),
        fun h => Nat.le_of_add_le_add_right (hd ▸ Nat.add_le_add_left h (s.run es).now)⟩
    obtain ⟨x, hx', hx⟩ := tracked_run hx es
    rcases x with ⟨id', status⟩
    rw [hr, Wait.result?, Registry.outcome?, hx', Option.bind_some]
    cases hv : verdict? id es with
    | some o =>
      obtain rfl : status = .settled o := hx.settled o hv hg
      rfl
    | none =>
      obtain rfl : status = .awaited := hx.awaited hv hg
      exact if_congr hle rfl rfl

/-- Whoever has given up learns nothing more, and nobody learns anything but by a
look of their own. -/
theorem told_run_of_gaveUp {s : Waiting} (hk : Kept s) {t : Ticket} (ht : t ∈ s.claims)
    {es : List Event} (hg : GaveUp s t es) (e : Event) : (s.run es).told t e = none := by
  have hn : t ∉ (s.run es).claims := fun h => (claimed_run hk ht es).1 h hg
  cases e with
  | poll t' =>
    rw [told]
    split
    · rename_i ht'
      subst ht'
      exact poll_of_not_claimed hn
    · rfl
  | register _ => rfl
  | resolve _ _ => rfl
  | withdraw _ => rfl
  | failAll _ => rfl
  | wait _ _ => rfl
  | discard _ => rfl
  | advance _ => rfl

theorem outcomes_length_le_one {s : Waiting} (hk : Kept s) {t : Ticket} (ht : t ∈ s.claims)
    (es : List Event) : (s.outcomes t es).length ≤ 1 := by
  induction es using List.reverseRecOn with
  | nil => exact Nat.zero_le 1
  | append_singleton es e ih =>
    rw [outcomes_concat]
    by_cases ho : s.outcomes t es = []
    · rw [ho, List.nil_append]
      exact Option.length_toList_le
    · rw [told_run_of_gaveUp hk ht (Or.inr ho), Option.toList_none, List.append_nil]
      exact ih

/-! ## What becomes of an exchange -/

/-- What becomes of the exchange that has just been registered under an id with
this ticket, when these events follow. -/
structure OneShot (s : Waiting) (t : Ticket) (id : SessionId) (es : List Event) : Prop where
  /-- The holder of the ticket learns one outcome at most. -/
  once : (s.outcomes t es).length ≤ 1
  /-- Who has not given up learns from a look what the events say: the first verdict
  on the id, or that the time is up. -/
  looks : ∀ sooner rest, es = sooner ++ .poll t :: rest → ¬GaveUp s t sooner →
    (s.run sooner).told t (.poll t) = answer? id t sooner
  /-- Nothing is learnt but by a look, and nothing after giving up. -/
  silent : ∀ sooner e rest, es = sooner ++ e :: rest → e ≠ .poll t ∨ GaveUp s t sooner →
    (s.run sooner).told t e = none
  /-- The verdict on the id reaches no other exchange, heeded or not. -/
  apart : ∀ sooner e rest, es = sooner ++ e :: rest → verdict? id sooner = none →
    e.verdict? id ≠ none → (∀ id', id' ≠ id → e.verdict? id' = none) →
    ∀ t' x, t' ≠ t → (s.run sooner).registry.exchanges[t']? = some x →
      ((s.run sooner).apply e).registry.exchanges[t']? = some x

theorem not_leaves_of_verdict {id : SessionId} {e : Event} (h : e.verdict? id ≠ none)
    (s : Waiting) (t : Ticket) : e.leaves s t = false := by
  cases e with
  | register _ => rfl
  | resolve _ _ => rfl
  | withdraw _ => rfl
  | failAll _ => rfl
  | wait _ _ => exact absurd rfl h
  | poll _ => exact absurd rfl h
  | discard _ => exact absurd rfl h
  | advance _ => exact absurd rfl h

theorem told_of_ne_poll {t : Ticket} {e : Event} (h : e ≠ .poll t) (s : Waiting) :
    s.told t e = none := by
  cases e with
  | poll t' => exact if_neg fun ht => h (congrArg Event.poll ht)
  | register _ => rfl
  | resolve _ _ => rfl
  | withdraw _ => rfl
  | failAll _ => rfl
  | wait _ _ => rfl
  | discard _ => rfl
  | advance _ => rfl

/-- What touches one id only, and there finds an exchange that stands, leaves all
others as they are. -/
theorem exchange_apply_of_ne {s : Waiting} (hk : Kept s) {t t' : Ticket} {x x' : Exchange}
    {e : Event} (hx : s.registry.exchanges[t]? = some x) (hs : x.stands = true)
    (he : e.verdict? x.session ≠ none) (hother : ∀ id', id' ≠ x.session → e.verdict? id' = none)
    (hx' : s.registry.exchanges[t']? = some x') (ht : t' ≠ t) :
    (s.apply e).registry.exchanges[t']? = some x' := by
  rw [exchange_apply hx', Event.change]
  by_cases hid : x'.session = x.session
  · have hn : x'.stands = false := by
      refine Bool.eq_false_iff.2 fun hs' => ht ?_
      exact Registry.eq_of_stands hk.ids hx' hx hs' hs hid
    obtain ⟨o, ho⟩ := Option.ne_none_iff_exists'.1 he
    rw [hid, ho]
    exact congrArg some (Exchange.settle_of_not_stands hn o)
  · rw [hother _ hid, not_leaves_of_verdict he]
    rfl

theorem oneShot {s : Waiting} (hk : Kept s) {t : Ticket} {id : SessionId} (ht : t ∈ s.held)
    (hx : s.registry.exchanges[t]? = some ⟨id, .awaited⟩) (es : List Event) :
    OneShot s t id es := by
  have hc : t ∈ s.claims := mem_claims.2 (Or.inl ht)
  refine ⟨outcomes_length_le_one hk hc es, ?_, ?_, ?_⟩
  · intro sooner rest _ hg
    exact (if_pos rfl).trans (poll_run hk ht hx hg)
  · intro sooner e rest _ h
    rcases h with h | h
    · exact told_of_ne_poll h _
    · exact told_run_of_gaveUp hk hc h e
  · intro sooner e rest _ hv he hother t' x' hne hx'
    obtain ⟨x, hx₁, htr⟩ := tracked_run hx sooner
    have hs : x.stands = true := by
      by_cases hg : GaveUp s t sooner
      · rw [Exchange.stands, htr.abandoned hv hg]
      · rw [Exchange.stands, htr.awaited hv hg]
    obtain rfl := htr.session
    exact exchange_apply_of_ne (kept_run hk sooner) hx₁ hs he hother hx' hne

/-! ## What the registry answers -/

/-- An exchange stands under the id, and its holder has not given up. -/
def Heeded (id : SessionId) (es : List Event) : Prop :=
  ∃ before later, es = before ++ .register id :: later ∧ verdict? id later = none ∧
    ¬GaveUp ((run {} before).register id).2 ((run {} before).register id).1 later

theorem exchange_register (s : Waiting) (id : SessionId) :
    (s.register id).2.registry.exchanges[(s.register id).1]? = some ⟨id, .awaited⟩ :=
  Registry.getElem?_register_self s.registry id

theorem run_register (before later : List Event) (id : SessionId) :
    run {} (before ++ .register id :: later) = ((run {} before).register id).2.run later :=
  run_append {} before (.register id :: later)

theorem mem_ids_apply {s : Waiting} {e : Event} {id : SessionId} :
    id ∈ (s.apply e).registry.ids ↔
      e = .register id ∨ e.verdict? id = none ∧ id ∈ s.registry.ids := by
  cases e with
  | register id' =>
    show id ∈ (s.registry.register id').2.ids ↔ _
    rw [Registry.ids_register]
    by_cases h : id' = id
    · simp [h]
    · simp [h, Ne.symm h, Event.verdict?]
  | resolve id' o =>
    show id ∈ (s.registry.settle id' o).ids ↔ _
    rw [Registry.ids_settle]
    by_cases h : id' = id
    · simp [h, Event.verdict?]
    · simp [h, Ne.symm h, Event.verdict?]
  | withdraw id' =>
    show id ∈ (s.registry.settle id' (.error .closed)).ids ↔ _
    rw [Registry.ids_settle]
    by_cases h : id' = id
    · simp [h, Event.verdict?]
    · simp [h, Ne.symm h, Event.verdict?]
  | failAll f =>
    show id ∈ (s.registry.failAll f).ids ↔ _
    rw [Registry.ids_failAll]
    simp [Event.verdict?]
  | wait t limit =>
    have hr : (s.apply (.wait t limit)).registry = s.registry := by
      simp only [apply, wait]
      split <;> rfl
    rw [hr]
    simp [Event.verdict?]
  | poll t =>
    have hr : (s.apply (.poll t)).registry.ids = s.registry.ids := by
      rcases poll_cases s t with hp | ⟨w, o, -, -, -, hp⟩
      · simp [apply, hp]
      · simp [apply, hp, Registry.ids_giveUp]
    rw [hr]
    simp [Event.verdict?]
  | discard t =>
    show id ∈ (s.registry.giveUp t).ids ↔ _
    rw [Registry.ids_giveUp]
    simp [Event.verdict?]
  | advance span => simp [apply, advance, Event.verdict?]

theorem mem_ids_run {es : List Event} {id : SessionId} :
    id ∈ (run {} es).registry.ids ↔ Stands id es := by
  induction es using List.reverseRecOn with
  | nil => exact ⟨fun h => absurd h List.not_mem_nil, fun h => absurd h (not_stands_nil id)⟩
  | append_singleton es e ih => rw [run_concat, mem_ids_apply, ih, stands_concat]

theorem awaited?_isSome {r : Registry} {id : SessionId} :
    (r.awaited? id).isSome = true ↔ ∃ t : Ticket, r.exchanges[t]? = some ⟨id, .awaited⟩ := by
  rw [Registry.awaited?, List.findIdx?_isSome, List.any_eq_true]
  constructor
  · rintro ⟨⟨id', status⟩, hx, h⟩
    rw [Bool.and_eq_true, beq_iff_eq] at h
    obtain ⟨rfl, h⟩ := h
    obtain rfl : status = .awaited := by
      cases status with
      | awaited => rfl
      | abandoned => exact Bool.noConfusion h
      | settled _ => exact Bool.noConfusion h
      | forgotten => exact Bool.noConfusion h
    exact List.mem_iff_getElem?.1 hx
  · rintro ⟨t, hx⟩
    exact ⟨_, List.mem_of_getElem? hx, by simp [Exchange.isAwaited]⟩

/-- What `resolve` says is what the events say. -/
theorem resolve_reaches {es : List Event} {id : SessionId} {o : Outcome} :
    ((run {} es).resolve id o).1 = true ↔ Heeded id es := by
  show ((run {} es).registry.awaited? id).isSome = true ↔ _
  rw [awaited?_isSome]
  constructor
  · rintro ⟨t, hx⟩
    obtain ⟨before, later, rfl, rfl⟩ := exchange_origin hx
    refine ⟨before, later, rfl, ?_⟩
    rw [run_register] at hx
    have hnew := exchange_register (run {} before) id
    obtain ⟨x, hx', htr⟩ := tracked_run hnew later
    obtain rfl := Option.some.inj (hx.symm.trans hx')
    exact (awaited_iff htr).1 rfl
  · rintro ⟨before, later, rfl, hv, hg⟩
    have hnew := exchange_register (run {} before) id
    obtain ⟨⟨id', status⟩, hx, htr⟩ := tracked_run hnew later
    obtain rfl : id' = id := htr.session
    obtain rfl : status = .awaited := (awaited_iff htr).2 ⟨hv, hg⟩
    rw [run_register]
    exact ⟨_, hx⟩

/-- **The registry is one-shot.**  Whatever happens before a registration and
after it, its exchange has one outcome, which the first event on its id decides.
`resolve` reaches somebody exactly if an exchange stands whose holder has not
given up.  The ids under which exchanges stand are exactly those that were last
touched by a registration, and there are as many exchanges as ids. -/
theorem registry_one_shot :
    (∀ before id later,
      OneShot ((run {} before).register id).2 ((run {} before).register id).1 id later) ∧
    (∀ es id o, ((run {} es).resolve id o).1 = true ↔ Heeded id es) ∧
    (∀ es id, (run {} es).registry.contains id = true ↔ Stands id es) ∧
    ∀ es, ∃ ids : List SessionId, ids.Nodup ∧ (∀ id, id ∈ ids ↔ Stands id es) ∧
      (run {} es).registry.size = ids.length := by
  refine ⟨?_, fun es id o => resolve_reaches, ?_, ?_⟩
  · intro before id later
    refine oneShot (kept_apply (kept_run kept_nothing before) (.register id)) ?_ ?_ later
    · exact List.mem_append_right _ (List.mem_singleton.2 rfl)
    · exact exchange_register _ id
  · intro es id
    rw [Registry.contains_iff_mem_ids, mem_ids_run]
  · intro es
    refine ⟨_, (kept_run kept_nothing es).ids, fun id => mem_ids_run, ?_⟩
    exact Registry.size_eq_length_ids _

/-- What comes after the time is up reaches nobody. -/
example : outcomes {} 0 [.register 7, .wait 0 ⟨5⟩, .advance ⟨5⟩, .poll 0, .withdraw 7, .poll 0]
    = [.error (.timeout ⟨5⟩)] := by
  decide

end Tacacs.Waiting
