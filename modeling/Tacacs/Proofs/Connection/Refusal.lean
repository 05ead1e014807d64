/-
# `Tacacs.Proofs.Connection.Refusal` — what becomes of a request on a closed connection

A session that has registered an exchange looks whether the connection is closed
before it writes.  Until it has got past that look it is *not admitted*: it has
still to look, or it has looked in vain and has still to take the exchange back.

On a closed connection such a session has one way to go.  It takes two steps at
most, sends nothing, takes its exchange back and returns that the connection is
closed (`Refused`); and nobody can call it off before that.  The run is followed
by `Refusing`, which counts the session's own steps against those it has left.
-/
import Tacacs.Proofs.Connection.Replies

namespace Tacacs

/-- The exchange of a session that has not got past the look whether the connection
is closed. -/
def SessionPhase.notAdmitted? : SessionPhase → Option Ticket
  | .registered o | .unsent o .closed => some o.ticket
  | _ => none

/-- How many steps a session that is not admitted takes to its end, if the
connection is closed. -/
def SessionPhase.stepsToEnd : SessionPhase → Nat
  | .registered _ => 2
  | .unsent .. => 1
  | _ => 0

/-- The move is a step of this session. -/
def Move.isStepOf (n : Nat) : Move → Bool
  | .step (.session m) => m == n
  | _ => false

namespace Registry

variable {r : Registry} {t : Ticket} {x : Exchange}

/-! ## Exchanges that stand -/

theorem stands_of_settle {id : SessionId} {o : Outcome}
    (hx : (r.settle id o).exchanges[t]? = some x) (hs : x.stands = true) :
    r.exchanges[t]? = some x ∧ x.session ≠ id := by
  rw [getElem?_settle] at hx
  obtain ⟨x₀, hx₀, rfl⟩ := Option.map_eq_some_iff.1 hx
  by_cases hid : x₀.session = id
  · rw [if_pos hid, Exchange.stands_settle] at hs
    cases hs
  · rw [if_neg hid]
    exact ⟨hx₀, hid⟩

theorem stands_of_giveUp {t' : Ticket} (hx : (r.giveUp t').exchanges[t]? = some x)
    (hs : x.stands = true) :
    ∃ x₀, r.exchanges[t]? = some x₀ ∧ x₀.stands = true ∧ x₀.session = x.session := by
  rw [getElem?_giveUp] at hx
  obtain ⟨x₀, hx₀, rfl⟩ := Option.map_eq_some_iff.1 hx
  by_cases ht : t' = t
  · rw [if_pos ht, Exchange.stands_abandon] at hs
    rw [if_pos ht, Exchange.session_abandon]
    exact ⟨x₀, hx₀, hs, rfl⟩
  · rw [if_neg ht] at hs ⊢
    exact ⟨x₀, hx₀, hs, rfl⟩

theorem stands_of_register {id : SessionId} (hx : (r.register id).2.exchanges[t]? = some x)
    (hs : x.stands = true) :
    r.exchanges[t]? = some x ∨ t = r.exchanges.length ∧ x.session = id := by
  by_cases ht : t = r.exchanges.length
  · subst ht
    rw [getElem?_register_self] at hx
    cases hx
    exact Or.inr ⟨rfl, rfl⟩
  · rw [getElem?_register_of_ne _ _ ht, ← getElem?_settle] at hx
    exact Or.inl (stands_of_settle hx hs).1

end Registry

namespace Connection

variable {c : Connection} {m : Move} {n : Nat} {t : Ticket} {s : Session}

theorem stands_passage {id : SessionId} {phase next : SessionPhase} {r : Registry} {x : Exchange}
    (h : Passage c id phase next r) (hx : r.exchanges[t]? = some x) (hs : x.stands = true) :
    (∃ x₀, c.registry.exchanges[t]? = some x₀ ∧ x₀.stands = true ∧ x₀.session = x.session) ∨
      t = c.registry.exchanges.length ∧ x.session = id ∧ next.notAdmitted? = some t := by
  cases h with
  | registers _ _ =>
    rcases Registry.stands_of_register hx hs with hx | ⟨rfl, hid⟩
    · exact Or.inl ⟨x, hx, hs, rfl⟩
    · exact Or.inr ⟨rfl, hid, rfl⟩
  | withdraws => exact Or.inl ⟨x, (Registry.stands_of_settle hx hs).1, hs, rfl⟩
  | fails _ => exact Or.inl (Registry.stands_of_giveUp hx hs)
  | answered _ _ => exact Or.inl (Registry.stands_of_giveUp hx hs)
  | asked _ _ _ => exact Or.inl (Registry.stands_of_giveUp hx hs)
  | _ => exact Or.inl ⟨x, hx, hs, rfl⟩

/-- An exchange that stands after a move stood before, under the same id, or a
session has just registered it and is not admitted yet. -/
theorem stands_apply {x : Exchange} (hx : (c.apply m).1.registry.exchanges[t]? = some x)
    (hs : x.stands = true) :
    (∃ x₀, c.registry.exchanges[t]? = some x₀ ∧ x₀.stands = true ∧ x₀.session = x.session) ∨
      t = c.registry.exchanges.length ∧ ∃ (n : Nat) (s : Session),
        (c.apply m).1.sessions[n]? = some s ∧ s.id = x.session ∧
        s.phase.notAdmitted? = some t := by
  have h := change_apply c m
  generalize (c.apply m).1 = c' at h hx ⊢
  cases h with
  | stays hr => exact Or.inl ⟨x, hr ▸ hx, hs, rfl⟩
  | goesOn hn hstep =>
    rcases stands_passage hstep.passage hx hs with h | ⟨ht, hid, hnext⟩
    · exact Or.inl h
    · obtain ⟨s', hs', hid', rfl⟩ := getElem?_step_self hn hstep
      exact Or.inr ⟨ht, _, s', hs', hid'.trans hid.symm, hnext⟩
  | @routes f _ hr =>
    rcases ofFrame_registry c.config c.registry c.established f with he | ⟨o, he, -⟩
    · exact Or.inl ⟨x, hr.trans he ▸ hx, hs, rfl⟩
    · exact Or.inl ⟨x, (Registry.stands_of_settle (hr.trans he ▸ hx) hs).1, hs, rfl⟩
  | fails hr => exact Or.inl ⟨x, (Registry.stands_of_settle (hr ▸ hx) hs).1, hs, rfl⟩
  | givesUp _ _ _ hr => exact Or.inl (Registry.stands_of_giveUp (hr ▸ hx) hs)

/-- An exchange that does not stand never stands again. -/
theorem gone_apply {x : Exchange} (hx : c.registry.exchanges[t]? = some x) (hs : x.stands = false)
    (m : Move) : ∃ x', (c.apply m).1.registry.exchanges[t]? = some x' ∧ x'.stands = false := by
  obtain ⟨x', hx', -⟩ := extends_apply c m t x hx
  refine ⟨x', hx', Bool.eq_false_iff.2 ?_⟩
  intro hs'
  rcases stands_apply hx' hs' with ⟨x₀, hx₀, hs₀, -⟩ | ⟨ht, -⟩
  · obtain rfl := Option.some.inj (hx.symm.trans hx₀)
    exact nomatch hs.symm.trans hs₀
  · exact absurd (List.getElem?_eq_some_iff.1 hx).1 (ht ▸ Nat.lt_irrefl _)

/-! ## One move -/

theorem notAdmitted_cases {phase : SessionPhase} (h : phase.notAdmitted? = some t) :
    ∃ o, o.ticket = t ∧ (phase = .registered o ∨ phase = .unsent o .closed) := by
  unfold SessionPhase.notAdmitted? at h
  split at h
  · rename_i o
    exact ⟨o, Option.some.inj h, Or.inl rfl⟩
  · rename_i o
    exact ⟨o, Option.some.inj h, Or.inr rfl⟩
  · cases h

theorem canStop_of_notAdmitted (hn : c.sessions[n]? = some s)
    (ht : s.phase.notAdmitted? = some t) : c.canStop (.session n) = false := by
  have hp : c.sessions[n]?.map Session.phase = some s.phase := by rw [hn, Option.map_some]
  obtain ⟨o, -, h | h⟩ := notAdmitted_cases ht
  · simp only [canStop, hp, h]
  · simp only [canStop, hp, h]

theorem step_of_notAdmitted (hn : c.sessions[n]? = some s) (ht : s.phase.notAdmitted? = some t) :
    c.step (.session n) ≠ none := by
  have hstep : c.step (.session n) = c.stepSession n s := by rw [step, hn, Option.bind_some]
  rw [hstep, stepSession]
  obtain ⟨o, -, h | h⟩ := notAdmitted_cases ht
  · rw [h]
    exact Option.some_ne_none _
  · rw [h]
    exact Option.some_ne_none _

theorem isStepOf_iff : m.isStepOf n = true ↔ m = .step (.session n) := by
  cases m with
  | step a =>
    cases a with
    | session k => simp [Move.isStepOf]
    | dispatcher => simp [Move.isStepOf]
    | closing _ => simp [Move.isStepOf]
  | _ => simp [Move.isStepOf]

theorem notAdmitted_passage {id : SessionId} {phase next : SessionPhase} {r : Registry}
    (hc : c.closed = true) (h : Passage c id phase next r) (ht : phase.notAdmitted? = some t) :
    next.notAdmitted? = some t ∧ next.stepsToEnd + 1 = phase.stepsToEnd ∨
      next = .finished (.error .closed) ∧ r = c.registry.settle id (.error .closed) := by
  obtain ⟨o, rfl, rfl | rfl⟩ := notAdmitted_cases ht
  · cases h with
    | refused _ => exact Or.inl ⟨rfl, rfl⟩
    | admitted hopen => exact nomatch hc.symm.trans hopen
  · cases h with
    | withdraws => exact Or.inr ⟨rfl, rfl⟩

/-- What a move makes of a session that is not admitted, on a closed connection: it
stays so and comes one step nearer to its end if the step was its own, or it is
over and what stood under its id is settled. -/
theorem notAdmitted_apply (hc : c.closed = true) (hn : c.sessions[n]? = some s)
    (ht : s.phase.notAdmitted? = some t) (m : Move) :
    ∃ s', (c.apply m).1.sessions[n]? = some s' ∧ s'.id = s.id ∧
      (s'.phase.notAdmitted? = some t ∧
          s'.phase.stepsToEnd + (if m.isStepOf n then 1 else 0) = s.phase.stepsToEnd ∨
        s'.phase = .finished (.error .closed) ∧
          (c.apply m).1.registry = c.registry.settle s.id (.error .closed)) := by
  obtain ⟨s', hs', hid, hturn⟩ := session_apply hn m
  refine ⟨s', hs', hid, ?_⟩
  generalize s'.phase = next at hturn
  generalize (c.apply m).1.registry = r at hturn
  have busy : s.phase ≠ .idle := by
    intro hidle
    rw [hidle] at ht
    cases ht
  cases hturn with
  | stays hwait =>
    have hm : m.isStepOf n = false := by
      refine Bool.eq_false_iff.2 ?_
      intro hm
      exact step_of_notAdmitted hn ht (hwait (isStepOf_iff.1 hm))
    exact Or.inl ⟨ht, by rw [hm]; rfl⟩
  | called hidle _ => exact absurd hidle busy
  | refused hidle => exact absurd hidle busy
  | dropped hstop => exact nomatch (canStop_of_notAdmitted hn ht).symm.trans hstop
  | passes hp =>
    have hm : (Move.step (.session n)).isStepOf n = true := isStepOf_iff.2 rfl
    rw [hm]
    exact notAdmitted_passage hc hp ht

theorem over_apply {result : Except Failure Response} (hn : c.sessions[n]? = some s)
    (hs : s.phase = .finished result ∨ s.phase = .dropped) (m : Move) :
    ∃ s', (c.apply m).1.sessions[n]? = some s' ∧
      (s'.phase = .finished result ∨ s'.phase = .dropped) := by
  obtain ⟨s', hs', -, hturn⟩ := session_apply hn m
  refine ⟨s', hs', ?_⟩
  generalize s'.phase = next at hturn
  have busy : s.phase ≠ .idle := by
    intro hidle
    rw [hidle] at hs
    rcases hs with hs | hs <;> cases hs
  cases hturn with
  | stays _ => exact hs
  | called hidle _ => exact absurd hidle busy
  | refused hidle => exact absurd hidle busy
  | dropped _ => exact Or.inr rfl
  | passes hp =>
    rcases hs with hs | hs
    · exact absurd hs (passage_not_finished hp result)
    · rw [hs] at hp
      cases hp

/-! ## Runs -/

/-- What becomes of a request that is refused: `t` is its exchange, and `ms` is all that
follows. -/
structure Refused (c : Connection) (n : Nat) (t : Ticket) (ms : List Move) : Prop where
  /-- The session sends nothing. -/
  silent : ∀ sooner later octets, ms = sooner ++ .step (.session n) :: later →
    .sent octets ∉ ((c.after sooner).apply (.step (.session n))).2
  /-- It returns nothing but that the connection is closed. -/
  returns : ∀ result, .sessionOver n result ∈ (c.run ms).2 → result = .error .closed
  /-- It does so after two steps of its own at most. -/
  soon : 2 ≤ ms.countP (Move.isStepOf n) → .sessionOver n (.error .closed) ∈ (c.run ms).2
  /-- By then it has taken its exchange back. -/
  gone : .sessionOver n (.error .closed) ∈ (c.run ms).2 →
    ∃ x, (c.after ms).registry.exchanges[t]? = some x ∧ x.stands = false

/-- Where a session that is refused has come to: it is still on its way, with so many
steps of its own behind it, or it is over. -/
inductive Refusing (c : Connection) (n : Nat) (id : SessionId) (t : Ticket) (steps : Nat)
    (ms : List Move) : Prop
  | onItsWay {s : Session} : (c.after ms).sessions[n]? = some s → s.id = id →
      s.phase.notAdmitted? = some t →
      s.phase.stepsToEnd + ms.countP (Move.isStepOf n) = steps →
      (∀ result, .sessionOver n result ∉ (c.run ms).2) → Refusing c n id t steps ms
  | ended {s : Session} {x : Exchange} : (c.after ms).sessions[n]? = some s →
      (s.phase = .finished (.error .closed) ∨ s.phase = .dropped) →
      .sessionOver n (.error .closed) ∈ (c.run ms).2 →
      (∀ result, .sessionOver n result ∈ (c.run ms).2 → result = .error .closed) →
      (c.after ms).registry.exchanges[t]? = some x → x.stands = false → Refusing c n id t steps ms

theorem mem_effects_concat {ms : List Move} {e : Effect} :
    e ∈ (c.run (ms ++ [m])).2 ↔ e ∈ (c.run ms).2 ∨ e ∈ ((c.after ms).apply m).2 := by
  rw [effects_concat, List.mem_append]

/-- A session that is on its way goes on, or comes to its end. -/
theorem refusing_concat_of_onItsWay {ms : List Move} {steps : Nat} {x : Exchange}
    (hc : (c.after ms).closed = true) (hx : (c.after ms).registry.exchanges[t]? = some x)
    (hid : x.session = s.id) (hs : (c.after ms).sessions[n]? = some s)
    (ht : s.phase.notAdmitted? = some t)
    (hcount : s.phase.stepsToEnd + ms.countP (Move.isStepOf n) = steps)
    (hquiet : ∀ result, .sessionOver n result ∉ (c.run ms).2) (m : Move) :
    Refusing c n s.id t steps (ms ++ [m]) := by
  obtain ⟨s', hs', hid', hnext⟩ := notAdmitted_apply hc hs ht m
  have hover := fun result => sessionOver_apply result hs hs'
  rw [← after_concat] at hs'
  rcases hnext with ⟨ht', hsteps⟩ | ⟨hphase, hr⟩
  · refine .onItsWay hs' hid' ht' ?_ ?_
    · rw [List.countP_append, List.countP_singleton]
      omega
    · intro result hm
      rcases mem_effects_concat.1 hm with hm | hm
      · exact hquiet result hm
      · obtain ⟨-, hphase⟩ := (hover result).1 hm
        rw [hphase] at ht'
        cases ht'
  · have hfresh : s.phase ≠ .finished (.error .closed) := by
      intro hphase₀
      rw [hphase₀] at ht
      cases ht
    have hgone : (c.after (ms ++ [m])).registry.exchanges[t]?
        = some (x.settle (.error .closed)) := by
      rw [after_concat, hr, Registry.getElem?_settle, hx, Option.map_some, if_pos hid]
    refine .ended hs' (Or.inl hphase) ?_ ?_ hgone (Exchange.stands_settle _ _)
    · exact mem_effects_concat.2 (Or.inr ((hover _).2 ⟨hfresh, hphase⟩))
    · intro result hm
      rcases mem_effects_concat.1 hm with hm | hm
      · exact absurd hm (hquiet result)
      · exact (SessionPhase.finished.inj (hphase.symm.trans ((hover result).1 hm).2)).symm

theorem refusing_concat_of_ended {ms : List Move} {steps : Nat} {id : SessionId} {x : Exchange}
    (hs : (c.after ms).sessions[n]? = some s)
    (hphase : s.phase = .finished (.error .closed) ∨ s.phase = .dropped)
    (hmem : .sessionOver n (.error .closed) ∈ (c.run ms).2)
    (honly : ∀ result, .sessionOver n result ∈ (c.run ms).2 → result = .error .closed)
    (hx : (c.after ms).registry.exchanges[t]? = some x) (hgone : x.stands = false) (m : Move) :
    Refusing c n id t steps (ms ++ [m]) := by
  obtain ⟨s', hs', hphase'⟩ := over_apply hs hphase m
  obtain ⟨x', hx', hgone'⟩ := gone_apply hx hgone m
  have hover := fun result => sessionOver_apply result hs hs'
  rw [← after_concat] at hs' hx'
  refine .ended hs' hphase' (mem_effects_concat.2 (Or.inl hmem)) ?_ hx' hgone'
  intro result hm
  rcases mem_effects_concat.1 hm with hm | hm
  · exact honly result hm
  · obtain ⟨-, hend⟩ := (hover result).1 hm
    rcases hphase' with hphase' | hphase'
    · exact (SessionPhase.finished.inj (hphase'.symm.trans hend)).symm
    · cases hphase'.symm.trans hend

theorem refusing_run {x : Exchange} (hc : c.closed = true) (hn : c.sessions[n]? = some s)
    (ht : s.phase.notAdmitted? = some t) (hx : c.registry.exchanges[t]? = some x)
    (hid : x.session = s.id) (ms : List Move) :
    Refusing c n s.id t s.phase.stepsToEnd ms := by
  induction ms using List.reverseRecOn with
  | nil => exact .onItsWay hn rfl ht rfl fun _ => List.not_mem_nil
  | append_singleton ms m ih =>
    obtain ⟨x₁, hx₁, hidx₁⟩ := extends_after c ms t x hx
    cases ih with
    | onItsWay hs₁ hid₁ ht₁ hcount hquiet =>
      rw [← hid₁] at hid ⊢
      exact refusing_concat_of_onItsWay (closed_after hc ms) hx₁ (hidx₁.trans hid) hs₁ ht₁ hcount
        hquiet m
    | ended hs₁ hphase hmem honly hx₁ hgone =>
      exact refusing_concat_of_ended hs₁ hphase hmem honly hx₁ hgone m

/-- **A request that is not admitted on a closed connection is refused.** -/
theorem refused_run {x : Exchange} (hc : c.closed = true) (hn : c.sessions[n]? = some s)
    (ht : s.phase.notAdmitted? = some t) (hx : c.registry.exchanges[t]? = some x)
    (hid : x.session = s.id) (ms : List Move) : Refused c n t ms := by
  have follow := refusing_run hc hn ht hx hid
  refine ⟨?_, ?_, ?_, ?_⟩
  · intro sooner later octets _ hsent
    obtain ⟨s', o, rest, hs', hwriting⟩ := sent_apply hsent
    cases follow sooner with
    | onItsWay hs _ ht _ _ =>
      obtain rfl := Option.some.inj (hs'.symm.trans hs)
      rw [hwriting] at ht
      cases ht
    | ended hs hphase _ _ _ _ =>
      obtain rfl := Option.some.inj (hs'.symm.trans hs)
      rcases hphase with hphase | hphase <;> cases hwriting.symm.trans hphase
  · intro result hm
    cases follow ms with
    | onItsWay _ _ _ _ hquiet => exact absurd hm (hquiet result)
    | ended _ _ _ honly _ _ => exact honly result hm
  · intro htwo
    cases follow ms with
    | @onItsWay s' _ _ ht' hcount _ =>
      have hstart : s.phase.stepsToEnd ≤ 2 := by
        obtain ⟨o, -, h | h⟩ := notAdmitted_cases ht
        · exact h ▸ Nat.le_refl 2
        · exact h ▸ Nat.le_succ 1
      have hleft : 0 < s'.phase.stepsToEnd := by
        obtain ⟨o, -, h | h⟩ := notAdmitted_cases ht'
        · exact h ▸ Nat.succ_pos 1
        · exact h ▸ Nat.one_pos
      omega
    | ended _ _ hmem _ _ _ => exact hmem
  · intro hm
    cases follow ms with
    | onItsWay _ _ _ _ hquiet => exact absurd hm (hquiet _)
    | ended _ _ _ _ hx hgone => exact ⟨_, hx, hgone⟩

end Connection

end Tacacs
