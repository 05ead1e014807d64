/-
# `Tacacs.Proofs.Connection.Pace` — how many turns a session takes

A session may be woken as often as you like, but it takes a *turn* only when a move changes
where it stands, and it cannot do so for ever.

*How many turns are left?*  `SessionPhase.turnsLeft` is as many as a session can take before it
registers its next exchange, and every turn uses up one of them.  An exchange gives it as many
as its packet takes (`allowance`): one for every octet, since the stream may take them one by
one, and five more.

    ready → registered → queued → writing → … → flushing → awaiting → ready
          1            1        1        octets          1          1

*How many are there?*  As many as the packets it registers allow, and three more
(`turns_allowed`).
-/
import Tacacs.Proofs.Connection.Record

namespace Tacacs

-- there is another such instance, and which one is found would depend on the imports
instance decEqResult : DecidableEq (Except Failure Response) := decidableEqExcept

deriving instance DecidableEq for Wait

deriving instance DecidableEq for SessionPhase

/-- How many turns a session has at most, if it registers no exchange any more. -/
def SessionPhase.turnsLeft : SessionPhase → Nat
  | .idle => 3
  | .ready _ => 2
  | .registered o => o.octets.length + 6
  | .queued o => o.octets.length + 5
  | .writing _ rest => rest.length + 4
  | .flushing _ => 4
  | .awaiting _ _ => 3
  | .unsent _ _ => 2
  | .finished _ => 1
  | .dropped => 0

/-- How many turns a session is given with the exchanges for these packets. -/
def allowance (os : List Sending) : Nat :=
  (octetsOf os).length + 5 * os.length

theorem allowance_append (os os' : List Sending) :
    allowance (os ++ os') = allowance os + allowance os' := by
  simp only [allowance, octetsOf, List.flatMap_append, List.length_append]
  omega

theorem allowance_le {k : Nat} {os : List Sending} (h : ∀ o ∈ os, o.octets.length ≤ k) :
    allowance os ≤ os.length * (k + 5) := by
  induction os with
  | nil => exact Nat.zero_le _
  | cons o os ih =>
    have ho := h o List.mem_cons_self
    have hos := ih fun o' ho' => h o' (List.mem_cons_of_mem _ ho')
    have hone : allowance [o] = o.octets.length + 5 := by
      simp only [allowance, octetsOf, List.flatMap_singleton, List.length_singleton]
    rw [← List.singleton_append, allowance_append, hone, List.length_append, List.length_singleton,
      Nat.add_mul, Nat.one_mul]
    omega

namespace Connection

/-- The phase that a session comes to with a move that changes where it stands. -/
def turns? (n : Nat) (c : Connection) (m : Move) : Option SessionPhase :=
  if (c.apply m).1.phaseAt n = c.phaseAt n then none else some ((c.apply m).1.phaseAt n)

/-- The phases that a session comes to in a run. -/
def turns (c : Connection) (n : Nat) (ms : List Move) : List SessionPhase :=
  gather (turns? n) c ms

variable {c : Connection} {n : Nat} {s : Session} {o : Sending} {rest : Octets} {m : Move}
  {phase next : SessionPhase}

/-- A session that passes on registers an exchange or has a turn less, unless it stays. -/
theorem turnsLeft_passage {id : SessionId} {r : Registry} (hp : Passage c id phase next r)
    (hnot : ∀ o rest, phase ≠ .writing o rest) : next = phase ∨
      next.turnsLeft + 1 ≤ phase.turnsLeft + allowance (registration phase next).toList := by
  cases hp with
  | stands => exact Or.inl rfl
  | registers _ _ =>
    refine Or.inr (Nat.le_of_eq ?_)
    simp only [SessionPhase.turnsLeft, registration, allowance, octetsOf, Option.toList_some,
      List.flatMap_singleton, List.length_singleton]
    omega
  | writes => exact absurd rfl (hnot _ _)
  | written => exact absurd rfl (hnot _ _)
  | breaks => exact absurd rfl (hnot _ _)
  | _ =>
    refine Or.inr (Nat.le_add_right_of_le ?_)
    simp only [SessionPhase.turnsLeft]
    omega

theorem turnsLeft_wrote {es : List Effect} (hw : Wrote o rest next es) :
    next = .writing o rest ∨ next.turnsLeft + 1 ≤ (SessionPhase.writing o rest).turnsLeft := by
  cases hw with
  | @took octets left hoctets hrest =>
    have htaken : 0 < octets.length := List.length_pos_iff.2 hoctets
    refine Or.inr ?_
    rw [SessionPhase.turnsLeft, hrest, List.length_append]
    split
    · simp only [SessionPhase.turnsLeft]
      omega
    · simp only [SessionPhase.turnsLeft]
      omega
  | broke _ =>
    refine Or.inr ?_
    simp only [SessionPhase.turnsLeft]
    omega
  | waits => exact Or.inl rfl

theorem turnsLeft_move (n : Nat) (c : Connection) (m : Move) :
    (c.apply m).1.phaseAt n = c.phaseAt n ∨ ((c.apply m).1.phaseAt n).turnsLeft + 1
      ≤ (c.phaseAt n).turnsLeft + allowance (registers? n c m).toList := by
  cases hn : c.sessions[n]? with
  | none => exact Or.inl ((phaseAt_new hn m).trans (phaseAt_of_none hn).symm)
  | some s =>
    rw [registers?, phaseAt_of_some hn]
    by_cases hwriting : m = .step (.session n) ∧ ∃ o rest, s.phase = .writing o rest
    · obtain ⟨rfl, o, rest, hphase⟩ := hwriting
      obtain ⟨s', hs', -, hw⟩ := step_writing hn hphase
      rw [phaseAt_of_some hs', hphase]
      exact (turnsLeft_wrote hw).imp_right Nat.le_add_right_of_le
    · obtain ⟨s', hs', -, hturn⟩ := session_apply hn m
      rw [phaseAt_of_some hs']
      generalize s'.phase = next at hturn
      cases hturn with
      | stays _ => exact Or.inl rfl
      | called hidle _ =>
        rw [hidle]
        exact Or.inr (Nat.le_add_right _ _)
      | refused hidle =>
        rw [hidle]
        exact Or.inr (Nat.le_add_right_of_le (Nat.le_succ 2))
      | dropped _ =>
        cases s.phase with
        | dropped => exact Or.inl rfl
        | _ => exact Or.inr (by simp only [SessionPhase.turnsLeft]; omega)
      | passes hp => exact turnsLeft_passage hp fun o rest hs => hwriting ⟨rfl, o, rest, hs⟩

/-- Every turn uses up one of those that are left. -/
theorem turnsLeft_apply (n : Nat) (c : Connection) (m : Move) :
    (turns? n c m).toList.length + ((c.apply m).1.phaseAt n).turnsLeft
      ≤ (c.phaseAt n).turnsLeft + allowance (registers? n c m).toList := by
  unfold turns?
  split
  next hsame =>
    rw [hsame, Option.toList_none, List.length_nil, Nat.zero_add]
    exact Nat.le_add_right _ _
  next hturn =>
    have hless := (turnsLeft_move n c m).resolve_left hturn
    rw [Option.toList_some, List.length_singleton, Nat.add_comm]
    exact hless

/-- **A session takes no more turns than its packets allow.** -/
theorem turns_allowed (n : Nat) (c : Connection) (ms : List Move) :
    (turns c n ms).length + ((c.after ms).phaseAt n).turnsLeft
      ≤ (c.phaseAt n).turnsLeft + allowance (registered c n ms) := by
  induction ms generalizing c with
  | nil => exact Nat.le_of_eq (Nat.zero_add _)
  | cons m ms ih =>
    have hmove := turnsLeft_apply n c m
    have hrest := ih (c.apply m).1
    have hturns : turns c n (m :: ms) = (turns? n c m).toList ++ turns (c.apply m).1 n ms := rfl
    have hregistered : registered c n (m :: ms)
        = (registers? n c m).toList ++ registered (c.apply m).1 n ms := rfl
    have hafter : c.after (m :: ms) = (c.apply m).1.after ms := rfl
    rw [hturns, hregistered, hafter, List.length_append, allowance_append]
    omega

end Connection

end Tacacs
