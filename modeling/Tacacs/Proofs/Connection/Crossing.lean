/-
# `Tacacs.Proofs.Connection.Crossing` — where sessions get in each other's way

Replies go by the id of a session and by nothing else, so all depends on ids being distinct.
A session gets its id when it is opened.  It is free then: nothing stands under it
(`freshId_free`).  But it is not taken either, before the session registers its first exchange,
and between two exchanges it is free again.  Another session may be opened under the same id
meanwhile, and when both are called they collide (`Collides`):

    opened      7         7
    called      registers 7
                awaits    registers 7: the exchange of the other is replaced
                          a reply to 7 is taken for its own

`crossings` says when an exchange is replaced: exactly by a collision, and a session that
returns so was in one (`replaced_iff`, `told_of_collision`).  Whoever replaces an exchange was
opened before it was registered (`collides_young`).

A reply can go astray without a collision.  When flushing fails behind a packet that is out, the
exchange is taken back and the id is free again; the answer then goes to whoever registers under
this id next.  Where sessions that were called have distinct ids, nobody registers an exchange
where one stands (`free_of_distinct`) and no id is used twice, so all are kept apart
(`KeptApart`).
-/
import Tacacs.Proofs.Connection.Outcomes
import Mathlib.Data.List.Nodup
import Mathlib.Data.List.Perm.Subperm

namespace Tacacs

/-- The session was called. -/
def SessionPhase.wasCalled : SessionPhase → Bool
  | .idle => false
  | _ => true

theorem SessionPhase.wasCalled_iff {phase : SessionPhase} :
    phase.wasCalled = true ↔ phase ≠ .idle := by
  cases phase <;> simp [wasCalled]

namespace Registry

variable {r : Registry} {id id' : SessionId} {t t' : Ticket} {o : Outcome}

/-! ## What is awaited -/

theorem awaited_of_settle (h : (r.settle id' o).exchanges[t]? = some ⟨id, .awaited⟩) :
    r.exchanges[t]? = some ⟨id, .awaited⟩ ∧ id ≠ id' := by
  rw [getElem?_settle] at h
  obtain ⟨⟨i, status⟩, hx, he⟩ := Option.map_eq_some_iff.1 h
  by_cases hi : i = id'
  · rw [if_pos hi] at he
    cases status <;> cases he
  · rw [if_neg hi] at he
    cases he
    exact ⟨hx, hi⟩

theorem awaited_of_giveUp (h : (r.giveUp t').exchanges[t]? = some ⟨id, .awaited⟩) :
    r.exchanges[t]? = some ⟨id, .awaited⟩ ∧ t' ≠ t := by
  rw [getElem?_giveUp] at h
  obtain ⟨⟨i, status⟩, hx, he⟩ := Option.map_eq_some_iff.1 h
  by_cases ht : t' = t
  · rw [if_pos ht] at he
    cases status <;> cases he
  · rw [if_neg ht] at he
    cases he
    exact ⟨hx, ht⟩

theorem awaited_of_register (h : (r.register id').2.exchanges[t]? = some ⟨id, .awaited⟩) :
    r.exchanges[t]? = some ⟨id, .awaited⟩ ∨ t = r.exchanges.length ∧ id' = id := by
  by_cases ht : t = r.exchanges.length
  · subst ht
    rw [getElem?_register_self] at h
    cases h
    exact .inr ⟨rfl, rfl⟩
  · rw [getElem?_register_of_ne _ _ ht, ← getElem?_settle] at h
    exact .inl (awaited_of_settle h).1

/-! ## Free ids -/

theorem size_lt_of_free (hr : r.ids.Nodup) (hfree : r.contains id = false) :
    r.size < 0x100000000 := by
  have hnot : id ∉ r.ids := by
    intro hmem
    rw [contains_iff_mem_ids.2 hmem] at hfree
    cases hfree
  have hnodup : ((id :: r.ids).map UInt32.toNat).Nodup := by
    refine List.Nodup.map ?_ (List.nodup_cons.2 ⟨hnot, hr⟩)
    intro a b hab
    exact UInt32.toNat_inj.1 hab
  have hsub : (id :: r.ids).map UInt32.toNat ⊆ List.range 0x100000000 := by
    intro x hx
    obtain ⟨a, -, rfl⟩ := List.mem_map.1 hx
    exact List.mem_range.2 a.toNat_lt
  have hle := (List.subperm_of_subset hnodup hsub).length_le
  rw [List.length_map, List.length_cons, List.length_range, ← size_eq_length_ids] at hle
  exact hle

end Registry

namespace Connection

variable {c : Connection} {m : Move} {ms before later : List Move} {n k : Nat} {s s' : Session}
  {o : Sending} {q : Packet} {id : SessionId} {t : Ticket}

theorem following_nodup (last : SessionId) {size : Nat} (h : size < 0x100000000) :
    ((List.range (size + 1)).map fun i => last + UInt32.ofNat (i + 1)).Nodup := by
  refine List.Nodup.map_on ?_ List.nodup_range
  intro i hi j hj hij
  have hlt := List.mem_range.1 hi
  have hlt' := List.mem_range.1 hj
  have hsame := congrArg UInt32.toNat ((UInt32.add_right_inj last).1 hij)
  simp only [UInt32.toNat_ofNat'] at hsame
  omega

/-- **A session that is opened gets an id under which nothing stands**, if there is one. -/
theorem freshId_free (candidates : List SessionId) (hr : c.registry.ids.Nodup)
    (hfree : c.registry.contains id = false) :
    c.registry.contains (c.freshId candidates) = false := by
  have hsize := Registry.size_lt_of_free hr hfree
  simp only [freshId]
  generalize candidates.getLast?.getD c.lastId = last
  generalize hmore : (List.range (c.registry.size + 1)).map (fun i => last + UInt32.ofNat (i + 1))
    = more
  cases hfind : (candidates ++ more).find? fun id => !c.registry.contains id with
  | some id' => simpa using List.find?_some hfind
  | none =>
    -- more ids were tried than there are exchanges that stand
    have hsub : more ⊆ c.registry.ids := by
      intro id' hid'
      have htaken := List.find?_eq_none.1 hfind id' (List.mem_append_right _ hid')
      exact Registry.contains_iff_mem_ids.1 (by simpa using htaken)
    have hle := (List.subperm_of_subset (hmore ▸ following_nodup last hsize) hsub).length_le
    rw [← hmore, List.length_map, List.length_range, Registry.size_eq_length_ids] at hle
    exact absurd hle (Nat.not_succ_le_self _)

/-! ## Who awaits -/

/-- What is awaited after a move was so before, or it was just registered. -/
theorem awaited_apply (h : (c.apply m).1.registry.exchanges[t]? = some ⟨id, .awaited⟩) :
    c.registry.exchanges[t]? = some ⟨id, .awaited⟩ ∨
      ∃ n s o, c.sessions[n]? = some s ∧ s.id = id ∧ registers? n c m = some o ∧ o.ticket = t := by
  cases shift_apply c m with
  | stays _ _ hr =>
    rcases hr with hr | ⟨t', hr⟩
    · exact .inl (hr ▸ h)
    · exact .inl (Registry.awaited_of_giveUp (hr ▸ h)).1
  | settles _ _ hr => exact .inl (Registry.awaited_of_settle (hr ▸ h)).1
  | @registers n s o _ hn ho hticket hr =>
    rcases Registry.awaited_of_register (hr ▸ h) with h | ⟨rfl, rfl⟩
    · exact .inl h
    · exact .inr ⟨n, s, o, hn, rfl, ho, hticket⟩

theorem registry_drop (hn : c.sessions[n]? = some s) (ht : s.phase.ticket? = some t)
    (hstop : c.canStop (.session n) = true) :
    (c.apply (.drop (.session n))).1.registry = c.registry.giveUp t := by
  have hstarted : c.started (.session n) = true := by
    simp only [started, hn, Option.map_some]
    cases hs : s.phase with
    | idle =>
      rw [hs] at ht
      cases ht
    | dropped =>
      rw [hs] at ht
      cases ht
    | _ => rfl
  obtain ⟨writer, line, es, he, -⟩ := leaveWriter_eq
    (({ c with registry := c.registry.giveUp t }).setPhase n .dropped) (.session n)
  show (c.dropAgent (.session n)).1.registry = _
  unfold dropAgent
  rw [hstarted, hstop, if_neg (by decide)]
  simp only [hn, Option.map_some, Option.bind_some, ht, Option.elim, he]
  rfl

theorem inFlight?_passage_of_awaited {phase next : SessionPhase} {r : Registry}
    (hp : Passage c id phase next r) (hf : phase.inFlight? = some (q, t))
    (h : r.exchanges[t]? = some ⟨id, .awaited⟩) : next.inFlight? = some (q, t) := by
  cases hp with
  | exhausted _ => cases hf
  | unwritable _ => cases hf
  | registers _ _ => cases hf
  | withdraws => exact absurd rfl (Registry.awaited_of_settle h).2
  | fails _ =>
    cases hf
    exact absurd rfl (Registry.awaited_of_giveUp h).2
  | answered _ _ =>
    cases hf
    exact absurd rfl (Registry.awaited_of_giveUp h).2
  | asked _ _ _ =>
    cases hf
    exact absurd rfl (Registry.awaited_of_giveUp h).2
  | _ => exact hf

theorem inFlight_apply_of_awaited (hf : InFlight c n id q t)
    (h : (c.apply m).1.registry.exchanges[t]? = some ⟨id, .awaited⟩) :
    InFlight (c.apply m).1 n id q t := by
  obtain ⟨s, hn, rfl, hf⟩ := hf
  obtain ⟨s', hs', hid, hturn⟩ := session_apply hn m
  refine ⟨s', hs', hid, ?_⟩
  generalize s'.phase = next at hturn
  cases hturn with
  | stays _ => exact hf
  | called hidle _ =>
    rw [hidle] at hf
    cases hf
  | refused hidle =>
    rw [hidle] at hf
    cases hf
  | dropped hstop =>
    rw [registry_drop hn (ticket?_of_inFlight? hf) hstop] at h
    exact absurd rfl (Registry.awaited_of_giveUp h).2
  | passes hp => exact inFlight?_passage_of_awaited hp hf h

section Run

variable {config : Config} {identifiers : Chap.IdentifierSequence}

/-- **Whatever is awaited, a session has it in flight.** -/
theorem awaited_inFlight
    (h : ((fresh config identifiers).after ms).registry.exchanges[t]? = some ⟨id, .awaited⟩) :
    ∃ n q, InFlight ((fresh config identifiers).after ms) n id q t := by
  induction ms using List.reverseRecOn with
  | nil => cases h
  | append_singleton ms m ih =>
    rw [after_concat] at h ⊢
    rcases awaited_apply h with hbefore | ⟨n, s, o, hn, hid, ho, rfl⟩
    · obtain ⟨n, q, hf⟩ := ih hbefore
      exact ⟨n, q, inFlight_apply_of_awaited hf h⟩
    · obtain ⟨s', hs', hid', -⟩ := session_apply hn m
      obtain ⟨-, -, -, -, hnext⟩ := registers?_eq_some ho
      rw [phaseAt_of_some hs'] at hnext
      exact ⟨n, o.request, s', hs', hid'.trans hid, by rw [hnext]; rfl⟩

end Run

/-! ## Collisions -/

/-- With a move a session registers an exchange under its id, where another session awaits what
becomes of this one. -/
structure Collides (c : Connection) (m : Move) (id : SessionId) (n k : Nat) (t : Ticket) :
    Prop where
  registers : ∃ s o, c.sessions[n]? = some s ∧ s.id = id ∧ registers? n c m = some o
  other : k ≠ n
  inFlight : ∃ q, InFlight c k id q t
  awaited : c.registry.exchanges[t]? = some ⟨id, .awaited⟩

theorem not_inFlight_of_registers (ho : registers? n c m = some o) : ¬InFlight c n id q t := by
  rintro ⟨s, hn, -, hf⟩
  obtain ⟨-, hready, -⟩ := registers?_eq_some ho
  rw [phaseAt_of_some hn] at hready
  rw [hready] at hf
  cases hf

theorem replaced_of_collides (h : Collides c m id n k t) :
    (c.apply m).1.registry.exchanges[t]? = some ⟨id, .settled (.error .replaced)⟩ := by
  obtain ⟨s, o, hn, rfl, ho⟩ := h.registers
  cases shift_apply c m with
  | stays _ hnone _ => cases (hnone n).symm.trans ho
  | settles _ hnone _ => cases (hnone n).symm.trans ho
  | @registers n' s' o' _ hn' ho' _ hr =>
    obtain ⟨rfl, rfl⟩ := registers?_unique ho ho'
    obtain rfl := Option.some.inj (hn.symm.trans hn')
    have ht : t ≠ c.registry.exchanges.length :=
      Nat.ne_of_lt (List.getElem?_eq_some_iff.1 h.awaited).1
    rw [hr, Registry.getElem?_register_of_ne _ _ ht, h.awaited, Option.map_some]
    exact congrArg some (if_pos rfl)

section Run

variable {config : Config} {identifiers : Chap.IdentifierSequence}

/-- Whoever replaces an exchange collides with the session that has it in flight. -/
theorem collides_of_replacedBy (h : ReplacedBy ((fresh config identifiers).after ms) m id t) :
    ∃ n k, Collides ((fresh config identifiers).after ms) m id n k t := by
  obtain ⟨hawaited, n, s, o, hn, hid, ho⟩ := h
  obtain ⟨k, q, hf⟩ := awaited_inFlight hawaited
  refine ⟨n, k, ⟨s, o, hn, hid, ho⟩, ?_, ⟨q, hf⟩, hawaited⟩
  rintro rfl
  exact not_inFlight_of_registers ho hf

/-- **An exchange is replaced exactly if a session collides with another one over it.** -/
theorem replaced_iff :
    ((fresh config identifiers).after ms).registry.exchanges[t]?
        = some ⟨id, .settled (.error .replaced)⟩ ↔
      ∃ before m later n k, ms = before ++ m :: later ∧
        Collides ((fresh config identifiers).after before) m id n k t := by
  constructor
  · intro h
    induction ms using List.reverseRecOn with
    | nil => cases h
    | append_singleton ms m ih =>
      rw [after_concat] at h
      rcases error_apply (tellsPending_after config identifiers ms) h with h | h | ⟨-, h⟩
      · obtain ⟨before, m', later, n, k, rfl, hcollides⟩ := ih h
        exact ⟨before, m', later ++ [m], n, k, by rw [List.append_assoc]; rfl, hcollides⟩
      · cases h
      · obtain ⟨n, k, hcollides⟩ := collides_of_replacedBy h
        exact ⟨ms, m, [], n, k, rfl, hcollides⟩
  · rintro ⟨before, m, later, n, k, rfl, hcollides⟩
    rw [after_append_cons, after_concat]
    exact settled_after (replaced_of_collides hcollides) later

/-- **A session that returns that its exchange was replaced was in a collision.** -/
theorem told_of_collision
    (h : .sessionOver k (.error .replaced) ∈ ((fresh config identifiers).run ms).2) :
    ∃ before m later id n t, ms = before ++ m :: later ∧
      Collides ((fresh config identifiers).after before) m id n k t := by
  rcases failure_run h with hown | hpending | ⟨-, sooner, rest, s, q, w, rfl, hk, hs, ho⟩
  · cases hown
  · cases hpending
  · obtain ⟨id, hx⟩ := Registry.outcome?_eq_some.1 ho
    obtain ⟨before, m, later, n, k', rfl, hcollides⟩ := replaced_iff.1 hx
    -- the session had this exchange in flight all the while, and nobody else had
    rw [after_append] at hk
    have hflight : s.phase.inFlight? = some (q, w.ticket) := by
      rw [hs]
      rfl
    have hlt := (List.getElem?_eq_some_iff.1 hcollides.awaited).1
    obtain ⟨q', hf'⟩ := hcollides.inFlight
    obtain rfl := inFlight_unique hf' (inFlight_before hlt ⟨s, hk, rfl, hflight⟩)
    exact ⟨before, m, later ++ rest, id, n, w.ticket, by simp, hcollides⟩

end Run

/-! ## Who was opened before -/

/-- What stands stood ever since its exchange was registered. -/
theorem under_earlier (ht : t < c.registry.exchanges.length)
    (h : (c.after ms).registry.Under id t) : c.registry.Under id t := by
  induction ms generalizing c with
  | nil => exact h
  | cons m ms ih =>
    obtain ⟨x, hx, -⟩ := extends_apply c m t _ (List.getElem?_eq_getElem ht)
    have hnext := ih (List.getElem?_eq_some_iff.1 hx).1 h
    rcases under_apply.1 hnext with ⟨hu, -⟩ | ⟨n, s, o, -, -, ho, rfl⟩
    · exact hu
    · exact absurd (registers?_ticket ho) (Nat.ne_of_lt ht)

section Run

variable {config : Config} {identifiers : Chap.IdentifierSequence}

/-- **No session collides over an exchange that was there when it was opened**, unless all ids
were taken. -/
theorem collides_young {candidates : List SessionId} {context : Context}
    {answers : Option (List (Option String))} {free : SessionId}
    (hfree : ((fresh config identifiers).after before).registry.contains free = false)
    (h : Collides ((fresh config identifiers).after
      (before ++ .openSession candidates context answers :: later)) m id
      ((fresh config identifiers).after before).sessions.length k t) :
    ((fresh config identifiers).after before).registry.exchanges.length ≤ t := by
  rw [after_append] at h
  generalize hc : (fresh config identifiers).after before = c at h hfree
  have hids : c.registry.ids.Nodup := hc ▸ ids_nodup config identifiers before
  by_contra hlt
  -- the id of the session was free when it was opened, and is free no more
  have hopened : (c.apply (.openSession candidates context answers)).1.sessions[c.sessions.length]?
      = some ⟨c.freshId candidates, context, answers, .idle⟩ := List.getElem?_concat_length
  obtain ⟨s, hs, hid⟩ := session_after hopened later
  obtain ⟨s', o, hn, rfl, -⟩ := h.registers
  obtain rfl := Option.some.inj (hs.symm.trans hn)
  have hstands :
      (c.after (.openSession candidates context answers :: later)).registry.Under s.id t :=
    ⟨_, h.awaited, rfl, rfl⟩
  have hunder := under_earlier (Nat.lt_of_not_le hlt) hstands
  have htaken := Registry.contains_iff_under.2 ⟨t, hunder⟩
  rw [hid, freshId_free candidates hids hfree] at htaken
  cases htaken

end Run

/-! ## Distinct ids -/

/-- The ids of the sessions that were called. -/
def idsCalled (c : Connection) : List SessionId :=
  (c.sessions.filter fun s => s.phase.wasCalled).map Session.id

theorem eq_of_called (hd : (c.after ms).idsCalled.Nodup) {ms₁ ms₂ : List Move}
    {later₁ later₂ : List Move} (h₁ : ms = ms₁ ++ later₁) (h₂ : ms = ms₂ ++ later₂)
    (hn : (c.after ms₁).sessions[n]? = some s) (hk : (c.after ms₂).sessions[k]? = some s')
    (hs : s.phase ≠ .idle) (hs' : s'.phase ≠ .idle) (hid : s.id = s'.id) : n = k := by
  -- a session that was called is there, and was called, ever after
  have stays {before later : List Move} {n : Nat} {s : Session} (hsplit : ms = before ++ later)
      (hn : (c.after before).sessions[n]? = some s) (hs : s.phase ≠ .idle) :
      ∃ s', (c.after ms).sessions[n]? = some s' ∧ s'.id = s.id ∧ s'.phase.wasCalled = true := by
    subst hsplit
    obtain ⟨s', hs', hid⟩ := session_after hn later
    have hbusy := busy_after (c := c.after before) (n := n) (by rwa [phaseAt_of_some hn]) later
    rw [phaseAt_of_some hs'] at hbusy
    rw [after_append]
    exact ⟨s', hs', hid, SessionPhase.wasCalled_iff.2 hbusy⟩
  obtain ⟨s₁, hn₁, hid₁, hcalled₁⟩ := stays h₁ hn hs
  obtain ⟨s₂, hk₂, hid₂, hcalled₂⟩ := stays h₂ hk hs'
  exact Registry.index_unique hd hn₁ hk₂ hcalled₁ hcalled₂ (hid₁.trans (hid.trans hid₂.symm))

/-- Sessions are kept apart in a run. -/
structure KeptApart (c : Connection) (ms : List Move) : Prop where
  /-- No request is registered under an id where another session awaits its own. -/
  apart {before later : List Move} {m : Move} {id : SessionId} {n k : Nat} {t : Ticket} :
    ms = before ++ m :: later → ¬Collides (c.after before) m id n k t
  /-- No exchange comes to having been replaced, and no session returns this. -/
  unreplaced (t : Ticket) : (c.after ms).registry.outcome? t ≠ some (.error .replaced)
  untold (n : Nat) : .sessionOver n (.error .replaced) ∉ (c.run ms).2
  /-- The dispatcher routes a packet to no session but the one that has sent a request under its
  id. -/
  routed {before later : List Move} {f : Frame} {n k : Nat} {id : SessionId} {q : Packet}
      {t : Ticket} {o : Sending} :
    ms = before ++ .step .dispatcher :: later → (c.after before).nextFrame? = some f →
    (c.after before).registry.exchanges[t]? = some ⟨f.session, .awaited⟩ →
    InFlight (c.after before) n id q t → o ∈ registered c k ms →
    o.request.header.session = f.session → k = n
  /-- No session finds a reply but the one that has sent a request under its id. -/
  delivered {n k : Nat} {id : SessionId} {q reply : Packet} {t : Ticket} {o : Sending} :
    InFlight (c.after ms) n id q t → (c.after ms).registry.outcome? t = some (.ok reply) →
    o ∈ registered c k ms → o.request.header.session = reply.header.session → k = n

section Run

variable {config : Config} {identifiers : Chap.IdentifierSequence}

/-- A session that is inside an exchange stays there, or is over, while nothing settles what stands
under its id. -/
theorem holder_apply (hn : c.sessions[n]? = some s) (hu : c.registry.Under s.id o.ticket)
    (hkeeps : c.settles? m ≠ some s.id) (hinside : Inside c n o) :
    Inside (c.apply m).1 n o ∨ ((c.apply m).1.phaseAt n).IsOver := by
  by_cases hm : m = .drop (.session n)
  · obtain ⟨s', hs', -, hturn⟩ := session_apply hn m
    subst hm
    rw [Inside, phaseAt_of_some hn] at hinside
    rw [Inside, phaseAt_of_some hs']
    generalize s'.phase = next at hturn
    cases hturn with
    | stays _ => exact .inl hinside
    | dropped _ => exact .inr trivial
  · rcases owner_apply hn hu hkeeps hm (.inl hinside) with hinside | ⟨limit, hlate⟩
    · exact .inl hinside
    · rw [hlate]
      exact .inr trivial

/-- **The session that has registered what is outstanding is inside the exchange, or over.** -/
theorem holder_after (h : Outstanding (fresh config identifiers) ms id n o) :
    Inside ((fresh config identifiers).after ms) n o ∨
      (((fresh config identifiers).after ms).phaseAt n).IsOver := by
  refine outstanding_induction h ?_ ?_
  · intro ms m ho
    rw [after_concat]
    exact .inl (inside_of_registers ho)
  · intro ms m s hn hid hu hkeeps ih
    subst hid
    rw [after_concat]
    rcases ih with hinside | hover
    · exact holder_apply hn hu hkeeps hinside
    · exact .inr (isOver_apply hover m)

theorem busy_of_outstanding (h : Outstanding (fresh config identifiers) ms id n o)
    (hn : ((fresh config identifiers).after ms).sessions[n]? = some s) : s.phase ≠ .idle := by
  intro hidle
  have hphase := phaseAt_of_some hn
  rw [hidle] at hphase
  rcases holder_after h with hinside | hover
  · rw [Inside, hphase] at hinside
    cases hinside
  · rw [hphase] at hover
    exact hover

/-- **Where the ids of called sessions are distinct, nobody registers an exchange under an id
where one stands**, be it awaited or not. -/
theorem free_of_distinct
    (hd : ((fresh config identifiers).after (before ++ later)).idsCalled.Nodup)
    (hn : ((fresh config identifiers).after before).sessions[n]? = some s)
    (ho : registers? n ((fresh config identifiers).after before) m = some o) :
    ((fresh config identifiers).after before).registry.contains s.id = false := by
  refine Bool.eq_false_iff.2 ?_
  intro hcontains
  obtain ⟨t, hu⟩ := Registry.contains_iff_under.1 hcontains
  obtain ⟨k, o', hout, -⟩ := under_after.1 hu
  obtain ⟨s', hk, hid⟩ := session_of_outstanding hout
  have hholds := holder_after hout
  obtain ⟨-, hready, -⟩ := registers?_eq_some ho
  have hbusy := busy_of_outstanding hout hk
  have hcalled : s.phase ≠ .idle := by
    intro hidle
    rw [phaseAt_of_some hn, hidle] at hready
    cases hready
  obtain rfl := eq_of_called hd rfl rfl hn hk hcalled hbusy hid.symm
  -- the session has a packet to send, so it is not inside an exchange, nor over
  rw [Inside, hready] at hholds
  rcases hholds with hinside | hover
  · cases hinside
  · exact hover

theorem eq_of_requested
    (hd : ((fresh config identifiers).after (before ++ later)).idsCalled.Nodup)
    (hf : InFlight ((fresh config identifiers).after before) n id q t)
    (ho : o ∈ registered (fresh config identifiers) k (before ++ later))
    (hid : o.request.header.session = id) : k = n := by
  obtain ⟨s, hn, rfl, hflight⟩ := hf
  obtain ⟨sooner, m, rest, hsplit, hregisters⟩ := mem_gather.1 ho
  obtain ⟨-, hready, -⟩ := registers?_eq_some hregisters
  obtain ⟨s', hk, hs'⟩ := session_of_phaseAt hready SessionPhase.noConfusion
  have hmade : Made config s'.id o.request := made_after hk (congrArg SessionPhase.request? hs')
  have hcalled : s.phase ≠ .idle := by
    intro hidle
    rw [hidle] at hflight
    cases hflight
  have hcalled' : s'.phase ≠ .idle := by
    rw [hs']
    exact SessionPhase.noConfusion
  exact eq_of_called hd hsplit rfl hk hn hcalled' hcalled (hmade.session.symm.trans hid)

/-- **Sessions with distinct ids are kept apart.** -/
theorem keptApart_of_distinct (hd : ((fresh config identifiers).after ms).idsCalled.Nodup) :
    KeptApart (fresh config identifiers) ms := by
  have apart {before later : List Move} {m : Move} {id : SessionId} {n k : Nat} {t : Ticket}
      (hsplit : ms = before ++ m :: later) :
      ¬Collides ((fresh config identifiers).after before) m id n k t := by
    intro h
    subst hsplit
    obtain ⟨s, o, hn, rfl, ho⟩ := h.registers
    have hfree := free_of_distinct hd hn ho
    have htaken := Registry.contains_iff_under.2 ⟨t, _, h.awaited, rfl, rfl⟩
    rw [hfree] at htaken
    cases htaken
  refine ⟨apart, ?_, ?_, ?_, ?_⟩
  · intro t ho
    obtain ⟨id, hx⟩ := Registry.outcome?_eq_some.1 ho
    obtain ⟨before, m, later, n, k, hsplit, hcollides⟩ := replaced_iff.1 hx
    exact apart hsplit hcollides
  · intro n hover
    obtain ⟨before, m, later, id, k, t, hsplit, hcollides⟩ := told_of_collision hover
    exact apart hsplit hcollides
  · intro before later f n k id q t o hsplit _ hawaited hf ho hsame
    subst hsplit
    obtain ⟨-, x, hx, hid⟩ := inFlight_sound hf
    obtain rfl := Option.some.inj (hawaited.symm.trans hx)
    exact eq_of_requested hd hf ho (hsame.trans hid)
  · intro n k id q t reply o hf hreply ho hsame
    obtain ⟨sooner, rest, f, -, hroutes, hid, -⟩ := inFlight_reply hf hreply
    rw [← List.append_nil ms] at hd ho
    rw [(ofReceived_family hroutes.reads).1, hid] at hsame
    exact eq_of_requested hd hf ho hsame

end Run

/-! ## The whole run -/

/-- When exchanges are replaced in a run, and when sessions are kept apart. -/
structure Crossings (c : Connection) (ms : List Move) : Prop where
  /-- An exchange is replaced exactly by a collision. -/
  replaced (id : SessionId) (t : Ticket) :
    (c.after ms).registry.exchanges[t]? = some ⟨id, .settled (.error .replaced)⟩ ↔
      ∃ before m later n k, ms = before ++ m :: later ∧ Collides (c.after before) m id n k t
  /-- A session that returns so was in a collision. -/
  told (k : Nat) : .sessionOver k (.error .replaced) ∈ (c.run ms).2 →
    ∃ before m later id n t, ms = before ++ m :: later ∧ Collides (c.after before) m id n k t
  /-- Whoever collides over an exchange next was opened before it was registered, unless no id
  was free. -/
  young {opening rest : List Move} {candidates : List SessionId} {context : Context}
      {answers : Option (List (Option String))} {m : Move} {id free : SessionId} {k : Nat}
      {t : Ticket} :
    ms = opening ++ .openSession candidates context answers :: rest →
    (c.after opening).registry.contains free = false →
    Collides (c.after ms) m id (c.after opening).sessions.length k t →
    (c.after opening).registry.exchanges.length ≤ t
  /-- Sessions with distinct ids are kept apart. -/
  distinct : (c.after ms).idsCalled.Nodup → KeptApart c ms

/-- **Exchanges are replaced by collisions only**, and unless no id was free a session collides
over no exchange that was registered when it was opened.  Where ids are distinct there are no
collisions, and no reply goes astray either. -/
theorem crossings (config : Config) (identifiers : Chap.IdentifierSequence) (ms : List Move) :
    Crossings (fresh config identifiers) ms where
  replaced _ _ := replaced_iff
  told _ := told_of_collision
  young hsplit hfree h := collides_young hfree (hsplit ▸ h)
  distinct := keptApart_of_distinct

/-- The answer of the server to the session with number seven: the user may come in. -/
def passToSeven : Octets :=
  [0xC0, 0x01, 0x02, 0x05, 0, 0, 0, 7, 0, 0, 0, 6, 1, 0, 0, 0, 0, 0]

/-- Two sessions are opened under the same id, since nothing stands under it yet.  The first sends
its request.  Then the second is called, and before it has sent anything the server answers. -/
def answeredCrosswise : List Move :=
  [.startDispatcher, .openSession [7] {} none, .openSession [7] {} none,
    .callSession 0 (.pap "alice" "sesame")] ++ List.replicate 5 (.step (.session 0))
  ++ [.callSession 1 (.pap "bob" "pass"), .step (.session 1),
    .arrive [.octets passToSeven], .step .dispatcher]

/-- Both go on. -/
def crossed : List Move :=
  answeredCrosswise ++ List.replicate 5 (.step (.session 1)) ++ [.step (.session 0)]

/-- **Sessions are not always kept apart.** -/
theorem sessions_cross : ¬∀ ms : List Move, KeptApart (fresh {} ⟨0⟩) ms := by
  intro hall
  have hreplaced : .sessionOver 0 (.error .replaced) ∈ ((fresh {} ⟨0⟩).run crossed).2 := by
    decide +kernel
  exact (hall crossed).untold 0 hreplaced

/-- The second session has sent nothing when the answer to the first comes, and is let in by it. -/
example : sentBy (fresh {} ⟨0⟩) 1 answeredCrosswise = [] ∧
    .sessionOver 1 (.ok (.authentication ⟨.pass, "", [], false⟩))
      ∈ ((fresh {} ⟨0⟩).run crossed).2 := by
  decide +kernel

end Connection

end Tacacs
