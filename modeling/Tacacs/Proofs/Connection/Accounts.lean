/-
# `Tacacs.Proofs.Connection.Accounts` — the registry's accounts

Whoever returns leaves the registry clean; only a session that has waited too long leaves its
exchange there.  A session ends in one of these ways, and nothing stands under its id then:

    from        what became of the exchange
    ready       none was registered since the last one had its outcome
    unsent      the session has just taken it back
    awaiting    it has an outcome, so it does not stand

The first row holds because sessions in progress do not share an id: what stands under the
id of a session that has a packet to send can only be left over from a session that had the
id before, and then the packet is the first one, which is always registered
(`firstPacket?_writes`).  That an id belongs to one session is needed for the last row as
well; `Tidy` says both, and every move keeps it.

What does stand is what is outstanding, and it is in the hands of the session that has
registered it.  `Accounts` puts this together, and counts.
-/
import Tacacs.Proofs.Connection.Standing
import Tacacs.Proofs.Connection.Requests
import Mathlib.Data.Set.Card

namespace Tacacs

/-- The session was called, and is not over. -/
def SessionPhase.inProgress : SessionPhase → Bool
  | .idle | .finished _ | .dropped => false
  | .ready _ | .registered _ | .queued _ | .writing _ _ | .flushing _ | .unsent _ _
  | .awaiting _ _ => true

theorem SessionPhase.inProgress_of_inFlight? {phase : SessionPhase} {x : Packet × Ticket}
    (h : phase.inFlight? = some x) : phase.inProgress = true := by
  cases phase with
  | idle => cases h
  | finished _ => cases h
  | dropped => cases h
  | _ => rfl

/-- The first packet of a call is not the last one that there can be, and it can be written. -/
theorem firstPacket?_writes {settings : SessionSettings} {identifier : UInt8} {call : Call}
    {q : Packet} (h : settings.firstPacket? identifier call = some q) :
    q.header.sequence ≠ 255 ∧ ∃ octets, settings.config.wire q = .ok octets := by
  obtain ⟨q', hq', hmade⟩ := firstPacket?_made settings identifier call
  obtain rfl := Option.some.inj (h.symm.trans hq')
  refine ⟨?_, _, hmade.accepted.wire⟩
  rw [(Connection.firstPacket?_header h).2]
  decide

namespace Registry

variable {r : Registry} {id : SessionId} {t : Ticket}

/-! ## How many exchanges stand -/

/-- The id under which an exchange was registered; zero if there is none with this ticket. -/
def idAt (r : Registry) (t : Ticket) : SessionId :=
  (r.exchanges[t]?.map Exchange.session).getD 0

theorem idAt_of_under (hu : r.Under id t) : r.idAt t = id := by
  obtain ⟨x, hx, -, rfl⟩ := hu
  rw [idAt, hx]
  rfl

theorem image_idAt : r.idAt '' {t | ∃ id, r.Under id t} = ↑r.ids.toFinset := by
  ext id
  rw [List.coe_toFinset, Set.mem_ofPred_eq, ← contains_iff_mem_ids, contains_iff_under]
  constructor
  · rintro ⟨t, ⟨id', hu⟩, rfl⟩
    rw [idAt_of_under hu]
    exact ⟨t, hu⟩
  · rintro ⟨t, hu⟩
    exact ⟨t, ⟨id, hu⟩, idAt_of_under hu⟩

theorem size_eq_ncard (hr : r.ids.Nodup) : r.size = {t | ∃ id, r.Under id t}.ncard := by
  have hinj : Set.InjOn r.idAt {t | ∃ id, r.Under id t} := by
    rintro t ⟨id, hu⟩ t' ⟨id', hu'⟩ hsame
    obtain rfl : id = id' := (idAt_of_under hu).symm.trans (hsame.trans (idAt_of_under hu'))
    exact eq_of_under hr hu hu'
  rw [← hinj.ncard_image, image_idAt, Set.ncard_coe_finset, List.toFinset_card_of_nodup hr,
    size_eq_length_ids]

end Registry

namespace Connection

variable {c : Connection} {m : Move} {ms : List Move} {n k : Nat} {s s' : Session} {o : Sending}
  {id : SessionId} {t : Ticket} {config : Config} {identifiers : Chap.IdentifierSequence}

/-! ## Sessions in progress -/

/-- The ids of the sessions in progress. -/
def idsInProgress (c : Connection) : List SessionId :=
  (c.sessions.filter fun s => s.phase.inProgress).map Session.id

theorem eq_of_inProgress (hd : c.idsInProgress.Nodup) (hn : c.sessions[n]? = some s)
    (hk : c.sessions[k]? = some s') (hs : s.phase.inProgress = true)
    (hs' : s'.phase.inProgress = true) (hid : s.id = s'.id) : n = k :=
  Registry.index_unique hd hn hk hs hs' hid

/-- What stands under the id of a session in progress stood there before the move, or it is
this session that has registered it. -/
theorem under_before (hd : (c.apply m).1.idsInProgress.Nodup)
    (hn : (c.apply m).1.sessions[n]? = some s) (hs : s.phase.inProgress = true)
    (hu : (c.apply m).1.registry.Under s.id t) :
    c.registry.Under s.id t ∨ ∃ o, registers? n c m = some o := by
  rcases under_apply.1 hu with ⟨hu, -⟩ | ⟨k, s₀, o, hk, hid, ho, -⟩
  · exact .inl hu
  · obtain ⟨s', hs', hid', -⟩ := session_apply hk m
    obtain ⟨-, -, -, -, hnext⟩ := registers?_eq_some ho
    rw [phaseAt_of_some hs'] at hnext
    have hprogress : s'.phase.inProgress = true := by
      rw [hnext]
      rfl
    obtain rfl := eq_of_inProgress hd hs' hn hprogress hs (hid'.trans hid)
    exact .inr ⟨o, ho⟩

/-! ## What stands under the id of a session in progress -/

/-- What stands under the id of a session is its own, if it is inside an exchange; if it has
a packet to send nothing stands there, or the packet is going to be registered. -/
structure Tidy (c : Connection) (s : Session) : Prop where
  own : ∀ q t t', s.phase.inFlight? = some (q, t) → c.registry.Under s.id t' → t' = t
  clear : ∀ q t, s.phase = .ready q → c.registry.Under s.id t →
    q.header.sequence ≠ 255 ∧ ∃ octets, c.config.wire q = .ok octets

theorem under_waited {q : Packet} {w : Wait} (h : Tidy c s) (hs : s.phase = .awaiting q w)
    (hu : c.registry.Under s.id t) : c.registry.Under s.id w.ticket := by
  have hinside : s.phase.inFlight? = some (q, w.ticket) := by
    rw [hs]
    rfl
  rwa [h.own q w.ticket t hinside hu] at hu

theorem own_apply (hd : (c.apply m).1.idsInProgress.Nodup) (hn : c.sessions[n]? = some s)
    (hs' : (c.apply m).1.sessions[n]? = some s') (h : Tidy c s) {q : Packet} {t' : Ticket}
    (hinside : s'.phase.inFlight? = some (q, t)) (hu : (c.apply m).1.registry.Under s'.id t') :
    t' = t := by
  obtain ⟨s'', hs'', hid, -⟩ := session_apply hn m
  obtain rfl := Option.some.inj (hs'.symm.trans hs'')
  rcases inFlight_apply ⟨s', hs', hid, hinside⟩ with ⟨s₀, hs₀, -, hbefore⟩ | ⟨-, -, ht, hr⟩
  · obtain rfl := Option.some.inj (hn.symm.trans hs₀)
    rcases under_before hd hs' (SessionPhase.inProgress_of_inFlight? hinside) hu with hu | ⟨o, ho⟩
    · rw [hid] at hu
      exact h.own q t t' hbefore hu
    · obtain ⟨-, hready, -⟩ := registers?_eq_some ho
      rw [phaseAt_of_some hn] at hready
      rw [hready] at hbefore
      cases hbefore
  · rw [hr, hid] at hu
    rcases Registry.under_register.1 hu with ⟨-, hne⟩ | ⟨rfl, -⟩
    · exact absurd rfl hne
    · exact ht.symm

theorem clear_apply (hd : (c.apply m).1.idsInProgress.Nodup) (hn : c.sessions[n]? = some s)
    (hs' : (c.apply m).1.sessions[n]? = some s') (h : Tidy c s) {q : Packet}
    (hready : s'.phase = .ready q) (hu : (c.apply m).1.registry.Under s'.id t) :
    q.header.sequence ≠ 255 ∧ ∃ octets, (c.apply m).1.config.wire q = .ok octets := by
  have hprogress : s'.phase.inProgress = true := by
    rw [hready]
    rfl
  -- who has a packet to send after the move has not registered one with it
  have hbefore : c.registry.Under s'.id t := by
    rcases under_before hd hs' hprogress hu with hu | ⟨o, ho⟩
    · exact hu
    · obtain ⟨-, -, -, -, hnext⟩ := registers?_eq_some ho
      rw [phaseAt_of_some hs', hready] at hnext
      cases hnext
  obtain ⟨s'', hs'', hid, hturn⟩ := session_apply hn m
  obtain rfl := Option.some.inj (hs'.symm.trans hs'')
  rw [hid] at hbefore
  rw [config_apply]
  generalize s'.phase = next at hturn hready
  cases hturn with
  | stays _ => exact h.clear q t hready hbefore
  | called _ hfirst =>
    obtain rfl := SessionPhase.ready.inj hready
    exact firstPacket?_writes hfirst
  | refused _ => cases hready
  | dropped _ => cases hready
  | passes hp =>
    rw [hready] at hp
    obtain ⟨q₀, w, reply, hphase, ho, -⟩ := passage_ready hp
    have hwaited := under_waited h hphase hbefore
    cases (Registry.outcome?_of_under hwaited).symm.trans ho

theorem tidy_apply (hd : (c.apply m).1.idsInProgress.Nodup)
    (h : ∀ (n : Nat) (s : Session), c.sessions[n]? = some s → Tidy c s)
    (hs' : (c.apply m).1.sessions[n]? = some s') :
    Tidy (c.apply m).1 s' := by
  cases hn : c.sessions[n]? with
  | none =>
    have hidle := session_new hn hs'
    refine ⟨?_, ?_⟩
    · intro q t t' hinside
      rw [hidle] at hinside
      cases hinside
    · intro q t hready
      cases hidle.symm.trans hready
  | some s =>
    refine ⟨?_, ?_⟩
    · intro q t t' hinside hu
      exact own_apply hd hn hs' (h n s hn) hinside hu
    · intro q t hready hu
      exact clear_apply hd hn hs' (h n s hn) hready hu

/-- **Where no two sessions in progress ever share an id, every session is tidy.** -/
theorem tidy_after
    (hd : ∀ before, before <+: ms → ((fresh config identifiers).after before).idsInProgress.Nodup)
    (hn : ((fresh config identifiers).after ms).sessions[n]? = some s) :
    Tidy ((fresh config identifiers).after ms) s := by
  induction ms using List.reverseRecOn generalizing n s with
  | nil => cases hn
  | append_singleton ms m ih =>
    have hlast := hd _ (List.prefix_refl _)
    rw [after_concat] at hn hlast ⊢
    refine tidy_apply hlast ?_ hn
    intro k s hk
    exact ih (fun before hbefore => hd before (hbefore.trans (List.prefix_append _ _))) hk

/-! ## What a session leaves -/

theorem clean_awaiting {q : Packet} {w : Wait} (h : Tidy c s) (hn : c.sessions[n]? = some s)
    (hs : s.phase = .awaiting q w) {result : Except Failure Response}
    (hover : (c.apply (.step (.session n))).1.phaseAt n = .finished result)
    (hresult : ∀ limit, result ≠ .error (.timeout limit)) : ¬c.registry.Under s.id t := by
  intro hu
  rcases step_awaiting_of_under hn hs (under_waited h hs hu) with hstays | hlate
  · rw [hs] at hstays
    cases hstays.symm.trans hover
  · obtain rfl := SessionPhase.finished.inj (hover.symm.trans hlate)
    exact hresult w.limit rfl

/-- A session that passes to its end leaves nothing under its id, unless it returns that no
reply came in time. -/
theorem clean_passage {result : Except Failure Response} {r : Registry} (h : Tidy c s)
    (hp : Passage c s.id s.phase (.finished result) r)
    (hwaited : ∀ q w, s.phase = .awaiting q w → ¬c.registry.Under s.id t) : ¬r.Under s.id t := by
  have hclear := h.clear
  generalize hphase : s.phase = phase at hp hwaited hclear
  cases hp with
  | exhausted h255 =>
    intro hu
    exact (hclear _ _ rfl hu).1 h255
  | unwritable hwire =>
    intro hu
    obtain ⟨-, octets, ho⟩ := hclear _ _ rfl hu
    cases hwire.symm.trans ho
  | withdraws =>
    intro hu
    obtain ⟨-, hne⟩ := (Registry.under_settle _).1 hu
    exact hne rfl
  | fails _ =>
    rw [Registry.under_giveUp]
    exact hwaited _ _ rfl
  | answered _ _ =>
    rw [Registry.under_giveUp]
    exact hwaited _ _ rfl

/-- **Who returns anything else than that no reply came in time leaves nothing under its
id.** -/
theorem clean_apply {result : Except Failure Response} (h : Tidy c s)
    (hn : c.sessions[n]? = some s) (hover : .sessionOver n result ∈ (c.apply m).2)
    (hresult : ∀ limit, result ≠ .error (.timeout limit)) :
    (c.apply m).1.registry.contains s.id = false := by
  obtain ⟨s', hs', -, hturn⟩ := session_apply hn m
  obtain ⟨hbefore, hafter⟩ := (sessionOver_apply result hn hs').1 hover
  rw [hafter] at hturn
  generalize hnext : SessionPhase.finished result = next at hturn
  cases hturn with
  | stays _ => exact absurd hnext.symm hbefore
  | called _ _ => cases hnext
  | @refused call hidle =>
    -- whoever is called has a packet to send
    obtain ⟨q, hready, -⟩ := ready_apply hn hidle call
    rw [phaseAt_of_some hs', hafter] at hready
    cases hready
  | dropped _ => cases hnext
  | passes hp =>
    subst hnext
    refine Bool.eq_false_iff.2 ?_
    intro hcontains
    obtain ⟨t, hu⟩ := Registry.contains_iff_under.1 hcontains
    refine clean_passage h hp ?_ hu
    intro q w hwaits
    exact clean_awaiting h hn hwaits ((phaseAt_of_some hs').trans hafter) hresult

/-! ## The accounts -/

/-- The exchanges that are outstanding and that a session is inside of. -/
def inside (c : Connection) (ms : List Move) : Set Ticket :=
  {t | ∃ id n o, Outstanding c ms id n o ∧ o.ticket = t ∧ Inside (c.after ms) n o}

/-- The exchanges that are outstanding and whose session has waited too long. -/
def abandoned (c : Connection) (ms : List Move) : Set Ticket :=
  {t | ∃ id n o, Outstanding c ms id n o ∧ o.ticket = t ∧ TimedOut (c.after ms) n}

/-- The accounts of a connection after a run. -/
structure Accounts (c : Connection) (ms : List Move) : Prop where
  /-- The registry contains an id if a session with this id has registered an exchange that
  was not settled since, and either is inside the exchange or has returned that no reply came
  in time. -/
  contains (id : SessionId) : (c.after ms).registry.contains id = true ↔
    ∃ n s o, (c.after ms).sessions[n]? = some s ∧ s.id = id ∧ Outstanding c ms id n o ∧
      (Inside (c.after ms) n o ∨ TimedOut (c.after ms) n)
  /-- A session that has returned anything else has left nothing under its id. -/
  clean {before later : List Move} {m : Move} {n : Nat} {s : Session}
    {result : Except Failure Response} : ms = before ++ m :: later →
    (c.after before).sessions[n]? = some s →
    .sessionOver n result ∈ ((c.after before).apply m).2 →
    (∀ limit, result ≠ .error (.timeout limit)) →
    ((c.after before).apply m).1.registry.contains s.id = false
  /-- As many exchanges stand as sessions are inside of, and those besides whose sessions have
  waited too long. -/
  size : (c.after ms).registry.size = (inside c ms).ncard + (abandoned c ms).ncard

theorem not_timedOut_of_inside (h : Inside c n o) : ¬TimedOut c n := by
  rintro ⟨limit, hover⟩
  rw [Inside, hover] at h
  cases h

theorem not_mem_abandoned (h : t ∈ inside (fresh config identifiers) ms) :
    t ∉ abandoned (fresh config identifiers) ms := by
  obtain ⟨id, n, o, h, rfl, hinside⟩ := h
  rintro ⟨id', k, o', h', ht, hlate⟩
  obtain rfl := outstanding_unique h h' ht.symm
  exact not_timedOut_of_inside hinside hlate

section Run

variable (hkept : ∀ n, .drop (.session n) ∉ ms)

include hkept

theorem standing_eq_union :
    {t | ∃ id, ((fresh config identifiers).after ms).registry.Under id t}
      = inside (fresh config identifiers) ms ∪ abandoned (fresh config identifiers) ms := by
  ext t
  constructor
  · rintro ⟨id, hu⟩
    obtain ⟨n, o, h, ht⟩ := under_after.1 hu
    rcases (owner_after hkept h).2 with hinside | hlate
    · exact .inl ⟨id, n, o, h, ht, hinside⟩
    · exact .inr ⟨id, n, o, h, ht, hlate⟩
  · rintro (⟨id, n, o, h, ht, -⟩ | ⟨id, n, o, h, ht, -⟩)
    · exact ⟨id, under_after.2 ⟨n, o, h, ht⟩⟩
    · exact ⟨id, under_after.2 ⟨n, o, h, ht⟩⟩

theorem size_after : ((fresh config identifiers).after ms).registry.size
    = (inside (fresh config identifiers) ms).ncard
      + (abandoned (fresh config identifiers) ms).ncard := by
  have hfinite : {t | ∃ id, ((fresh config identifiers).after ms).registry.Under id t}.Finite := by
    refine Set.Finite.subset (Set.finite_lt_nat
      ((fresh config identifiers).after ms).registry.exchanges.length) ?_
    rintro t ⟨id, hu⟩
    exact hu.lt
  have hunion := @standing_eq_union ms config identifiers hkept
  rw [hunion] at hfinite
  rw [Registry.size_eq_ncard (ids_nodup config identifiers ms), hunion]
  exact Set.ncard_union_eq (Set.disjoint_left.2 fun _ => not_mem_abandoned)
    (hfinite.subset Set.subset_union_left) (hfinite.subset Set.subset_union_right)

theorem contains_after : ((fresh config identifiers).after ms).registry.contains id = true ↔
    ∃ n s o, ((fresh config identifiers).after ms).sessions[n]? = some s ∧ s.id = id ∧
      Outstanding (fresh config identifiers) ms id n o ∧
      (Inside ((fresh config identifiers).after ms) n o ∨
        TimedOut ((fresh config identifiers).after ms) n) := by
  rw [Registry.contains_iff_under]
  constructor
  · rintro ⟨t, hu⟩
    obtain ⟨n, o, h, -⟩ := under_after.1 hu
    obtain ⟨⟨s, hn, hid⟩, howner⟩ := owner_after hkept h
    exact ⟨n, s, o, hn, hid, h, howner⟩
  · rintro ⟨n, s, o, -, -, h, -⟩
    exact ⟨o.ticket, under_after.2 ⟨n, o, h, rfl⟩⟩

end Run

/-- **The accounts of the registry are right after every run in which no session is called off
and no two sessions in progress share an id.** -/
theorem accounts_after (config : Config) (identifiers : Chap.IdentifierSequence) (ms : List Move)
    (hkept : ∀ n, .drop (.session n) ∉ ms)
    (hd : ∀ before, before <+: ms →
      ((fresh config identifiers).after before).idsInProgress.Nodup) :
    Accounts (fresh config identifiers) ms := by
  refine ⟨fun id => contains_after hkept, ?_, size_after hkept⟩
  intro before m later n s result hsplit hn hover hresult
  have hprefix : before <+: ms := hsplit ▸ List.prefix_append _ _
  exact clean_apply (tidy_after (fun _ h => hd _ (h.trans hprefix)) hn) hn hover hresult

/-- One session waits for its reply too long, the next one has its packet cut off by a broken
stream, and a third is still writing. -/
def leftBehind : List Move :=
  [.openSession [7] {} none, .openSession [8] {} none, .openSession [9] {} none,
    .callSession 0 (.pap "alice" "sesame")] ++ List.replicate 5 (.step (.session 0))
  ++ [.advance (.ofParts 6 0), .step (.session 0), .changeRules { limit := some 20 },
    .callSession 1 (.pap "bob" "pass")] ++ List.replicate 4 (.step (.session 1))
  ++ [.changeRules { writeFault := some ⟨.brokenPipe, "write failed"⟩ }]
  ++ List.replicate 2 (.step (.session 1))
  ++ [.changeRules {}, .callSession 2 (.pap "carol" "word")]
  ++ List.replicate 3 (.step (.session 2))

/-- The first has left its exchange and the second has left nothing. -/
theorem accounts_after_leftBehind :
    [7, 8, 9].map ((fresh {} ⟨0⟩).after leftBehind).registry.contains = [true, false, true] ∧
      (inside (fresh {} ⟨0⟩) leftBehind).ncard + (abandoned (fresh {} ⟨0⟩) leftBehind).ncard = 2 ∧
      Accounts (fresh {} ⟨0⟩) leftBehind := by
  have haccounts : Accounts (fresh {} ⟨0⟩) leftBehind := by
    refine accounts_after {} ⟨0⟩ leftBehind ?_ ?_
    · intro n hdropped
      simp [leftBehind] at hdropped
    · intro before hbefore
      have hd : ∀ before ∈ leftBehind.inits,
          ((fresh {} ⟨0⟩).after before).idsInProgress.Nodup := by decide +kernel
      exact hd before ((List.mem_inits _ _).2 hbefore)
  have hsize : ((fresh {} ⟨0⟩).after leftBehind).registry.size = 2 := by decide +kernel
  exact ⟨by decide +kernel, haccounts.size.symm.trans hsize, haccounts⟩

end Connection

end Tacacs
