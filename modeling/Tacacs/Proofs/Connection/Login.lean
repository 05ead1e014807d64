/-
# `Tacacs.Proofs.Connection.Login` — a login from its call to its end

`LoginInOrder` says how a login goes in the course of any run, whatever the settings, the
answers to its prompts and the server; `login_in_order` says that it goes so.  Its packets are
numbered because those it has registered are (`keeps_after`) and it writes what it has
registered (`recorded_after`).

*Why does it go on?*  A packet that is not the first comes from a reply that was routed to
the exchange of the one before, and asks for input (`asked_before`).

*When does it end?*  With any other outcome, with any failure to write, and for want of
numbers: a login that is always served comes to the packet with number 255 when 127 are
written, and to no other end (`served_over`).  It does come to an end, unless it is left
waiting, because the turns it can take are limited (`turns_lt`).
-/
import Tacacs.Proofs.Connection.Numbering
import Tacacs.Proofs.Connection.Pace
import Tacacs.Proofs.Connection.Refusal

namespace Tacacs

namespace Connection

variable {config : Config} {identifiers : Chap.IdentifierSequence} {c : Connection} {n : Nat}
  {s : Session} {o : Sending} {w : Wait} {m : Move} {ms : List Move} {call : Call} {id : SessionId}
  {minor : MinorVersion} {p q reply : Packet} {rs ws : List Sending} {out : Octets}
  {phase : SessionPhase}

/-! ## Why a login goes on -/

/-- At the end of these moves a session awaits the reply to a packet, and the reply that was
routed to it asks for input. -/
structure Prompted (c : Connection) (before : List Move) (n : Nat) (o : Sending) (reply : Packet) :
    Prop where
  waits : ∃ s w, (c.after before).sessions[n]? = some s ∧ s.phase = .awaiting o.request w ∧
    w.ticket = o.ticket
  outcome : (c.after before).registry.outcome? o.ticket = some (.ok reply)
  asks : AsksFor o.request reply
  received : ∃ early late f, before = early ++ .step .dispatcher :: late ∧
    Routes (c.after early) f o.ticket reply

theorem asked_of_passage {r : Registry}
    (hn : ((fresh config identifiers).after ms).sessions[n]? = some s)
    (hp : Passage ((fresh config identifiers).after ms) s.id s.phase (.ready p) r) :
    ∃ done o reply, registered (fresh config identifiers) n ms = done ++ [o] ∧
      written (fresh config identifiers) n ms = done ++ [o] ∧
      Prompted (fresh config identifiers) ms n o reply := by
  obtain ⟨q, w, reply, hphase, houtcome, hjudge⟩ := passage_ready hp
  have hr := recorded_after config identifiers n ms
  rw [phaseAt_of_some hn, hphase] at hr
  obtain ⟨done, o, hdone, rfl, ht, hwritten, -⟩ := hr
  have hflight : InFlight ((fresh config identifiers).after ms) n s.id o.request o.ticket :=
    ⟨s, hn, rfl, by rw [hphase, ht]; rfl⟩
  obtain ⟨h255, -⟩ := inFlight_sound hflight
  rw [← ht] at houtcome
  obtain ⟨early, late, f, hsplit, hroutes, -, -⟩ := inFlight_reply hflight houtcome
  obtain ⟨message, noEcho, kind, hjudge⟩ := hjudge
  have htype := (judge_asks hjudge).1
  exact ⟨done, o, reply, hdone, hwritten.trans hdone, ⟨s, w, hn, hphase, ht.symm⟩, houtcome,
    (judge_asks_iff htype h255).1 ⟨message, noEcho, kind, hjudge⟩, early, late, f, hsplit, hroutes⟩

/-- A session has come to the packet with this place: it has registered it, or has it to send. -/
def ComesTo (c : Connection) (n : Nat) (ms : List Move) (k : Nat) : Prop :=
  k < (registered c n ms).length ∨
    k = (registered c n ms).length ∧ ∃ q, (c.after ms).phaseAt n = .ready q

/-- A session was asked for the packet with this place, in answer to the one before. -/
def AskedFor (c : Connection) (n : Nat) (ms : List Move) (k : Nat) : Prop :=
  ∃ before later done o reply, ms = before ++ .step (.session n) :: later ∧
    written c n before = done ++ [o] ∧ done.length + 1 = k ∧ Prompted c before n o reply

theorem askedFor_concat {k : Nat} (h : AskedFor c n ms k) (m : Move) :
    AskedFor c n (ms ++ [m]) k := by
  obtain ⟨before, later, done, o, reply, rfl, h⟩ := h
  exact ⟨before, later ++ [m], done, o, reply, by simp, h⟩

/-- **Before a session comes to its next packet it is asked for it.** -/
theorem asked_before (config : Config) (identifiers : Chap.IdentifierSequence) (n : Nat)
    (ms : List Move) {k : Nat} (hk : 0 < k) (h : ComesTo (fresh config identifiers) n ms k) :
    AskedFor (fresh config identifiers) n ms k := by
  induction ms using List.reverseRecOn with
  | nil =>
    obtain h | ⟨h, -⟩ := h
    · exact absurd h (Nat.not_lt_zero k)
    · exact absurd h (Nat.ne_of_gt hk)
  | append_singleton ms m ih =>
    rw [ComesTo, registered, gather_concat, ← registered, after_concat] at h
    cases hregisters : registers? n ((fresh config identifiers).after ms) m with
    | some o =>
      obtain ⟨-, hphase, -, -, hnext⟩ := registers?_eq_some hregisters
      rw [hregisters, hnext, List.length_append] at h
      obtain h | ⟨-, q, hq⟩ := h
      · refine askedFor_concat (ih ?_) m
        exact (Nat.lt_or_eq_of_le (Nat.le_of_lt_succ h)).imp id fun he => ⟨he, _, hphase⟩
      · cases hq
    | none =>
      rw [hregisters, Option.toList_none, List.append_nil] at h
      obtain h | ⟨he, q, hq⟩ := h
      · exact askedFor_concat (ih (Or.inl h)) m
      · cases hn : ((fresh config identifiers).after ms).sessions[n]? with
        | none =>
          rw [phaseAt_new hn m] at hq
          cases hq
        | some s =>
          obtain hsame | hidle | ⟨rfl, hp⟩ := ready_origin hn hq
          · exact askedFor_concat (ih (Or.inr ⟨he, q, (phaseAt_of_some hn).trans hsame⟩)) m
          · -- a session that was not called yet has registered nothing
            have hr := recorded_after config identifiers n ms
            rw [phaseAt_of_some hn, hidle] at hr
            rw [hr.1] at he
            exact absurd he (Nat.ne_of_gt hk)
          · obtain ⟨done, o, reply, hdone, hwritten, hprompted⟩ := asked_of_passage hn hp
            rw [hdone, List.length_append] at he
            exact ⟨ms, [], done, o, reply, rfl, hwritten, he.symm, hprompted⟩

/-! ## When a login ends -/

/-- In the course of these moves a session is served: it is not called off, every request is
written, and every outcome that it takes lets it go on. -/
structure Served (c : Connection) (n : Nat) (ms : List Move) : Prop where
  kept : ∀ before later, ms = before ++ later → (c.after before).phaseAt n ≠ .dropped
  written : ∀ before later o f, ms = before ++ later → (c.after before).phaseAt n ≠ .unsent o f
  answered : ∀ before later s q w outcome, ms = before ++ .step (.session n) :: later →
    (c.after before).sessions[n]? = some s → s.phase = .awaiting q w →
    w.result? (c.after before).registry (c.after before).now = some outcome →
    GoesOn s.answers q outcome

theorem Served.of_append {ms' : List Move} (h : Served c n (ms ++ ms')) : Served c n ms where
  kept before later hsplit := h.kept before (later ++ ms') (by rw [hsplit, List.append_assoc])
  written before later o f hsplit :=
    h.written before (later ++ ms') o f (by rw [hsplit, List.append_assoc])
  answered before later s q w outcome hsplit :=
    h.answered before (later ++ ms') s q w outcome (by
      rw [hsplit, List.append_assoc, List.cons_append])

/-- The ways in which a session comes to its end. -/
theorem passage_end {next : SessionPhase} {r : Registry} (hp : Passage c id phase next r)
    (h : ¬phase.IsOver) (hnext : next.IsOver) :
    (∃ q, phase = .ready q ∧ q.header.sequence = 255 ∧
        next = .finished (.error .sequenceExhausted)) ∨
      (∃ q e, phase = .ready q ∧ c.config.wire q = .error e) ∨
      (∃ o f, next = .unsent o f) ∨ ∃ q w, phase = .awaiting q w := by
  cases hp with
  | exhausted h255 => exact Or.inl ⟨_, rfl, h255, rfl⟩
  | unwritable hwire => exact Or.inr (Or.inl ⟨_, _, rfl, hwire⟩)
  | refused _ => exact Or.inr (Or.inr (Or.inl ⟨_, _, rfl⟩))
  | breaks => exact Or.inr (Or.inr (Or.inl ⟨_, _, rfl⟩))
  | spills => exact Or.inr (Or.inr (Or.inl ⟨_, _, rfl⟩))
  | withdraws => exact absurd trivial h
  | fails _ => exact Or.inr (Or.inr (Or.inr ⟨_, _, rfl⟩))
  | answered _ _ => exact Or.inr (Or.inr (Or.inr ⟨_, _, rfl⟩))
  | _ => exact hnext.elim

/-- **A login that is served ends for want of numbers only**, and then 127 packets are
written. -/
theorem exhausted_apply (hconfig : c.config = config) (hn : c.sessions[n]? = some s)
    (hidle : s.phase ≠ .idle) (hr : Recorded rs ws out s.phase)
    (h : Keeps config s.id minor rs s.phase) (hnot : ¬s.phase.IsOver)
    (hover : ((c.apply m).1.phaseAt n).IsOver) (hkept : (c.apply m).1.phaseAt n ≠ .dropped)
    (hwritten : ∀ o f, (c.apply m).1.phaseAt n ≠ .unsent o f)
    (hanswered : ∀ q w outcome, m = .step (.session n) → s.phase = .awaiting q w →
      w.result? c.registry c.now = some outcome → GoesOn s.answers q outcome) :
    (c.apply m).1.phaseAt n = .finished (.error .sequenceExhausted) ∧
      (ws ++ (writes? n c m).toList).length = 127 := by
  subst hconfig
  obtain ⟨s', hs', -, hturn⟩ := session_apply hn m
  rw [phaseAt_of_some hs'] at hover hkept hwritten ⊢
  generalize hnext : s'.phase = next at hturn hover hkept hwritten
  cases hturn with
  | stays _ => exact absurd hover hnot
  | called he _ => exact absurd he hidle
  | refused he => exact absurd he hidle
  | dropped _ => exact absurd rfl hkept
  | passes hp =>
    obtain ⟨q, hq, h255, hnext⟩ | ⟨q, e, hq, hwire⟩ | ⟨o, f, hunsent⟩ | ⟨q, w, hq⟩ :=
      passage_end hp hnot hover
    · have hnothing : writes? n c (.step (.session n)) = none := by
        refine writes?_of_not_writing ?_ _
        rw [phaseAt_of_some hn, hq]
        exact fun _ _ => SessionPhase.noConfusion
      rw [hq] at hr
      rw [hnothing, Option.toList_none, List.append_nil, hr.1]
      exact ⟨hnext, (h.next q hq).sequence_eq_iff.1 h255⟩
    · exact nomatch (h.next q hq).wire.symm.trans hwire
    · exact absurd hunsent (hwritten o f)
    · rw [hq] at hr
      obtain ⟨done, o, -, -, -, hnumbered, h255⟩ := numbered_of_recorded hr h
      obtain ⟨s'', hs'', -, houtcome⟩ := step_awaiting hn hq
      obtain rfl := Option.some.inj (hs'.symm.trans hs'')
      obtain ⟨-, he⟩ | ⟨outcome, hw, he⟩ := houtcome
      · rw [hnext] at he
        exact absurd (he ▸ hover) hnot
      · obtain ⟨next', hnext', -⟩ := afterOutcome_of_goesOn (c.settings s) hnumbered h255
          (hanswered q w outcome rfl hq hw)
        rw [hnext, hnext'] at he
        rw [he] at hover
        exact hover.elim

theorem finished_apply {result : Except Failure Response} (h : c.phaseAt n = .finished result)
    (hkept : (c.apply m).1.phaseAt n ≠ .dropped) : (c.apply m).1.phaseAt n = .finished result := by
  obtain ⟨s, hn, hs⟩ := session_of_phaseAt h SessionPhase.noConfusion
  obtain ⟨s', hs', hphase⟩ := over_apply hn (Or.inl hs) m
  rw [phaseAt_of_some hs'] at hkept ⊢
  exact hphase.resolve_right hkept

theorem served_over (hcalled : Called (fresh config identifiers) ms n call)
    (htype : call.type = .authentication) :
    Served (fresh config identifiers) n ms →
    (((fresh config identifiers).after ms).phaseAt n).IsOver →
      ((fresh config identifiers).after ms).phaseAt n = .finished (.error .sequenceExhausted) ∧
        (written (fresh config identifiers) n ms).length = 127 := by
  refine called_induction hcalled ?_ ?_
  · intro opening s hn hidle _ hover
    obtain ⟨s', q, hs', -, hphase, -⟩ := apply_callSession hn hidle htype
    rw [after_concat, phaseAt_of_some hs', hphase] at hover
    exact hover.elim
  · intro ms m hcalled ih hserved hover
    have hkept := hserved.kept (ms ++ [m]) [] (List.append_nil _).symm
    have hwritten := fun o f => hserved.written (ms ++ [m]) [] o f (List.append_nil _).symm
    rw [after_concat] at hover hkept hwritten ⊢
    by_cases hbefore : (((fresh config identifiers).after ms).phaseAt n).IsOver
    · obtain ⟨hfinished, hlength⟩ := ih hserved.of_append hbefore
      refine ⟨finished_apply hfinished hkept, ?_⟩
      rw [written_append, written_of_over hbefore, List.append_nil]
      exact hlength
    · obtain ⟨s, hn, hidle, h⟩ := keeps_after hcalled htype
      have hr := recorded_after config identifiers n ms
      rw [phaseAt_of_some hn] at hr hbefore
      have hanswered : ∀ q w outcome, m = .step (.session n) → s.phase = .awaiting q w →
          w.result? ((fresh config identifiers).after ms).registry
            ((fresh config identifiers).after ms).now = some outcome →
          GoesOn s.answers q outcome := by
        rintro q w outcome rfl hs hw
        exact hserved.answered ms [] s q w outcome rfl hn hs hw
      rw [written, gather_concat]
      exact exhausted_apply (config_after (fresh config identifiers) ms) hn hidle hr h hbefore hover
        hkept hwritten hanswered

theorem over_of_rests (hbusy : c.phaseAt n ≠ .idle) (hflight : (c.phaseAt n).inFlight? = none)
    (hrests : c.step (.session n) = none) : (c.phaseAt n).IsOver := by
  obtain ⟨s, hn, hs⟩ := session_of_phaseAt (c := c) (n := n) rfl hbusy
  have hstep : c.stepSession n s = none := by
    rw [← hrests]
    show _ = (c.sessions[n]?).bind (c.stepSession n)
    rw [hn]
    rfl
  rw [← hs] at hbusy hflight ⊢
  cases hphase : s.phase with
  | idle => exact absurd hphase hbusy
  | ready q =>
    simp only [stepSession, hphase] at hstep
    cases hstep
  | finished result => trivial
  | dropped => trivial
  | unsent o f => trivial
  | registered o => rw [hphase] at hflight; cases hflight
  | queued o => rw [hphase] at hflight; cases hflight
  | writing o rest => rw [hphase] at hflight; cases hflight
  | flushing o => rw [hphase] at hflight; cases hflight
  | awaiting q w => rw [hphase] at hflight; cases hflight

/-- A login takes so many turns at most, since it registers so many packets. -/
theorem turns_lt {id : SessionId}
    (h : Keeps config id minor (registered (fresh config identifiers) n ms) phase) :
    (turns (fresh config identifiers) n ms).length < 0x800000 := by
  have hshort : ∀ o ∈ registered (fresh config identifiers) n ms, o.octets.length ≤ 65552 := by
    intro o ho
    obtain ⟨i, hi⟩ := List.mem_iff_getElem?.1 ho
    obtain ⟨hnumbered, -, hwire⟩ := h.past i o hi
    exact hnumbered.length_le hwire
  have hallowed := turns_allowed n (fresh config identifiers) ms
  have hidle : (fresh config identifiers).phaseAt n = .idle := rfl
  rw [hidle, SessionPhase.turnsLeft] at hallowed
  calc (turns (fresh config identifiers) n ms).length
    _ ≤ 3 + allowance (registered (fresh config identifiers) n ms) :=
      Nat.le_of_add_right_le hallowed
    _ ≤ 3 + 127 * (65552 + 5) := Nat.add_le_add_left
      (Nat.le_trans (allowance_le hshort) (Nat.mul_le_mul_right _ h.length_le)) 3
    _ < 0x800000 := by decide

/-- How a login goes in the course of some moves. -/
structure LoginInOrder (c : Connection) (ms : List Move) (n : Nat) (call : Call) : Prop where
  /-- The packets it writes are numbered 1, 3, 5 and so on.  All are of its family and have its
  id, the version of the first and the flags of the settings; only the first is a start. -/
  numbered : ∃ s, (c.after ms).sessions[n]? = some s ∧ ∀ i o, (written c n ms)[i]? = some o →
    Numbered c.config s.id call.minor i o.request ∧ c.config.wire o.request = .ok o.octets
  /-- Their octets are what the stream takes from the session. -/
  sent : SentUpTo (written c n ms) (sentBy c n ms)
  /-- There are at most 127 of them. -/
  few : (written c n ms).length ≤ 127
  /-- None of them has a number beyond 253. -/
  last : ∀ o ∈ written c n ms, o.request.header.sequence.toNat ≤ 253
  /-- There are at most 127 exchanges. -/
  exchanges : (registered c n ms).length ≤ 127
  /-- It does not go on for ever: there is a limit to the turns it takes. -/
  finite : (turns c n ms).length < 0x800000
  /-- Each packet but the first is written after the one before, and after a reply to it that
  asks for input. -/
  asked : ∀ i, i + 1 < (written c n ms).length → ∃ before later o reply,
    ms = before ++ .step (.session n) :: later ∧
      written c n before = (written c n ms).take (i + 1) ∧
      (written c n ms)[i]? = some o ∧ Prompted c before n o reply
  /-- Any other outcome ends the login, and no packet is written any more. -/
  ends : ∀ before later s q w outcome, ms = before ++ .step (.session n) :: later →
    (c.after before).sessions[n]? = some s → s.phase = .awaiting q w →
    w.result? (c.after before).registry (c.after before).now = some outcome →
    ¬GoesOn s.answers q outcome →
      (∃ result, (c.after (before ++ [.step (.session n)])).phaseAt n = .finished result) ∧
        written c n ms = written c n before
  /-- Nothing is written either when the login is over for other reasons. -/
  silent : ∀ before later, ms = before ++ later → ((c.after before).phaseAt n).IsOver →
    written c n ms = written c n before
  /-- If it is served, it does not come to rest before its numbers are used up. -/
  exhausted : Served c n ms → ((c.after ms).phaseAt n).inFlight? = none →
    (c.after ms).step (.session n) = none →
      (c.after ms).phaseAt n = .finished (.error .sequenceExhausted) ∧
        (written c n ms).length = 127

/-- A packet that is written after another one is written after the reply to it. -/
theorem asked_of_written (config : Config) (identifiers : Chap.IdentifierSequence) (n : Nat)
    (ms : List Move) (i : Nat) (hi : i + 1 < (written (fresh config identifiers) n ms).length) :
    ∃ before later o reply, ms = before ++ .step (.session n) :: later ∧
      written (fresh config identifiers) n before
          = (written (fresh config identifiers) n ms).take (i + 1) ∧
        (written (fresh config identifiers) n ms)[i]? = some o ∧
        Prompted (fresh config identifiers) before n o reply := by
  obtain ⟨hbegun, -, -⟩ := recorded_any (recorded_after config identifiers n ms)
  obtain ⟨before, later, done, o, reply, rfl, hwritten, hdone, hprompted⟩ :=
    asked_before config identifiers n ms (Nat.succ_pos i)
      (Or.inl (Nat.lt_of_lt_of_le hi hbegun.length_le))
  obtain rfl := Nat.succ.inj hdone
  have hsplit := written_append (fresh config identifiers) n before (.step (.session n) :: later)
  have hlength : (written (fresh config identifiers) n before).length = done.length + 1 := by
    rw [hwritten, List.length_append]
    rfl
  refine ⟨before, later, o, reply, rfl, ?_, ?_, hprompted⟩
  · rw [hsplit, List.take_left' hlength]
  · rw [hsplit, List.getElem?_append_left (hlength ▸ Nat.lt_succ_self _), hwritten]
    exact List.getElem?_concat_length

theorem ends_of_not_goesOn {before later : List Move} {outcome : Outcome}
    (hcalled : Called (fresh config identifiers) (before ++ .step (.session n) :: later) n call)
    (htype : call.type = .authentication)
    (hn : ((fresh config identifiers).after before).sessions[n]? = some s)
    (hs : s.phase = .awaiting q w)
    (hw : w.result? ((fresh config identifiers).after before).registry
      ((fresh config identifiers).after before).now = some outcome)
    (hnot : ¬GoesOn s.answers q outcome) :
    (∃ result, ((fresh config identifiers).after (before ++ [.step (.session n)])).phaseAt n
        = .finished result) ∧
      written (fresh config identifiers) n (before ++ .step (.session n) :: later)
        = written (fresh config identifiers) n before := by
  have hphase := (phaseAt_of_some hn).trans hs
  have hbusy : ((fresh config identifiers).after before).phaseAt n ≠ .idle := by
    rw [hphase]
    exact SessionPhase.noConfusion
  obtain ⟨s₀, hn₀, -, h⟩ := keeps_after (called_earlier hcalled hbusy) htype
  obtain rfl := Option.some.inj (hn.symm.trans hn₀)
  have hr := recorded_after config identifiers n before
  rw [hphase] at hr
  obtain ⟨_, _, -, -, -, hnumbered, h255⟩ := numbered_of_recorded hr h
  obtain ⟨result, hresult⟩ := afterOutcome_of_not_goesOn
    (((fresh config identifiers).after before).settings s) hnumbered.type h255 hnot
  obtain ⟨s', hs', -, houtcome⟩ := step_awaiting hn hs
  have hfinished : ((fresh config identifiers).after (before ++ [.step (.session n)])).phaseAt n
      = .finished result := by
    rw [after_concat, phaseAt_of_some hs']
    obtain ⟨hnone, -⟩ | ⟨outcome', hw', he⟩ := houtcome
    · exact nomatch hw.symm.trans hnone
    · obtain rfl := Option.some.inj (hw.symm.trans hw')
      exact he.trans hresult
  refine ⟨⟨result, hfinished⟩, ?_⟩
  -- nothing is written with the step itself, nor after it
  have hnothing :
      writes? n ((fresh config identifiers).after before) (.step (.session n)) = none := by
    refine writes?_of_not_writing ?_ _
    rw [hphase]
    exact fun _ _ => SessionPhase.noConfusion
  have hlater := written_of_over
    (c := (fresh config identifiers).after (before ++ [.step (.session n)]))
    (n := n) (by rw [hfinished]; trivial) later
  rw [List.append_cons, written_append, hlater, List.append_nil, written, gather_concat, hnothing]
  exact List.append_nil _

/-- **A login numbers its packets, and ends, as it should**, whatever the settings, the answers
to its prompts and the server. -/
theorem login_in_order (config : Config) (identifiers : Chap.IdentifierSequence) {ms : List Move}
    {n : Nat} {call : Call} (hcalled : Called (fresh config identifiers) ms n call)
    (htype : call.type = .authentication) : LoginInOrder (fresh config identifiers) ms n call := by
  obtain ⟨s, hn, hidle, h⟩ := keeps_after hcalled htype
  obtain ⟨hbegun, -, hsent⟩ := recorded_any (recorded_after config identifiers n ms)
  have past : ∀ i o, (written (fresh config identifiers) n ms)[i]? = some o →
      Numbered config s.id call.minor i o.request ∧ i < 127 ∧
        config.wire o.request = .ok o.octets := by
    intro i o hi
    exact h.past i o (getElem?_of_grown hbegun hi)
  exact {
    numbered := ⟨s, hn, fun i o hi => ⟨(past i o hi).1, (past i o hi).2.2⟩⟩
    sent := hsent
    few := Nat.le_trans hbegun.length_le h.length_le
    last := by
      intro o ho
      obtain ⟨i, hi⟩ := List.mem_iff_getElem?.1 ho
      obtain ⟨hnumbered, hlt, -⟩ := past i o hi
      rw [hnumbered.sequence]
      omega
    exchanges := h.length_le
    finite := turns_lt h
    asked := asked_of_written config identifiers n ms
    ends := by
      rintro before later s q w outcome rfl hn hs hw hnot
      exact ends_of_not_goesOn hcalled htype hn hs hw hnot
    silent := by
      rintro before later rfl hover
      rw [written_append, written_of_over hover, List.append_nil]
    exhausted := by
      intro hserved hflight hrests
      refine served_over hcalled htype hserved (over_of_rests ?_ hflight hrests)
      rwa [phaseAt_of_some hn]
  }

/-! ## A login whose numbers are used up -/

/-- A session that was called off, or could not write. -/
def isLost : SessionPhase → Bool
  | .unsent _ _ | .dropped => true
  | _ => false

/-- With this move a session takes no outcome but one that lets it go on. -/
def keepsUp (n : Nat) (c : Connection) : Move → Bool
  | .step (.session k) =>
    match c.sessions[n]? with
    | some s =>
      match s.phase with
      | .awaiting q w =>
        match w.result? c.registry c.now with
        | some outcome => k ≠ n || GoesOn s.answers q outcome
        | none => true
      | _ => true
    | none => true
  | _ => true

/-- Follows a run as long as a session is served. -/
def serve (n : Nat) (c : Connection) : List Move → Option Connection
  | [] => if isLost (c.phaseAt n) then none else some c
  | m :: ms =>
    if isLost (c.phaseAt n) || !keepsUp n c m then none else serve n (c.apply m).1 ms

theorem goesOn_of_keepsUp {outcome : Outcome} (h : keepsUp n c (.step (.session n)) = true)
    (hn : c.sessions[n]? = some s) (hs : s.phase = .awaiting q w)
    (hw : w.result? c.registry c.now = some outcome) : GoesOn s.answers q outcome := by
  simpa [keepsUp, hn, hs, hw] using h

theorem served_nil (hlost : isLost (c.phaseAt n) = false) : Served c n [] where
  kept before later hsplit hdropped := by
    obtain ⟨rfl, rfl⟩ := List.append_eq_nil_iff.1 hsplit.symm
    exact nomatch hlost.symm.trans (congrArg isLost hdropped)
  written before later o f hsplit hunsent := by
    obtain ⟨rfl, rfl⟩ := List.append_eq_nil_iff.1 hsplit.symm
    exact nomatch hlost.symm.trans (congrArg isLost hunsent)
  answered before later s q w outcome hsplit :=
    absurd (List.append_eq_nil_iff.1 hsplit.symm).2 (List.cons_ne_nil _ _)

theorem served_cons (hlost : isLost (c.phaseAt n) = false) (hkeeps : keepsUp n c m = true)
    (h : Served (c.apply m).1 n ms) : Served c n (m :: ms) where
  kept before later hsplit := by
    obtain ⟨rfl, -⟩ | ⟨before, rfl, hrest⟩ := List.cons_eq_append_iff.1 hsplit
    · exact fun hdropped => nomatch hlost.symm.trans (congrArg isLost hdropped)
    · exact h.kept before later hrest
  written before later o f hsplit := by
    obtain ⟨rfl, -⟩ | ⟨before, rfl, hrest⟩ := List.cons_eq_append_iff.1 hsplit
    · exact fun hunsent => nomatch hlost.symm.trans (congrArg isLost hunsent)
    · exact h.written before later o f hrest
  answered before later s q w outcome hsplit := by
    obtain ⟨rfl, he⟩ | ⟨before, rfl, hrest⟩ := List.cons_eq_append_iff.1 hsplit
    · obtain ⟨rfl, -⟩ := List.cons.inj he
      exact goesOn_of_keepsUp hkeeps
    · exact h.answered before later s q w outcome hrest

/-- A run that can be followed to its end serves the session. -/
theorem served_of_serve {c' : Connection} (h : serve n c ms = some c') :
    Served c n ms ∧ c.after ms = c' := by
  induction ms generalizing c with
  | nil =>
    unfold serve at h
    split at h
    · cases h
    · rename_i hlost
      exact ⟨served_nil (Bool.eq_false_iff.2 hlost), Option.some.inj h⟩
  | cons m ms ih =>
    unfold serve at h
    split at h
    · cases h
    · rename_i hserves
      obtain ⟨hlost, hkeeps⟩ := Bool.or_eq_false_iff.1 (Bool.eq_false_iff.2 hserves)
      obtain ⟨hserved, hafter⟩ := ih h
      exact ⟨served_cons hlost (by simpa using hkeeps) hserved, hafter⟩

/-- A user logs in whom the server asks for a password again and again, so many times. -/
def askedAgain (k : Nat) : List Move :=
  [.openSession [7] {} (some (List.replicate k (some "sesame"))), .callSession 0 .ascii,
      .startDispatcher]
    ++ (List.range k).flatMap (fun i =>
      List.replicate 5 (.step (.session 0))
        ++ [.arrive [.octets ([0xC0, 0x01, UInt8.ofNat (2 * i + 2), 0x01, 0, 0, 0, 7, 0, 0, 0, 6]
              ++ [5, 0, 0, 0, 0, 0])],
          .step .dispatcher, .step (.session 0)])
    ++ [.step (.session 0)]

theorem login_in_order_exhausted : Called (fresh {} ⟨0⟩) (askedAgain 127) 0 .ascii ∧
    LoginInOrder (fresh {} ⟨0⟩) (askedAgain 127) 0 .ascii ∧
    ((fresh {} ⟨0⟩).after (askedAgain 127)).phaseAt 0 = .finished (.error .sequenceExhausted) ∧
      (written (fresh {} ⟨0⟩) 0 (askedAgain 127)).length = 127 := by
  have hcalled : Called (fresh {} ⟨0⟩) (askedAgain 127) 0 .ascii :=
    ⟨[.openSession [7] {} (some (List.replicate 127 (some "sesame")))], _, _, rfl, rfl, rfl⟩
  have horder := login_in_order {} ⟨0⟩ hcalled rfl
  -- the session is served all along, and has nothing left to do in the end
  have hserve : (serve 0 (fresh {} ⟨0⟩) (askedAgain 127)).any (fun c =>
      (c.step (.session 0)).isNone && (c.phaseAt 0).inFlight?.isNone) = true := by
    decide +kernel
  obtain ⟨c, hc, hrests⟩ := (Option.any_eq_true _ _).1 hserve
  obtain ⟨hserved, hafter⟩ := served_of_serve hc
  obtain ⟨hstep, hflight⟩ := Bool.and_eq_true_iff.1 hrests
  subst hafter
  exact ⟨hcalled, horder, horder.exhausted hserved (Option.isNone_iff_eq_none.1 hflight)
    (Option.isNone_iff_eq_none.1 hstep)⟩

end Connection

end Tacacs
