/-
# `Tacacs.Proofs.Connection.Writing` — what goes out

Octets go out only while a session writes, and they are the next ones of the packet that
the session has prepared (`sent_origin`).  How a packet is put into octets follows from
the settings alone: with a secret it is hidden under it, unless it was asked otherwise,
and its header says which (`goesOut_of_wire`).
-/
import Tacacs.Proofs.Connection.Delivery

namespace Tacacs

/-! ## Packets as they go out -/

/-- How a packet is put into octets under these settings. -/
structure GoesOut (config : Config) (p : Packet) (octets : Octets) : Prop where
  /-- Where there is a secret and nothing else was asked for, it is hidden under the secret
  and says so. -/
  hidden : ∀ key, config.secret = some key → config.openRequested = false →
    p.encodeHidden key = .ok octets ∧ p.header.flags.unencrypted = false
  /-- In all other cases it is open and says so. -/
  «open» : config.secret = none ∨ config.openRequested = true →
    p.encodeOpen = .ok octets ∧ p.header.flags.unencrypted = true
  /-- The flags stand in the fourth octet. -/
  flags : octets[3]? = some p.header.flags.bits

theorem flags_of_encodeThrough {hide : Octets → Octets} {p : Packet} {octets : Octets}
    (h : p.encodeThrough hide = .ok octets) : octets[3]? = some p.header.flags.bits := by
  unfold Packet.encodeThrough at h
  split at h
  · cases h
    rfl
  · cases h

theorem encodeHidden_ok {key : Octets} {p : Packet} {octets : Octets}
    (h : p.encodeHidden key = .ok octets) :
    p.header.flags.unencrypted = false ∧ octets[3]? = some p.header.flags.bits := by
  unfold Packet.encodeHidden at h
  split at h
  · cases h
  · rename_i hflag
    exact ⟨Bool.eq_false_iff.2 hflag, flags_of_encodeThrough h⟩

theorem encodeOpen_ok {p : Packet} {octets : Octets} (h : p.encodeOpen = .ok octets) :
    p.header.flags.unencrypted = true ∧ octets[3]? = some p.header.flags.bits := by
  unfold Packet.encodeOpen at h
  split at h
  · rename_i hflag
    exact ⟨hflag, flags_of_encodeThrough h⟩
  · cases h

theorem goesOut_of_wire {config : Config} {p : Packet} {octets : Octets}
    (h : config.wire p = .ok octets) : GoesOut config p octets := by
  unfold Config.wire at h
  split at h
  · rename_i key hkey
    by_cases hu : config.unencrypted = true
    · rw [if_pos hu] at h
      have hopen : config.openRequested = true := by
        rw [Config.unencrypted, hkey, Option.isNone_some, Bool.or_false] at hu
        exact hu
      obtain ⟨hflag, hbits⟩ := encodeOpen_ok h
      exact ⟨fun _ _ hn => Bool.noConfusion (hopen.symm.trans hn), fun _ => ⟨h, hflag⟩, hbits⟩
    · rw [if_neg hu] at h
      obtain ⟨hflag, hbits⟩ := encodeHidden_ok h
      refine ⟨?_, ?_, hbits⟩
      · intro key' hkey' _
        obtain rfl := Option.some.inj (hkey.symm.trans hkey')
        exact ⟨h, hflag⟩
      · rintro (hnone | hopen)
        · exact absurd (hkey.symm.trans hnone) (Option.some_ne_none _)
        · exact absurd (by rw [Config.unencrypted, hopen, Bool.true_or]) hu
  · rename_i hnone
    obtain ⟨hflag, hbits⟩ := encodeOpen_ok h
    exact ⟨fun _ hkey _ => absurd (hkey.symm.trans hnone) (Option.some_ne_none _),
      fun _ => ⟨h, hflag⟩, hbits⟩

/-- What a stream takes are the next octets, and not none of them. -/
theorem WriteRules.write_taken {r rules : WriteRules} {rest octets left : Octets}
    (h : r.write rest = (.taken octets left, rules)) : octets ≠ [] ∧ rest = octets ++ left := by
  -- what is taken, if anything is, stands in front
  have taken : ∀ {t : Octets} {rules' : WriteRules}, t <+: rest →
      (if t.isEmpty then (Written.fault .writeZero, r)
        else (Written.taken t (rest.drop t.length), rules')) = (.taken octets left, rules) →
      octets ≠ [] ∧ rest = octets ++ left := by
    intro t rules' hprefix h
    split at h
    · cases h
    · rename_i hne
      obtain ⟨rfl, rfl⟩ := Written.taken.inj (Prod.mk.inj h).1
      exact ⟨fun hnil => hne (List.isEmpty_iff.2 hnil), (List.prefix_iff_eq_append.1 hprefix).symm⟩
  unfold write at h
  split at h
  · cases h
  · split at h
    · cases h
    · split at h
      · cases h
      · cases hmost : r.most with
        | none =>
          simp only [hmost] at h
          exact taken List.prefix_rfl h
        | some n =>
          simp only [hmost] at h
          exact taken (List.take_prefix n rest) h

/-- A session that has a packet on its way has it in the octets in which the settings put
it, and what is still to be written are the last of them. -/
def SessionPhase.Prepared (config : Config) : SessionPhase → Prop
  | .registered o | .queued o | .flushing o | .unsent o _ => config.wire o.request = .ok o.octets
  | .writing o rest => config.wire o.request = .ok o.octets ∧ rest <:+ o.octets
  | .idle | .ready _ | .awaiting _ _ | .finished _ | .dropped => True

namespace Connection

variable {c : Connection} {n : Nat} {s : Session} {o : Sending} {rest octets : Octets} {m : Move}

/-! ## Who writes -/

/-- What none but sessions do: to send, to prompt somebody, and to be over. -/
def ofSession : Effect → Bool
  | .sent _ | .prompted .. | .sessionOver .. => true
  | .logged _ | .closingOver .. | .dispatcherOver _ | .woke _ => false

/-- Nothing is seen that none but sessions do. -/
def Aloof (es : List Effect) : Prop :=
  ∀ e ∈ es, ofSession e = false

theorem aloof_nil : Aloof [] :=
  fun _ he => absurd he List.not_mem_nil

theorem aloof_of_woke {es : List Effect} (h : ∀ e ∈ es, ∃ a, e = .woke a) : Aloof es := by
  intro e he
  obtain ⟨a, rfl⟩ := h e he
  rfl

theorem aloof_endStep (told : Failure) (stage : EndStage) : Aloof (c.endStep told stage).2.2 := by
  cases stage with
  | mark => exact aloof_nil
  | collect => exact aloof_nil
  | fail ids =>
    cases ids with
    | nil => exact aloof_nil
    | cons id ids => exact aloof_of_woke fun _ => mem_wake

/-- Nothing but the log is seen before somebody is woken, or before the connection ends. -/
theorem aloof_logged {log : List LogEvent} {es : List Effect} (h : Aloof es) :
    Aloof (log.map .logged ++ es) := by
  intro e he
  rcases List.mem_append.1 he with he | he
  · obtain ⟨event, -, rfl⟩ := List.mem_map.1 he
    rfl
  · exact h e he

theorem aloof_singleton {e : Effect} (h : ofSession e = false) : Aloof [e] := by
  intro e' he
  rw [List.mem_singleton.1 he]
  exact h

theorem aloof_stepFrame (f : Frame) : Aloof (c.stepFrame f).2 := by
  unfold stepFrame
  dsimp only
  split
  · exact aloof_logged (aloof_of_woke fun _ => mem_wake)
  · exact aloof_logged (aloof_singleton rfl)

theorem aloof_dispatcher : Aloof (c.apply (.step .dispatcher)).2 := by
  cases hstep : c.step .dispatcher with
  | none =>
    rw [apply_step_of_none hstep]
    exact aloof_nil
  | some p =>
    rw [apply_step_of_some hstep]
    change c.stepDispatcher = some p at hstep
    unfold stepDispatcher at hstep
    split at hstep
    · cases hstep
    · cases hstep
    · cases hstep
    · split at hstep
      · cases hstep
      · dsimp only at hstep
        split at hstep
        · cases hstep
          exact aloof_nil
        · obtain rfl := Option.some.inj hstep
          exact aloof_stepFrame _
        · cases hstep
          exact aloof_singleton rfl
        · cases hstep
          exact aloof_singleton rfl
    · rename_i stage told result _
      have haloof := aloof_endStep (c := c) told stage
      split at hstep
      · rename_i he
        cases hstep
        rwa [he] at haloof
      · rename_i he
        cases hstep
        rw [he] at haloof
        intro e hmem
        rcases List.mem_append.1 hmem with hmem | hmem
        · exact haloof e hmem
        · exact aloof_singleton rfl e hmem

theorem aloof_closing : Aloof (c.apply (.step (.closing n))).2 := by
  cases hstep : c.step (.closing n) with
  | none =>
    rw [apply_step_of_none hstep]
    exact aloof_nil
  | some p =>
    rw [apply_step_of_some hstep]
    obtain ⟨phase, -, hstep⟩ := Option.bind_eq_some_iff.1 hstep
    cases phase with
    | ending stage =>
      have haloof := aloof_endStep (c := c) .closed stage
      simp only [stepClosing] at hstep
      split at hstep
      · rename_i he
        cases hstep
        rwa [he] at haloof
      · rename_i he
        cases hstep
        rwa [he] at haloof
    | queued =>
      simp only [stepClosing] at hstep
      split at hstep
      · cases hstep
        exact aloof_nil
      · cases hstep
        exact aloof_nil
      · cases hstep
    | holding =>
      obtain rfl := Option.some.inj hstep
      intro e hmem
      rcases List.mem_append.1 hmem with hmem | hmem
      · exact aloof_of_woke (fun _ => mem_giveBackWriter) e hmem
      · exact aloof_singleton rfl e hmem
    | finished _ => cases hstep
    | dropped => cases hstep

/-- What none but sessions do is seen of a step of a session, or of a call in vain. -/
theorem aloof_apply (h : ∀ n, m ≠ .step (.session n)) :
    Aloof (c.apply m).2 ∨ ∃ n call, m = .callSession n call ∧
      (c.apply m).2 = [.sessionOver n (.error .invalidContext)] := by
  have hm := apply_happening c m
  generalize hc' : (c.apply m).1 = c', hes : (c.apply m).2 = es at hm
  cases hm with
  | session _ _ => exact absurd rfl (h _)
  | dispatcher _ => exact .inl (hes ▸ aloof_dispatcher)
  | closing _ _ => exact .inl (hes ▸ aloof_closing)
  | callsInVain _ _ => exact .inr ⟨_, _, rfl, rfl⟩
  | calls _ _ _ hw => exact .inl (aloof_of_woke hw)
  | dropsSession _ _ hw => exact .inl (aloof_of_woke hw)
  | dropsClosing _ hw => exact .inl (aloof_of_woke hw)
  | starts _ hw => exact .inl (aloof_of_woke hw)
  | startsClosing hw => exact .inl (aloof_of_woke hw)
  | comes _ hw => exact .inl (aloof_of_woke hw)
  | nothing _ => exact .inl aloof_nil
  | opens _ => exact .inl aloof_nil
  | dropsDispatcher _ => exact .inl aloof_nil

theorem sent_session (h : .sent octets ∈ (c.apply m).2) : ∃ n, m = .step (.session n) := by
  by_contra hnot
  rcases aloof_apply fun n he => hnot ⟨n, he⟩ with haloof | ⟨n, call, -, hes⟩
  · cases haloof _ h
  · rw [hes] at h
    cases List.mem_singleton.1 h

/-- What a step of a session that writes comes to. -/
inductive Wrote (o : Sending) (rest : Octets) : SessionPhase → List Effect → Prop
  /-- The stream takes some octets. -/
  | took {octets left : Octets} : octets ≠ [] → rest = octets ++ left →
      Wrote o rest (if left.isEmpty then .flushing o else .writing o left) [.sent octets]
  | broke {f : StreamFault} {es : List Effect} : (∀ e ∈ es, ∃ a, e = .woke a) →
      Wrote o rest (.unsent o (.stream f)) es
  /-- The stream takes nothing for now. -/
  | waits : Wrote o rest (.writing o rest) []

theorem step_writing (hn : c.sessions[n]? = some s) (hs : s.phase = .writing o rest) :
    ∃ s', (c.apply (.step (.session n))).1.sessions[n]? = some s' ∧ s'.id = s.id ∧
      Wrote o rest s'.phase (c.apply (.step (.session n))).2 := by
  have hstep : c.step (.session n) = c.stepWriting n o rest := by
    show (c.sessions[n]?).bind (c.stepSession n) = _
    rw [hn]
    simp only [Option.bind_some, stepSession, hs]
  unfold stepWriting at hstep
  split at hstep
  · rw [apply_step_of_none hstep]
    exact ⟨s, hn, rfl, hs ▸ .waits⟩
  · rename_i f rules _
    rw [apply_step_of_some hstep]
    exact ⟨_, getElem?_setPhase_self hn, rfl, .broke (mem_map_woke _)⟩
  · rename_i octets left rules hw
    obtain ⟨hne, hrest⟩ := WriteRules.write_taken hw
    rw [apply_step_of_some hstep]
    exact ⟨_, getElem?_setPhase_self (c := { c with rules }) hn, rfl, .took hne hrest⟩

/-- **What goes out are the next octets of a packet that a session writes.** -/
theorem sent_origin (h : .sent octets ∈ (c.apply m).2) :
    ∃ n s o left, m = .step (.session n) ∧ c.sessions[n]? = some s ∧
      s.phase = .writing o (octets ++ left) ∧ octets ≠ [] := by
  obtain ⟨n, rfl⟩ := sent_session h
  obtain ⟨s, o, rest, hn, hs⟩ := sent_apply h
  obtain ⟨s', -, -, hwrote⟩ := step_writing hn hs
  generalize s'.phase = phase, (c.apply (.step (.session n))).2 = es at hwrote h
  cases hwrote with
  | took hne hrest =>
    obtain rfl := Effect.sent.inj (List.mem_singleton.1 h)
    exact ⟨n, s, o, _, rfl, hn, hrest ▸ hs, hne⟩
  | broke hw => exact nomatch hw _ h
  | waits => cases h

/-! ## How packets are prepared -/

theorem prepared_wrote {config : Config} {phase : SessionPhase} {es : List Effect}
    (h : (SessionPhase.writing o rest).Prepared config) (hw : Wrote o rest phase es) :
    phase.Prepared config := by
  obtain ⟨hwire, hsuffix⟩ := h
  cases hw with
  | took _ hrest =>
    split
    · exact hwire
    · exact ⟨hwire, (hrest ▸ List.suffix_append _ _).trans hsuffix⟩
  | broke _ => exact hwire
  | waits => exact ⟨hwire, hsuffix⟩

theorem prepared_passage {id : SessionId} {phase next : SessionPhase} {r : Registry}
    (hp : Passage c id phase next r) (hnot : ∀ o rest, phase ≠ .writing o rest)
    (h : phase.Prepared c.config) : next.Prepared c.config := by
  cases hp with
  | registers _ hwire => exact hwire
  | refused _ => exact h
  | admitted _ => exact h
  | stands => exact h
  | takes => exact ⟨h, List.suffix_rfl⟩
  | writes => exact absurd rfl (hnot _ _)
  | written => exact absurd rfl (hnot _ _)
  | breaks => exact absurd rfl (hnot _ _)
  | spills => exact h
  | sent => trivial
  | exhausted _ => trivial
  | unwritable _ => trivial
  | withdraws => trivial
  | fails _ => trivial
  | answered _ _ => trivial
  | asked _ _ _ => trivial

theorem prepared_apply {s' : Session} (hn : c.sessions[n]? = some s)
    (h : s.phase.Prepared c.config) (hs' : (c.apply m).1.sessions[n]? = some s') :
    s'.phase.Prepared c.config := by
  by_cases hwriting : m = .step (.session n) ∧ ∃ o rest, s.phase = .writing o rest
  · obtain ⟨rfl, o, rest, hs⟩ := hwriting
    obtain ⟨s'', hs'', -, hw⟩ := step_writing hn hs
    obtain rfl := Option.some.inj (hs'.symm.trans hs'')
    exact prepared_wrote (hs ▸ h) hw
  · obtain ⟨s'', hs'', -, hturn⟩ := session_apply hn m
    obtain rfl := Option.some.inj (hs'.symm.trans hs'')
    generalize s'.phase = next at hturn
    cases hturn with
    | stays _ => exact h
    | called _ _ => trivial
    | refused _ => trivial
    | dropped _ => trivial
    | passes hp => exact prepared_passage hp (fun o rest hs => hwriting ⟨rfl, o, rest, hs⟩) h

/-- **Every packet on its way is in the octets in which the settings put it.** -/
theorem prepared_after {config : Config} {identifiers : Chap.IdentifierSequence} {ms : List Move}
    (hn : ((fresh config identifiers).after ms).sessions[n]? = some s) :
    s.phase.Prepared config := by
  induction ms using List.reverseRecOn generalizing s with
  | nil => cases hn
  | append_singleton ms m ih =>
    rw [after_concat] at hn
    have hconfig : ((fresh config identifiers).after ms).config = config := config_after _ ms
    cases hs : ((fresh config identifiers).after ms).sessions[n]? with
    | none =>
      rw [session_new hs hn]
      trivial
    | some s₀ =>
      have h := prepared_apply hs (hconfig.symm ▸ ih hs) hn
      rwa [hconfig] at h

end Connection

end Tacacs
