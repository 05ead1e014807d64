/-
# `Tacacs.Proofs.Connection.CutOff` — what goes out behind a packet that was cut off

When writing fails, the stream may have taken a part of the packet.  Whatever goes out
behind it lands in the middle of a packet, as the server reads the stream.  The session
whose packet it was takes its exchange back and gives the writing side to the next; it does
not mark the connection closed.

So the cut-off packet is the last thing on the stream only if something else sees to it
(`cut_off_last_iff`): the connection was marked closed already, and no session had got past
the look at the mark.  Then nobody can come to write any more (`Shut`, which every move
keeps).  In all other cases a whole packet may follow, that of a session in line or that of
a new one (`packet_may_follow`), and it does in `cut_off_not_last`.
-/
import Tacacs.Proofs.Connection.Unmixed
import Tacacs.Proofs.Connection.Numbering

namespace Tacacs

/-- The session writes, or has got past the look whether the connection is closed and is
going to. -/
def SessionPhase.mayWrite : SessionPhase → Bool
  | .queued _ | .writing _ _ => true
  | .idle | .ready _ | .registered _ | .flushing _ | .unsent _ _ | .awaiting _ _ | .finished _
  | .dropped => false

theorem WriteRules.write_freely {rest : Octets} (h : rest ≠ []) :
    ({} : WriteRules).write rest = (.taken rest [], {}) := by
  have hne : rest.isEmpty = false := Bool.eq_false_iff.2 fun he => h (List.isEmpty_iff.1 he)
  simp only [WriteRules.write, WriteRules.most, hne, List.drop_length, Option.map_none]
  rfl

namespace Connection

/-- The packet of which the writing fails with a move, and what is still to be written of
it. -/
def cutsOff? (c : Connection) : Move → Option (Sending × Octets)
  | .step (.session n) =>
    match c.phaseAt n, (c.apply (.step (.session n))).1.phaseAt n with
    | .writing o rest, .unsent _ _ => some (o, rest)
    | _, _ => none
  | _ => none

/-- The connection is marked closed, and no session has still got past the mark. -/
structure Shut (c : Connection) : Prop where
  closed : c.closed = true
  quiet : ∀ n, (c.phaseAt n).mayWrite = false

variable {c : Connection} {n k : Nat} {s : Session} {o : Sending} {rest : Octets} {m : Move}
  {ms : List Move} {phase next : SessionPhase}

/-! ## Where nothing follows -/

theorem mayWrite_passage {id : SessionId} {r : Registry} (hc : c.closed = true)
    (hp : Passage c id phase next r) (h : phase.mayWrite = false) : next.mayWrite = false := by
  cases hp with
  | admitted hopen => exact nomatch hc.symm.trans hopen
  | stands => cases h
  | takes => cases h
  | writes => cases h
  | _ => rfl

/-- On a closed connection nobody comes to write who was not going to. -/
theorem shut_apply (h : Shut c) (m : Move) : Shut (c.apply m).1 := by
  refine ⟨closed_apply h.closed m, ?_⟩
  intro n
  cases hn : c.sessions[n]? with
  | none =>
    rw [phaseAt_new hn m]
    rfl
  | some s =>
    obtain ⟨s', hs', -, hturn⟩ := session_apply hn m
    have hquiet := h.quiet n
    rw [phaseAt_of_some hn] at hquiet
    rw [phaseAt_of_some hs']
    generalize s'.phase = next at hturn
    cases hturn with
    | stays _ => exact hquiet
    | called _ _ => rfl
    | refused _ => rfl
    | dropped _ => rfl
    | passes hp => exact mayWrite_passage h.closed hp hquiet

theorem takenFrom?_of_not_writing (h : ∀ o rest, c.phaseAt n ≠ .writing o rest) :
    c.takenFrom? (.step (.session n)) = none := by
  refine takenFrom?_eq_none ?_
  intro octets hsent
  obtain ⟨s, o, rest, hn, hs⟩ := sent_apply hsent
  exact h o rest ((phaseAt_of_some hn).trans hs)

theorem takenFrom?_of_shut (h : Shut c) (m : Move) : c.takenFrom? m = none := by
  refine takenFrom?_eq_none ?_
  intro octets hsent
  obtain ⟨n, s, o, left, -, hn, hs, -⟩ := sent_origin hsent
  have hquiet := h.quiet n
  rw [phaseAt_of_some hn, hs] at hquiet
  cases hquiet

theorem streamed_cons (c : Connection) (m : Move) (ms : List Move) :
    streamed c (m :: ms)
      = ((c.takenFrom? m).map Prod.snd).getD [] ++ streamed (c.apply m).1 ms := by
  have hcons : (c.run (m :: ms)).2 = (c.apply m).2 ++ ((c.apply m).1.run ms).2 := rfl
  rw [streamed, hcons, List.filterMap_append, List.flatten_append, sent_effects]
  cases c.takenFrom? m with
  | none => rfl
  | some taken => exact congrArg (· ++ _) (List.append_nil taken.2)

theorem streamed_append (c : Connection) (ms ms' : List Move) :
    streamed c (ms ++ ms') = streamed c ms ++ streamed (c.after ms) ms' := by
  induction ms generalizing c with
  | nil => rfl
  | cons m ms ih =>
    rw [List.cons_append, streamed_cons, ih, streamed_cons, List.append_assoc]
    rfl

/-- **On a connection that is shut nothing goes out any more.** -/
theorem streamed_of_shut (h : Shut c) (ms : List Move) : streamed c ms = [] := by
  induction ms generalizing c with
  | nil => rfl
  | cons m ms ih =>
    rw [streamed_cons, takenFrom?_of_shut h m]
    exact ih (shut_apply h m)

/-! ## Where a packet may follow -/

theorem apply_queued (hw : c.writer = none) (hq : c.phaseAt k = .queued o) :
    (c.apply (.step (.session k))).1.phaseAt k = .writing o o.octets ∧
      (c.apply (.step (.session k))).1.rules = c.rules := by
  obtain ⟨s, hn, hs⟩ := session_of_phaseAt hq nofun
  have hstep : c.step (.session k) = some
      (({ c with writer := some (.session k), line := c.line.leave (.session k) }).setPhase k
        (.writing o o.octets), []) := by
    rw [step_session_eq hn, stepSession]
    simp only [hs, askForWriter, hw]
  rw [apply_step_of_some hstep]
  exact ⟨phaseAt_setPhase hn, rfl⟩

theorem takenFrom?_freely (hr : c.rules = {}) (hphase : c.phaseAt k = .writing o rest)
    (hne : rest ≠ []) : c.takenFrom? (.step (.session k)) = some (k, rest) := by
  obtain ⟨s, hn, hs⟩ := session_of_phaseAt hphase nofun
  have hstep : c.step (.session k)
      = some (({ c with rules := {} }).setPhase k (.flushing o), [.sent rest]) := by
    rw [step_session_eq hn, stepSession]
    simp only [hs, stepWriting, hr, WriteRules.write_freely hne]
    rfl
  rw [takenFrom?, apply_step_of_some hstep]
  rfl

theorem streamed_queued (hw : c.writer = none) (hq : c.phaseAt k = .queued o)
    (hne : o.octets ≠ []) :
    streamed c [.changeRules {}, .step (.session k), .step (.session k)] = o.octets := by
  have hrules : c.takenFrom? (.changeRules {}) = none := rfl
  have hq' : (c.apply (.changeRules {})).1.phaseAt k = .queued o := hq
  obtain ⟨hphase, hr⟩ := apply_queued (c := (c.apply (.changeRules {})).1) hw hq'
  have hnone : (c.apply (.changeRules {})).1.takenFrom? (.step (.session k)) = none := by
    refine takenFrom?_of_not_writing ?_
    intro o' rest hwriting
    cases hq'.symm.trans hwriting
  rw [streamed_cons, streamed_cons, streamed_cons, hrules, hnone, takenFrom?_freely hr hphase hne]
  exact List.append_nil _

/-- A session has come to a phase, and the writing side and the closed mark are as they
were. -/
structure Comes (c c' : Connection) (k : Nat) (phase : SessionPhase) : Prop where
  phase : c'.phaseAt k = phase
  writer : c'.writer = c.writer
  closed : c'.closed = c.closed

theorem comes_ready {q : Packet} {octets : Octets} (hq : c.phaseAt k = .ready q)
    (h255 : q.header.sequence ≠ 255) (hwire : c.config.wire q = .ok octets) :
    Comes c (c.apply (.step (.session k))).1 k
      (.registered ⟨q, octets, c.registry.exchanges.length⟩) := by
  obtain ⟨s, hn, hs⟩ := session_of_phaseAt hq nofun
  have hstep : c.step (.session k)
      = some (({ c with registry := (c.registry.register s.id).2 }).setPhase k
          (.registered ⟨q, octets, c.registry.exchanges.length⟩),
        c.wake (c.registry.awaited? s.id)) := by
    rw [step_session_eq hn, stepSession]
    simp only [hs, stepReady, if_neg h255, hwire]
    rfl
  rw [apply_step_of_some hstep]
  exact ⟨phaseAt_setPhase (c := { c with registry := (c.registry.register s.id).2 }) hn, rfl, rfl⟩

theorem comes_registered (ho : c.phaseAt k = .registered o) (hc : c.closed = false) :
    Comes c (c.apply (.step (.session k))).1 k (.queued o) := by
  obtain ⟨s, hn, hs⟩ := session_of_phaseAt ho nofun
  have hstep : c.step (.session k) = some (c.setPhase k (.queued o), []) := by
    rw [step_session_eq hn, stepSession, hs]
    simp only [stepRegistered, hc]
    rfl
  rw [apply_step_of_some hstep]
  exact ⟨phaseAt_setPhase hn, rfl, rfl⟩

/-- A session that has a packet to send comes into line with two steps, and nothing goes out
meanwhile. -/
theorem queued_of_ready {q : Packet} {octets : Octets} (hq : c.phaseAt k = .ready q)
    (h255 : q.header.sequence ≠ 255) (hwire : c.config.wire q = .ok octets)
    (hc : c.closed = false) :
    ∃ t, Comes c (c.after [.step (.session k), .step (.session k)]) k (.queued ⟨q, octets, t⟩) ∧
      streamed c [.step (.session k), .step (.session k)] = [] := by
  have hregistered := comes_ready hq h255 hwire
  have hqueued := comes_registered hregistered.phase (hregistered.closed.trans hc)
  have hready : c.takenFrom? (.step (.session k)) = none := by
    refine takenFrom?_of_not_writing ?_
    intro o rest hwriting
    cases hq.symm.trans hwriting
  have hlooks : (c.apply (.step (.session k))).1.takenFrom? (.step (.session k)) = none := by
    refine takenFrom?_of_not_writing ?_
    intro o rest hwriting
    cases hregistered.phase.symm.trans hwriting
  refine ⟨_, ⟨hqueued.phase, hqueued.writer.trans hregistered.writer,
    hqueued.closed.trans hregistered.closed⟩, ?_⟩
  rw [streamed_cons, streamed_cons, hready, hlooks]
  rfl

theorem comes_called (c : Connection) :
    ∃ ms k q octets, q.header.sequence ≠ 255 ∧ c.config.wire q = .ok octets ∧
      Comes c (c.after ms) k (.ready q) ∧ streamed c ms = [] := by
  have hn : (c.apply (.openSession [] {} none)).1.sessions[c.sessions.length]?
      = some { id := c.freshId [], context := {}, answers := none } :=
    List.getElem?_concat_length
  have htype : (Call.pap "" "").type = .authentication := rfl
  obtain ⟨s', q, hs', -, hphase, hnumbered⟩ := apply_callSession hn rfl htype
  obtain ⟨_, _, hcalled⟩ := startCall_eq
    (c.apply (.openSession [] {} none)).1 c.sessions.length (.pap "" "")
  have hwriter := congrArg writer hcalled
  have hclosed := congrArg closed hcalled
  refine ⟨[.openSession [] {} none, .callSession c.sessions.length (.pap "" "")],
    c.sessions.length, q, _, ?_, hnumbered.wire,
    ⟨(phaseAt_of_some hs').trans hphase, hwriter, hclosed⟩, ?_⟩
  · intro h255
    cases hnumbered.sequence_eq_iff.1 h255
  · rw [streamed_cons, streamed_cons]
    rfl

/-- A session comes into line on every connection that is not closed. -/
theorem exists_queued (hc : c.closed = false) (hw : c.writer = none) :
    ∃ ms k o, streamed c ms = [] ∧ (c.after ms).writer = none ∧ (c.after ms).phaseAt k = .queued o ∧
      c.config.wire o.request = .ok o.octets := by
  obtain ⟨ms, k, q, octets, h255, hwire, hready, hnothing⟩ := comes_called c
  have hconfig : (c.after ms).config.wire q = .ok octets := by
    rw [config_after]
    exact hwire
  obtain ⟨t, hqueued, hnothing'⟩ := queued_of_ready hready.phase h255 hconfig
    (hready.closed.trans hc)
  rw [← after_append] at hqueued
  refine ⟨_, k, ⟨q, octets, t⟩, ?_, ?_, hqueued.phase, hwire⟩
  · rw [streamed_append, hnothing, hnothing']
    rfl
  · rw [hqueued.writer, hready.writer, hw]

theorem octets_ne_nil (hwire : c.config.wire o.request = .ok o.octets) : o.octets ≠ [] := by
  intro hnil
  have hflags := (goesOut_of_wire hwire).flags
  rw [hnil] at hflags
  cases hflags

/-- **A whole packet may go out** where nobody has the writing side, and somebody stands in
line or the connection is not closed. -/
theorem packet_may_follow (hw : c.writer = none) (h : c.closed = false ∨
      ∃ k o, c.phaseAt k = .queued o ∧ c.config.wire o.request = .ok o.octets) :
    ∃ later, ∃ o : Sending, c.config.wire o.request = .ok o.octets ∧ o.octets ≠ [] ∧
      streamed c later = o.octets := by
  rcases h with hc | ⟨k, o, hq, hwire⟩
  · obtain ⟨ms, k, o, hnothing, hw', hq, hwire⟩ := exists_queued hc hw
    have hne := octets_ne_nil hwire
    refine ⟨ms ++ [.changeRules {}, .step (.session k), .step (.session k)], o, hwire, hne, ?_⟩
    rw [streamed_append, hnothing, streamed_queued hw' hq hne]
    rfl
  · have hne := octets_ne_nil hwire
    exact ⟨_, o, hwire, hne, streamed_queued hw hq hne⟩

/-! ## Behind a packet that was cut off -/

theorem cutsOff?_eq_some (h : c.cutsOff? m = some (o, rest)) :
    ∃ n o' f, m = .step (.session n) ∧ c.phaseAt n = .writing o rest ∧
      (c.apply m).1.phaseAt n = .unsent o' f := by
  unfold cutsOff? at h
  split at h
  · split at h
    · rename_i hphase hnext
      obtain ⟨rfl, rfl⟩ := Prod.mk.inj (Option.some.inj h)
      exact ⟨_, _, _, rfl, hphase, hnext⟩
    · cases h
  · cases h

theorem phaseAt_step_of_ne (hne : k ≠ n) :
    (c.apply (.step (.session n))).1.phaseAt k = c.phaseAt k := by
  cases hk : c.sessions[k]? with
  | none => exact (phaseAt_new hk _).trans (phaseAt_of_none hk).symm
  | some s =>
    obtain ⟨s', hs', -, hturn⟩ := session_apply hk (.step (.session n))
    rw [phaseAt_of_some hk, phaseAt_of_some hs']
    generalize s'.phase = next at hturn
    cases hturn with
    | stays _ => rfl
    | passes _ => exact absurd rfl hne

theorem closed_step : (c.apply (.step (.session n))).1.closed = c.closed := by
  cases hstep : c.step (.session n) with
  | none => rw [apply_step_of_none hstep]
  | some p =>
    rw [apply_step_of_some hstep]
    obtain ⟨s, next, -, hs⟩ := step_session hstep
    obtain ⟨c₁, h₁, hc'⟩ := hs.after
    rw [hc']
    exact h₁.closed

/-- Where a connection has come to when a packet was cut off. -/
structure Torn (c c' : Connection) : Prop where
  free : c'.writer = none
  closed : c'.closed = c.closed
  /-- Those are going to write who stood in line. -/
  mayWrite : ∀ k, (c'.phaseAt k).mayWrite = true ↔ ∃ o, c.phaseAt k = .queued o
  /-- They still stand there. -/
  queued : ∀ k o, c.phaseAt k = .queued o → c'.phaseAt k = .queued o

theorem torn_of_cutsOff (hone : OneWriter c) (h : c.cutsOff? m = some (o, rest)) :
    Torn c (c.apply m).1 := by
  obtain ⟨n, o', f, rfl, hphase, hnext⟩ := cutsOff?_eq_some h
  have hheld : c.Holds (.session n) := by
    rw [holds_session, hphase]
    rfl
  have hleft : ¬(c.apply (.step (.session n))).1.Holds (.session n) := by
    rw [holds_session, hnext]
    exact Bool.false_ne_true
  refine ⟨?_, closed_step, ?_, ?_⟩
  · cases hands_apply hone (.step (.session n)) with
    | stays _ hsame => exact absurd ((hsame _).2 hheld) hleft
    | takes hnone _ _ => cases hnone.symm.trans ((hone _).1 hheld)
    | gives _ hnone _ => exact hnone
  · intro k
    by_cases hk : k = n
    · subst hk
      rw [hphase, hnext]
      constructor
      · intro hmay
        cases hmay
      · rintro ⟨o₁, hp⟩
        cases hp
    · rw [phaseAt_step_of_ne hk]
      constructor
      · intro hmay
        cases hp : c.phaseAt k with
        | queued o₁ => exact ⟨o₁, rfl⟩
        | writing o₁ rest₁ =>
          -- nobody else was writing
          have hother : c.Holds (.session k) := by
            rw [holds_session, hp]
            rfl
          cases eq_of_holds hone hother hheld
          exact absurd rfl hk
        | _ =>
          rw [hp] at hmay
          cases hmay
      · rintro ⟨o₁, hp⟩
        rw [hp]
        rfl
  · intro k o₁ hp
    by_cases hk : k = n
    · subst hk
      cases hphase.symm.trans hp
    · rw [phaseAt_step_of_ne hk]
      exact hp

/-- **When the rest of a packet cannot be written, the part that is out is the last thing that
goes out exactly if the connection was marked closed already and nobody stood in line.** -/
theorem cut_off_last_iff (config : Config) (identifiers : Chap.IdentifierSequence)
    (ms : List Move) (m : Move) (o : Sending) (rest : Octets)
    (h : ((fresh config identifiers).after ms).cutsOff? m = some (o, rest)) :
    (∀ later, streamed ((fresh config identifiers).after (ms ++ [m])) later = []) ↔
      ((fresh config identifiers).after ms).closed = true ∧
        ∀ k o', ((fresh config identifiers).after ms).phaseAt k ≠ .queued o' := by
  have htorn := torn_of_cutsOff (oneWriter_after config identifiers ms) h
  have hconfig : ((fresh config identifiers).after (ms ++ [m])).config = config := config_after _ _
  rw [← after_concat] at htorn
  constructor
  · intro hlast
    have contra (hmay : ((fresh config identifiers).after (ms ++ [m])).closed = false ∨
        ∃ k o, ((fresh config identifiers).after (ms ++ [m])).phaseAt k = .queued o ∧
          ((fresh config identifiers).after (ms ++ [m])).config.wire o.request = .ok o.octets) :
        False := by
      obtain ⟨later, o', -, hne, hout⟩ := packet_may_follow htorn.free hmay
      exact hne (hout.symm.trans (hlast later))
    refine ⟨?_, ?_⟩
    · rw [← htorn.closed]
      exact Bool.of_not_eq_false fun hopen => contra (.inl hopen)
    · intro k o' hq
      have hq' := htorn.queued k o' hq
      obtain ⟨s, hn, hs⟩ := session_of_phaseAt hq' nofun
      have hprepared := prepared_after hn
      rw [hs] at hprepared
      refine contra (.inr ⟨k, o', hq', ?_⟩)
      rw [hconfig]
      exact hprepared
  · rintro ⟨hclosed, hnobody⟩
    refine streamed_of_shut ⟨htorn.closed.trans hclosed, ?_⟩
    intro k
    refine Bool.eq_false_iff.2 ?_
    intro hmay
    obtain ⟨o', hq⟩ := (htorn.mayWrite k).1 hmay
    exact hnobody k o' hq

/-- A stream that takes twenty octets of a packet, and after that is broken. -/
def brokenAfterTwenty : List Move :=
  [.changeRules { limit := some 20 }, .openSession [1] {} none,
    .callSession 0 (.pap "alice" "sesame")] ++ List.replicate 4 (.step (.session 0))
  ++ [.changeRules { writeFault := some ⟨.brokenPipe, "write failed"⟩ }]

/-- The connection is marked closed while the packet is on its way. -/
def closedAfterTwenty : List Move :=
  brokenAfterTwenty ++ [.startClosing, .step (.closing 0)]

/-- Nobody else had anything to send then, and what is out of the packet is the last thing that
goes out. -/
theorem cut_off_last_closed :
    (((fresh {} ⟨0⟩).after closedAfterTwenty).cutsOff? (.step (.session 0))).any
        (fun cut => cut.2.length = 36 ∧ cut.1.octets.length = 56) = true ∧
      ∀ later, streamed ((fresh {} ⟨0⟩).after (closedAfterTwenty ++ [.step (.session 0)])) later
        = [] := by
  have hcut : (((fresh {} ⟨0⟩).after closedAfterTwenty).cutsOff? (.step (.session 0))).any
      (fun cut => cut.2.length = 36 ∧ cut.1.octets.length = 56) = true := by decide +kernel
  have hwrites : (((fresh {} ⟨0⟩).after closedAfterTwenty).sessions.all
      fun s => s.phase.writes) = true := by decide +kernel
  obtain ⟨⟨o, rest⟩, h, -⟩ := (Option.any_eq_true _ _).1 hcut
  refine ⟨hcut, (cut_off_last_iff _ _ _ _ o rest h).2 ⟨by decide +kernel, ?_⟩⟩
  intro k o' hq
  obtain ⟨s, hn, hs⟩ := session_of_phaseAt hq nofun
  have hwriting := List.all_eq_true.1 hwrites s (List.mem_of_getElem? hn)
  rw [hs] at hwriting
  cases hwriting

/-- The session takes its exchange back, the stream is whole again, and another session
sends a packet. -/
def anotherSends : List Move :=
  [.step (.session 0), .changeRules {}, .openSession [2] {} none,
    .callSession 1 (.pap "bob" "pass")] ++ List.replicate 4 (.step (.session 1))

/-- **A packet that was cut off need not be the last thing on the stream**: behind twenty of
its octets comes all of another. -/
theorem cut_off_not_last :
    ¬∀ (ms : List Move) (m : Move) (o : Sending) (rest : Octets),
      ((fresh {} ⟨0⟩).after ms).cutsOff? m = some (o, rest) → rest ≠ [] → rest ≠ o.octets →
      ∀ later, streamed ((fresh {} ⟨0⟩).after (ms ++ [m])) later = [] := by
  intro hall
  have hcut : (((fresh {} ⟨0⟩).after brokenAfterTwenty).cutsOff? (.step (.session 0))).any
      (fun cut => cut.2 ≠ [] ∧ cut.2 ≠ cut.1.octets) = true := by decide +kernel
  have hmore : (streamed ((fresh {} ⟨0⟩).after (brokenAfterTwenty ++ [.step (.session 0)]))
      anotherSends).length = 52 := by decide +kernel
  obtain ⟨⟨o, rest⟩, h, hpart⟩ := (Option.any_eq_true _ _).1 hcut
  obtain ⟨hleft, hgone⟩ := of_decide_eq_true hpart
  rw [hall brokenAfterTwenty _ o rest h hleft hgone anotherSends] at hmore
  cases hmore

end Connection

end Tacacs
