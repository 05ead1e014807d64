/-
# `Tacacs.Proofs.Connection.Unclaimed` — replies that nobody waits for

A reply may come for a session that no exchange stands for: nobody ever asked, the reply is
late, it comes twice, or the request was taken back.  It is dropped.  But the registry is the
last to be asked, and what lies before it has happened by then:

    flag      no effect: the failure goes to the registry
    body      no effect: the failure goes to the registry
    header    may say that the server keeps the connection
    registry  nothing stands there, so nothing is settled and nobody is woken

So the connection is as it was, but for one mark (`passes_by`).  The mark is set exactly by a
packet that can be read, has number two and the flag, where the flag was asked for
(`Establishes`): by what looks like the first reply of a session, whether there is such a
session or not.
-/
import Tacacs.Proofs.Connection.ArrivalOrder

namespace Tacacs

namespace Registry

variable {r : Registry} {id : SessionId}

theorem settle_of_not_contains (h : r.contains id = false) (o : Outcome) : r.settle id o = r := by
  have hnot := List.any_eq_false.1 h
  refine congrArg Registry.mk ((List.map_congr_left ?_).trans (List.map_id _))
  intro e he
  by_cases hid : e.session = id
  · have hs : e.stands = false := by
      refine Bool.eq_false_iff.2 fun hs => hnot e he ?_
      rw [hs, Bool.and_true]
      exact beq_iff_eq.2 hid
    rw [if_pos hid]
    exact Exchange.settle_of_not_stands hs o
  · exact if_neg hid

theorem awaited?_of_not_contains (h : r.contains id = false) : r.awaited? id = none := by
  have hnot := List.any_eq_false.1 h
  refine List.findIdx?_eq_none_iff.2 ?_
  intro e he
  have hne := hnot e he
  rcases e with ⟨id', status⟩
  cases status with
  | awaited => exact Bool.eq_false_iff.2 hne
  | abandoned => exact Bool.and_false _
  | settled _ => exact Bool.and_false _
  | forgotten => exact Bool.and_false _

end Registry

/-- A packet tells a connection with these settings that the server keeps it. -/
structure Establishes (config : Config) (f : Frame) : Prop where
  /-- This was asked for. -/
  asked : config.singleConnect = true
  /-- The packet has the number and the flag of a first reply that grants it. -/
  first : f.header.sequence = 2
  grants : f.header.flags.singleConnection = true
  /-- Its body is hidden or open as it should be, and can be read. -/
  flag : f.header.flags.unencrypted = config.unencrypted
  reads : ∃ p, Packet.ofReceived .reply config.key f.header f.body = .ok p

variable {config : Config} {f : Frame}

theorem Frame.confirms_iff : f.confirms config = true ↔ Establishes config f := by
  have hagrees : Reception.agrees config f.header = true ↔ config.singleConnect = true ∧
      f.header.sequence = 2 ∧ f.header.flags.singleConnection = true := by
    simp [Reception.agrees, and_assoc]
  by_cases hm : f.mismatched config = true
  · rw [(Frame.outcome_of_mismatched hm).2.1]
    exact ⟨fun h => Bool.noConfusion h, fun h => absurd h.flag (Frame.mismatched_iff.1 hm)⟩
  · have hflag := Classical.not_not.1 (mt Frame.mismatched_iff.2 hm)
    have ho : f.outcome config = _ := if_neg hm
    rw [Frame.confirms, ho]
    cases hread : Packet.ofReceived .reply config.key f.header f.body with
    | ok p =>
      show Reception.agrees config f.header = true ↔ _
      rw [hagrees]
      constructor
      · rintro ⟨hasked, hfirst, hgrants⟩
        exact ⟨hasked, hfirst, hgrants, hflag, p, hread⟩
      · intro h
        exact ⟨h.asked, h.first, h.grants⟩
    | error e =>
      refine ⟨fun h => Bool.noConfusion h, ?_⟩
      rintro ⟨-, -, -, -, p, hp⟩
      cases hread.symm.trans hp

/-- A packet that nobody waits for is logged, and so is that nobody waits for it. -/
theorem Reception.ofFrame_of_not_contains {r : Registry} (hstops : f.stops config = false)
    (h : r.contains f.session = false) (established : Bool) :
    (ofFrame config r established f).reached = none ∧
      ∃ log, (ofFrame config r established f).log = log ++ [.unclaimed f.session] := by
  have hnone : r.awaited? f.header.session = none := Registry.awaited?_of_not_contains h
  have routed (b : Bool) (o : Outcome) (log : List LogEvent) :
      (route r b f.header.session o log).reached = none ∧
        ∃ log', (route r b f.header.session o log).log = log' ++ [.unclaimed f.session] := by
    simp only [route, hnone]
    exact ⟨trivial, log, rfl⟩
  unfold ofFrame
  split
  · exact routed _ _ _
  · rename_i hflag
    have htype : f.header.type ≠ .accounting := by
      intro ht
      rw [Frame.stops_iff.2 ⟨ht, Classical.not_not.1 hflag⟩] at hstops
      cases hstops
    split
    · exact routed _ _ _
    · exact routed _ _ _
    · rename_i e hcorrupt hread
      exact absurd (Packet.ofReceived_error htype hread) hcorrupt

namespace Connection

variable {c : Connection}

/-- What a packet does for whose session no exchange stands. -/
structure PassesBy (c : Connection) (f : Frame) : Prop where
  /-- When the dispatcher comes upon it, it notes down that nobody waits for it, wakes nobody,
  and reads on. -/
  read {r : Reader} {rest : List Arrival} : c.dispatcher = .reading r → c.arrivals ≠ [] →
    r.nextFrame c.config.maxBodyLength c.arrivals = (.frame f, rest) →
    (c.apply (.step .dispatcher)).1
        = { c with
            established := c.established || f.confirms c.config
            dispatcher := .reading .start
            arrivals := rest } ∧
      ∃ log, (c.apply (.step .dispatcher)).2 = (log ++ [.unclaimed f.session]).map .logged
  /-- It may arrive by itself, in pieces of any size, and be read. -/
  arrives {ps : List Octets} : c.dispatcher = .reading .start → c.arrivals = [] →
    f.body.length ≤ c.config.maxBodyLength.toNat → ps.flatten = f.octets →
    c.after [.arrive (ps.map .octets), .step .dispatcher, .step .dispatcher]
      = { c with established := c.established || f.confirms c.config }
  /-- The connection is the same as before, unless the packet sets the mark that the server keeps
  it. -/
  unchanged : { c with established := c.established || f.confirms c.config } = c ↔
    c.established = true ∨ ¬Establishes c.config f

/-- **A reply that nobody waits for changes nothing but the mark that the server keeps the
connection**, and this exactly if it can be read and says so. -/
theorem passes_by (c : Connection) (f : Frame) (htype : f.header.type ≠ .accounting)
    (h : c.registry.contains f.session = false) : PassesBy c f := by
  have hstops : f.stops c.config = false := Frame.not_stops_of_type htype
  have hsettle := Registry.settle_of_not_contains h (f.outcome c.config)
  refine ⟨?_, ?_, ?_⟩
  · intro r rest hd ha hnext
    refine ⟨?_, ?_⟩
    · rw [apply_read_goesOn hd ha hnext hstops, hsettle]
    · obtain ⟨hreached, log, hlog⟩ := Reception.ofFrame_of_not_contains hstops h c.established
      obtain ⟨-, -, hfatal⟩ := Reception.ofFrame_of_goesOn hstops c.registry c.established
      refine ⟨log, ?_⟩
      rw [apply_read_frame hd ha hnext]
      simp only [stepFrame, hfatal, hreached, hlog]
      exact List.append_nil _
  · intro ps hd ha hfit hps
    have hfits : ∀ f' ∈ [f], f'.body.length ≤ c.config.maxBodyLength.toNat :=
      fun f' hf' => (List.mem_singleton.1 hf').symm ▸ hfit
    have hgoesOn : ∀ f' ∈ [f], f'.stops c.config = false :=
      fun f' hf' => (List.mem_singleton.1 hf').symm ▸ hstops
    have hstream : ps.flatten = ([f].map Frame.octets).flatten :=
      hps.trans (List.append_nil _).symm
    refine (after_arrival hd ha hstream hfits hgoesOn).trans ?_
    show (c.stepFrame f).1 = _
    rw [stepFrame_of_goesOn hstops, hsettle, ← hd]
  · rw [← Frame.confirms_iff, Bool.not_eq_true]
    constructor
    · intro hsame
      have hmark : (c.established || f.confirms c.config) = c.established :=
        congrArg Connection.established hsame
      cases hc : c.established with
      | true => exact .inl rfl
      | false =>
        rw [hc, Bool.false_or] at hmark
        exact .inr hmark
    · rintro (hc | hf)
      · rw [hc, Bool.true_or, ← hc]
      · rw [hf, Bool.or_false]

/-- A reply of the server to a session with number nine: the user may come in, and the
connection is kept. -/
def strayGrant : Frame :=
  ⟨⟨.default, .authentication, 2, ⟨0x05⟩, 9⟩, [1, 0, 0, 0, 0, 0]⟩

/-- The same reply, but nothing is said of the connection. -/
def plainReply : Frame :=
  { strayGrant with header := { strayGrant.header with flags := ⟨0x01⟩ } }

/-- A session with number nine logs in and is answered. -/
def answeredOnce : List Move :=
  [.startDispatcher, .openSession [9] {} none, .callSession 0 (.pap "alice" "sesame")]
    ++ List.replicate 5 (.step (.session 0))
    ++ [.arrive [.octets plainReply.octets], .step .dispatcher, .step (.session 0)]

/-- A second reply to the session finds nobody.  It leaves the connection as it is; but had it said
that the server keeps the connection, it would have been believed. -/
theorem passes_by_answeredOnce :
    ((fresh {} ⟨0⟩).after answeredOnce).registry.contains 9 = false ∧
      ((fresh {} ⟨0⟩).after answeredOnce).registry.exchanges.length = 1 ∧
      PassesBy ((fresh {} ⟨0⟩).after answeredOnce) plainReply ∧
      PassesBy ((fresh {} ⟨0⟩).after answeredOnce) strayGrant ∧
      plainReply.confirms {} = false ∧ strayGrant.confirms {} = true := by
  have hnobody : ((fresh {} ⟨0⟩).after answeredOnce).registry.contains 9 = false := by
    decide +kernel
  refine ⟨hnobody, by decide +kernel, ?_, ?_, by decide +kernel, by decide +kernel⟩
  · exact passes_by _ plainReply (by decide) hnobody
  · exact passes_by _ strayGrant (by decide) hnobody

/-- The reply arrives where no session was ever opened. -/
def strayed : List Move :=
  [.startDispatcher, .arrive [.octets strayGrant.octets]]

/-- **A reply that nobody waits for is not always ignored**: from one to a session that never was,
the connection learns that the server keeps it. -/
theorem unclaimed_not_ignored :
    ¬∀ (ms : List Move) (f : Frame), f.header.type ≠ .accounting →
      ((fresh {} ⟨0⟩).after ms).registry.contains f.session = false →
      ((fresh {} ⟨0⟩).after ms).nextFrame? = some f →
      ((fresh {} ⟨0⟩).after (ms ++ [.step .dispatcher])).established
        = ((fresh {} ⟨0⟩).after ms).established := by
  intro hall
  have hsame := hall strayed strayGrant (by decide) (by decide +kernel) (by decide +kernel)
  have hunmarked : ((fresh {} ⟨0⟩).after strayed).established = false := by decide +kernel
  have hmarked : ((fresh {} ⟨0⟩).after (strayed ++ [.step .dispatcher])).established = true := by
    decide +kernel
  rw [hmarked, hunmarked] at hsame
  cases hsame

end Connection

end Tacacs
