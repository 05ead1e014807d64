/-
# `Tacacs.Proofs.Connection.Stopping` — why the dispatcher stops, and what that does

The dispatcher takes one packet after the other from the stream until something stops it.
What the whole stream amounts to was said without a dispatcher (`course`): the packets,
and the reason to stop.  `Position` relates the two in the middle of things.  The packets
taken so far, and those in the rest of the stream, which begins with what the reader
holds, are the packets of the whole; and the reason to stop is that of the rest.  Every
move keeps it (`position_apply`), whoever makes it and however much of the stream is there.

To stop is to set the closed mark and to fail what stands.  The dispatcher does so in
steps of its own, and others may come between them; then an exchange that stood is settled
by the dispatcher, or somebody else was faster (`settled_by_ending`).
-/
import Tacacs.Proofs.Connection.Closing
import Tacacs.Proofs.Connection.Inbound
import Tacacs.Proofs.Stream.Course

namespace Tacacs

/-- What comes in with a move. -/
def Move.arrivals : Move → List Arrival
  | .arrive arrivals => arrivals
  | _ => []

/-- Everything that comes in with these moves. -/
def arrived (ms : List Move) : List Arrival :=
  ms.flatMap Move.arrivals

/-- What the exchanges are told when the dispatcher stops with this result: the cause, if
it lies in what the server sent, and otherwise that the connection is closed. -/
def toldOf : Except Failure Unit → Failure
  | .error .malformedHeader => .malformedHeader
  | .error .corruptPacket => .corruptPacket
  | .error (.unexpectedType type) => .unexpectedType type
  | _ => .closed

theorem toldOf_error (e : Failure) : toldOf (.error e) = e.forPending := by
  cases e <;> rfl

namespace Connection

/-- The packet that the dispatcher takes with a move. -/
def takes? (c : Connection) : Move → Option Frame
  | .step .dispatcher => c.nextFrame?
  | _ => none

theorem takes?_of_ne {c : Connection} {m : Move} (h : m ≠ .step .dispatcher) :
    c.takes? m = none := by
  unfold takes?
  split
  · exact absurd rfl h
  · rfl

/-- The packets that the dispatcher takes with these moves, in order. -/
def taken (c : Connection) (ms : List Move) : List Frame :=
  gather takes? c ms

/-! ## Where the dispatcher stands -/

/-- Where the dispatcher stands in a stream: after these packets, while this was not read
or is still to come. -/
inductive Position (config : Config) (s : Octets) (e : StreamEnd) :
    DispatcherPhase → List Frame → List Arrival → Prop
  | idle {pieces : List Octets} : pieces.flatten = s →
      Position config s e .idle [] (pieces.map .octets ++ [e.arrival])
  | reading {r : Reader} {held : Octets} {pieces : List Octets} {fs : List Frame} :
      Reader.start.absorb config.maxBodyLength held = (.waiting r, []) →
      course config e s = (fs ++ (course config e (held ++ pieces.flatten)).1,
        (course config e (held ++ pieces.flatten)).2) →
      Position config s e (.reading r) fs (pieces.map .octets ++ [e.arrival])
  | ending {stage : EndStage} {result : Except Failure Unit} {fs : List Frame}
      {left : List Arrival} : course config e s = (fs, result) →
      Position config s e (.ending stage (toldOf result) result) fs left
  | finished {result : Except Failure Unit} {fs : List Frame} {left : List Arrival} :
      course config e s = (fs, result) → Position config s e (.finished result) fs left
  | dropped {fs : List Frame} {left : List Arrival} : fs <+: (course config e s).1 →
      Position config s e .dropped fs left

variable {c c' : Connection} {config : Config} {s : Octets} {e : StreamEnd} {fs : List Frame}
  {left more : List Arrival} {r : Reader} {result : Except Failure Unit}

theorem first_of_position {d : DispatcherPhase} (h : Position config s e d fs left) :
    fs <+: (course config e s).1 := by
  cases h with
  | idle _ => exact List.nil_prefix
  | reading _ hcourse =>
    rw [hcourse]
    exact List.prefix_append _ _
  | ending hcourse => exact (congrArg Prod.fst hcourse).symm ▸ List.prefix_rfl
  | finished hcourse => exact (congrArg Prod.fst hcourse).symm ▸ List.prefix_rfl
  | dropped hprefix => exact hprefix

/-! ## Steps of the dispatcher -/

/-- The dispatcher reports why it stops. -/
def stopEvent : Except Failure Unit → LogEvent
  | .ok () => .serverClosed
  | .error e => .connectionFailed e

theorem apply_read_stop {progress : Progress} {rest : List Arrival}
    (hd : c.dispatcher = .reading r) (ha : c.arrivals ≠ [])
    (hnext : r.nextFrame c.config.maxBodyLength c.arrivals = (progress, rest))
    (hstop : progress = .ended ∧ result = .ok () ∨
      ∃ failure, progress = .failed failure ∧ result = .error failure) :
    c.apply (.step .dispatcher)
      = ({ c with arrivals := rest, dispatcher := .ending .mark (toldOf result) result },
        [.logged (stopEvent result)]) := by
  rcases hstop with ⟨rfl, rfl⟩ | ⟨failure, rfl, rfl⟩
  · simp [apply, step, stepDispatcher, hd, ha, hnext, toldOf, stopEvent]
  · simp [apply, step, stepDispatcher, hd, ha, hnext, toldOf_error, stopEvent]

theorem nextFrame?_of_reading (hd : c.dispatcher = .reading r) (ha : c.arrivals ≠ []) :
    c.nextFrame? =
      match (r.nextFrame c.config.maxBodyLength c.arrivals).1 with
      | .frame f => some f
      | _ => none := by
  have hempty : c.arrivals.isEmpty = false := List.isEmpty_eq_false_iff.2 ha
  simp only [nextFrame?, hd, hempty]
  rfl

theorem nextFrame?_of_not_reading (hd : ∀ r, c.dispatcher ≠ .reading r) : c.nextFrame? = none := by
  unfold nextFrame?
  split
  · rename_i r hr
    exact absurd hr (hd r)
  · rfl

/-- The dispatcher takes a packet while it reads, from what has arrived. -/
theorem nextFrame?_eq_some {f : Frame} (h : c.nextFrame? = some f) :
    ∃ r rest, c.dispatcher = .reading r ∧ c.arrivals ≠ [] ∧
      r.nextFrame c.config.maxBodyLength c.arrivals = (.frame f, rest) := by
  unfold nextFrame? at h
  split at h
  · rename_i r hd
    split at h
    · cases h
    · rename_i ha
      split at h
      · rename_i f' hf
        cases h
        exact ⟨r, _, hd, fun hnil => ha (List.isEmpty_iff.2 hnil), Prod.ext hf rfl⟩
      · cases h
  · cases h

theorem position_read {held : Octets} {pieces : List Octets}
    (hd : c.dispatcher = .reading r)
    (hheld : Reader.start.absorb c.config.maxBodyLength held = (.waiting r, []))
    (hcourse : course c.config e s = (fs ++ (course c.config e (held ++ pieces.flatten)).1,
        (course c.config e (held ++ pieces.flatten)).2))
    (hleft : c.arrivals ++ more = pieces.map .octets ++ [e.arrival]) :
    Position c.config s e (c.apply (.step .dispatcher)).1.dispatcher (fs ++ c.nextFrame?.toList)
      ((c.apply (.step .dispatcher)).1.arrivals ++ more) := by
  by_cases ha : c.arrivals = []
  · have hnone : c.nextFrame? = none := by
      simp [nextFrame?, hd, ha]
    rw [apply_read_nothing hd ha, hnone, hd, hleft, Option.toList_none, List.append_nil]
    exact .reading hheld hcourse
  · have hfound := Reader.nextFrame_found hheld hleft
    have hframe := nextFrame?_of_reading hd ha
    generalize hnext : r.nextFrame c.config.maxBodyLength c.arrivals = next at hfound hframe
    cases hfound with
    | @waits r' held' pieces' hheld' hmore hwhole =>
      rw [apply_read_part hd ha hnext, hframe, hmore]
      dsimp only [Option.toList_none, List.nil_append]
      rw [List.append_nil]
      refine .reading hheld' ?_
      rw [hwhole]
      exact hcourse
    | @packet f rest pieces' hrest hpacket =>
      rw [course_of_packet hpacket] at hcourse
      rw [hframe]
      dsimp only [Option.toList_some]
      cases hstops : f.stops c.config with
      | true =>
        rw [apply_read_stops hd ha hnext hstops]
        rw [if_pos hstops] at hcourse
        exact .ending hcourse
      | false =>
        rw [apply_read_goesOn hd ha hnext hstops, hrest]
        rw [if_neg (Bool.eq_false_iff.1 hstops)] at hcourse
        refine .reading (Reader.absorb_nil Reader.partial_start) ?_
        rw [hcourse, List.nil_append, List.append_assoc, List.singleton_append]
    | ended hstop =>
      rw [course_of_stop hstop, List.append_nil] at hcourse
      rw [apply_read_stop hd ha hnext (.inl ⟨rfl, rfl⟩), hframe]
      dsimp only [Option.toList_none]
      rw [List.append_nil]
      exact .ending hcourse
    | failed hstop =>
      rw [course_of_stop hstop, List.append_nil] at hcourse
      rw [apply_read_stop hd ha hnext (.inr ⟨_, rfl, rfl⟩), hframe]
      dsimp only [Option.toList_none]
      rw [List.append_nil]
      exact .ending hcourse

theorem apply_mark {told : Failure} (hd : c.dispatcher = .ending .mark told result) :
    (c.apply (.step .dispatcher)).1
      = { c with closed := true, dispatcher := .ending .collect told result } := by
  simp [apply, step, stepDispatcher, hd, endStep]

theorem apply_collect {told : Failure} (hd : c.dispatcher = .ending .collect told result) :
    (c.apply (.step .dispatcher)).1
      = { c with dispatcher := .ending (.fail c.registry.ids) told result } := by
  simp [apply, step, stepDispatcher, hd, endStep]

theorem apply_fail {told : Failure} {id : SessionId} {ids : List SessionId}
    (hd : c.dispatcher = .ending (.fail (id :: ids)) told result) :
    (c.apply (.step .dispatcher)).1
      = { c with
          registry := c.registry.settle id (.error told)
          dispatcher := .ending (.fail ids) told result } := by
  simp [apply, step, stepDispatcher, hd, endStep, settleExchange]

theorem apply_through {told : Failure} (hd : c.dispatcher = .ending (.fail []) told result) :
    (c.apply (.step .dispatcher)).1 = { c with dispatcher := .finished result } := by
  simp [apply, step, stepDispatcher, hd, endStep]

theorem dropAgent_dispatcher (c : Connection) :
    (c.dropAgent .dispatcher).1 = c ∨ c.canStop .dispatcher = true ∧
      (c.dropAgent .dispatcher).1 = { c with dispatcher := .dropped } := by
  unfold dropAgent
  split
  · exact .inl rfl
  · rename_i h
    cases hstop : c.canStop .dispatcher with
    | true => exact .inr ⟨rfl, rfl⟩
    | false => exact absurd (by rw [hstop, Bool.not_false, Bool.or_true]) h

theorem dispatcher_apply_of_ending {m : Move} {stage : EndStage} {told : Failure}
    (hd : c.dispatcher = .ending stage told result) (hm : m ≠ .step .dispatcher) :
    (c.apply m).1.dispatcher = c.dispatcher := by
  cases hi : m.isInbound with
  | false => exact (inbound_apply c hi).1
  | true =>
    rcases Move.inbound_cases hi with rfl | rfl | ⟨arrivals, rfl⟩ | rfl
    · simp only [apply, hd]
    · rcases dropAgent_dispatcher c with h | ⟨hstop, -⟩
      · exact congrArg Connection.dispatcher h
      · simp [canStop, hd] at hstop
    · rfl
    · exact absurd rfl hm

/-! ## The dispatcher in the course of a run -/

theorem position_step (h : Position c.config s e c.dispatcher fs (c.arrivals ++ more)) :
    Position c.config s e (c.apply (.step .dispatcher)).1.dispatcher (fs ++ c.nextFrame?.toList)
      ((c.apply (.step .dispatcher)).1.arrivals ++ more) := by
  generalize hd : c.dispatcher = d at h
  generalize hleft : c.arrivals ++ more = left at h
  -- a dispatcher that is not reading takes no packet
  have none_taken : (∀ r, d ≠ .reading r) → fs ++ c.nextFrame?.toList = fs := by
    intro hnot
    rw [nextFrame?_of_not_reading fun r hr => hnot r (hd.symm.trans hr)]
    exact List.append_nil fs
  -- and one that has nothing to do stays where it is
  have stays : c.stepDispatcher = none →
      (c.apply (.step .dispatcher)).1 = c := fun hnone =>
    congrArg Prod.fst (apply_step_of_none (a := .dispatcher) hnone)
  cases h with
  | reading hheld hcourse => exact position_read hd hheld hcourse hleft
  | idle hpieces =>
    rw [none_taken (fun _ => DispatcherPhase.noConfusion),
      stays (by simp only [stepDispatcher, hd]), hd, hleft]
    exact .idle hpieces
  | finished hcourse =>
    rw [none_taken (fun _ => DispatcherPhase.noConfusion),
      stays (by simp only [stepDispatcher, hd]), hd]
    exact .finished hcourse
  | dropped hprefix =>
    rw [none_taken (fun _ => DispatcherPhase.noConfusion),
      stays (by simp only [stepDispatcher, hd]), hd]
    exact .dropped hprefix
  | @ending stage result _ _ hcourse =>
    rw [none_taken fun _ => DispatcherPhase.noConfusion]
    cases stage with
    | mark => exact apply_mark hd ▸ .ending hcourse
    | collect => exact apply_collect hd ▸ .ending hcourse
    | fail ids =>
      cases ids with
      | nil => exact apply_through hd ▸ .finished hcourse
      | cons id ids => exact apply_fail hd ▸ .ending hcourse

/-- **Every move keeps the dispatcher's position in the stream.** -/
theorem position_apply (hc : c.config = config) (m : Move)
    (h : Position config s e c.dispatcher fs (c.arrivals ++ (m.arrivals ++ more))) :
    Position config s e (c.apply m).1.dispatcher (fs ++ (c.takes? m).toList)
      ((c.apply m).1.arrivals ++ more) := by
  subst hc
  have none_taken : fs ++ (none : Option Frame).toList = fs := List.append_nil fs
  cases hi : m.isInbound with
  | false =>
    obtain ⟨hd, ha⟩ := inbound_apply c hi
    have htakes : c.takes? m = none := takes?_of_ne (by rintro rfl; cases hi)
    have harrivals : m.arrivals = [] := by
      unfold Move.arrivals
      split
      · cases hi
      · rfl
    rw [htakes, none_taken, hd, ha]
    rwa [harrivals] at h
  | true =>
    rcases Move.inbound_cases hi with rfl | rfl | ⟨arrivals, rfl⟩ | rfl
    · rw [takes?_of_ne (m := .startDispatcher) nofun, none_taken]
      have h : Position c.config s e c.dispatcher fs (c.arrivals ++ more) := h
      cases hd : c.dispatcher with
      | idle =>
        have happly : (c.apply .startDispatcher).1 = { c with dispatcher := .reading .start } := by
          simp only [apply, hd]
        rw [happly]
        dsimp only
        rw [hd] at h
        generalize c.arrivals ++ more = left at h
        cases h with
        | idle hpieces =>
          refine .reading (Reader.absorb_nil Reader.partial_start) ?_
          rw [List.nil_append, List.nil_append, hpieces]
      | _ => simpa only [apply, hd] using h
    · rw [takes?_of_ne (m := .drop .dispatcher) nofun, none_taken]
      have h : Position c.config s e c.dispatcher fs (c.arrivals ++ more) := h
      show Position _ _ _ (c.dropAgent .dispatcher).1.dispatcher fs
        ((c.dropAgent .dispatcher).1.arrivals ++ more)
      rcases dropAgent_dispatcher c with hsame | ⟨-, hdropped⟩
      · rwa [hsame]
      · rw [hdropped]
        exact .dropped (first_of_position h)
    · rw [takes?_of_ne (m := .arrive arrivals) nofun, none_taken]
      show Position _ _ _ c.dispatcher fs (c.arrivals ++ arrivals ++ more)
      rwa [List.append_assoc]
    · exact position_step h

theorem arrived_concat (ms : List Move) (m : Move) :
    arrived (ms ++ [m]) = arrived ms ++ m.arrivals := by
  rw [arrived, List.flatMap_append, List.flatMap_singleton]
  rfl

theorem position_after (config : Config) (identifiers : Chap.IdentifierSequence)
    {pieces : List Octets} (hpieces : pieces.flatten = s) {ms : List Move}
    (h : arrived ms ++ more = pieces.map .octets ++ [e.arrival]) :
    Position config s e ((fresh config identifiers).after ms).dispatcher
      (taken (fresh config identifiers) ms)
      (((fresh config identifiers).after ms).arrivals ++ more) := by
  induction ms using List.reverseRecOn generalizing more with
  | nil =>
    have hmore : more = pieces.map .octets ++ [e.arrival] := h
    rw [hmore]
    exact .idle hpieces
  | append_singleton ms m ih =>
    rw [arrived_concat, List.append_assoc] at h
    rw [after_concat, taken, gather_concat]
    have hconfig : ((fresh config identifiers).after ms).config = config := config_after _ ms
    exact position_apply hconfig m (ih h)

/-! ## To the end -/

/-- When the whole stream has arrived, the dispatcher needs no more to come to its end. -/
theorem reading_ends {held : Octets} {pieces : List Octets} (hd : c.dispatcher = .reading r)
    (hheld : Reader.start.absorb c.config.maxBodyLength held = (.waiting r, []))
    (ha : c.arrivals = pieces.map .octets ++ [e.arrival]) :
    ∃ k told result,
      (c.after (List.replicate k (.step .dispatcher))).dispatcher = .ending .mark told result := by
  -- each packet that is taken leaves a shorter stream
  generalize hn : (held ++ pieces.flatten).length = n
  induction n using Nat.strongRecOn generalizing c r held pieces with
  | ind n ih =>
    have hne : c.arrivals ≠ [] := by
      rw [ha]
      exact List.append_ne_nil_of_right_ne_nil _ (List.cons_ne_nil _ _)
    have hall : c.arrivals ++ [] = pieces.map .octets ++ [e.arrival] := by rw [List.append_nil, ha]
    have hfound := Reader.nextFrame_found hheld hall
    generalize hnext : r.nextFrame c.config.maxBodyLength c.arrivals = next at hfound
    cases hfound with
    | waits _ _ hmore _ =>
      exact absurd hmore.symm (List.append_ne_nil_of_right_ne_nil _ (List.cons_ne_nil _ _))
    | @packet f rest pieces' hrest hpacket =>
      cases hstops : f.stops c.config with
      | true =>
        refine ⟨1, .unexpectedType .accounting, .error (.unexpectedType .accounting), ?_⟩
        exact congrArg Connection.dispatcher (apply_read_stops hd hne hnext hstops)
      | false =>
        have hstep := apply_read_goesOn hd hne hnext hstops
        have hless : ([] ++ pieces'.flatten).length < n := hn ▸ length_lt_of_found hpacket
        rw [List.append_nil] at hrest
        obtain ⟨k, told, result, hk⟩ := ih _ hless (c := (c.apply (.step .dispatcher)).1)
          (r := .start) (by rw [hstep]) (Reader.absorb_nil Reader.partial_start)
          (by rw [hstep]; exact hrest) rfl
        exact ⟨k + 1, told, result, hk⟩
    | ended _ =>
      refine ⟨1, toldOf (.ok ()), .ok (), ?_⟩
      exact congrArg (·.1.dispatcher) (apply_read_stop hd hne hnext (.inl ⟨rfl, rfl⟩))
    | @failed failure _ _ =>
      refine ⟨1, toldOf (.error failure), .error failure, ?_⟩
      exact congrArg (·.1.dispatcher) (apply_read_stop hd hne hnext (.inr ⟨_, rfl, rfl⟩))

theorem failing_alone {told : Failure} {ids : List SessionId}
    (hd : c.dispatcher = .ending (.fail ids) told result) :
    c.after (List.replicate (ids.length + 1) (.step .dispatcher))
      = { c with
          registry := ids.foldl (fun r id => r.settle id (.error told)) c.registry
          dispatcher := .finished result } := by
  induction ids generalizing c with
  | nil => exact apply_through hd
  | cons id ids ih =>
    have hstep := apply_fail hd
    show (c.apply (.step .dispatcher)).1.after
      (List.replicate (ids.length + 1) (.step .dispatcher)) = _
    rw [ih (c := (c.apply (.step .dispatcher)).1) (by rw [hstep]), hstep]
    rfl

/-- **To stop is to set the closed mark and to fail all**, if nobody else comes between. -/
theorem ending_alone {told : Failure} (hd : c.dispatcher = .ending .mark told result) :
    c.after (List.replicate (c.registry.ids.length + 3) (.step .dispatcher))
      = { c with
          closed := true
          registry := c.registry.failAll told
          dispatcher := .finished result } := by
  have hmark := apply_mark hd
  have hcollect := apply_collect (c := { c with
    closed := true, dispatcher := .ending .collect told result }) rfl
  show ((c.apply (.step .dispatcher)).1.apply (.step .dispatcher)).1.after
    (List.replicate (c.registry.ids.length + 1) (.step .dispatcher)) = _
  rw [hmark, hcollect, failing_alone rfl]
  rfl

theorem ending_finishes {stage : EndStage} {told : Failure}
    (hd : c.dispatcher = .ending stage told result) :
    ∃ k, (c.after (List.replicate k (.step .dispatcher))).dispatcher = .finished result := by
  match stage with
  | .mark => exact ⟨_, congrArg Connection.dispatcher (ending_alone hd)⟩
  | .collect =>
    have hcollect := apply_collect hd
    refine ⟨(c.registry.ids.length + 1) + 1, ?_⟩
    show ((c.apply (.step .dispatcher)).1.after
      (List.replicate (c.registry.ids.length + 1) (.step .dispatcher))).dispatcher = _
    rw [hcollect, failing_alone rfl]
  | .fail ids => exact ⟨_, congrArg Connection.dispatcher (failing_alone hd)⟩

/-! ## Whoever settles an exchange -/

/-- An exchange is settled with one of these moves: by the dispatcher, with what exchanges
are told, or by somebody else. -/
def SettledIn (c : Connection) (ms : List Move) (t : Ticket) (told : Failure) : Prop :=
  ∃ before m later x x', ms = before ++ m :: later ∧
    (c.after before).registry.exchanges[t]? = some x ∧ x.stands = true ∧
    (c.after (before ++ [m])).registry.exchanges[t]? = some x' ∧ x'.stands = false ∧
    (m = .step .dispatcher → x' = x.settle (.error told))

/-- The dispatcher has still to settle the exchanges of this session. -/
def Doomed (id : SessionId) (told : Failure) (result : Except Failure Unit) :
    DispatcherPhase → Prop
  | .ending stage told' result' =>
    told' = told ∧ result' = result ∧ ∀ ids, stage = .fail ids → id ∈ ids
  | _ => False

/-- While an exchange stands under the id of a session that is doomed, the dispatcher gets
nearer to it with every step of its own, until it is settled. -/
theorem doomed_apply {t : Ticket} {x x' : Exchange} {told : Failure} (m : Move)
    (hd : Doomed x.session told result c.dispatcher) (hx : c.registry.exchanges[t]? = some x)
    (hs : x.stands = true) (hx' : (c.apply m).1.registry.exchanges[t]? = some x') :
    (x'.stands = true → x'.session = x.session ∧
        Doomed x.session told result (c.apply m).1.dispatcher) ∧
      (x'.stands = false → m = .step .dispatcher → x' = x.settle (.error told)) := by
  have hsame : x'.stands = true → x'.session = x.session := by
    intro hs'
    obtain ⟨x'', hx'', hid⟩ := extends_apply c m t x hx
    obtain rfl := Option.some.inj (hx'.symm.trans hx'')
    exact hid
  by_cases hm : m = .step .dispatcher
  · subst hm
    cases hphase : c.dispatcher with
    | ending stage told' result' =>
      rw [hphase] at hd
      obtain ⟨rfl, rfl, hids⟩ := hd
      match stage with
      | .mark =>
        rw [apply_mark hphase] at hx' ⊢
        obtain rfl := Option.some.inj (hx.symm.trans hx')
        exact ⟨fun _ => ⟨rfl, rfl, rfl, nofun⟩, fun hn => nomatch hs.symm.trans hn⟩
      | .collect =>
        rw [apply_collect hphase] at hx' ⊢
        obtain rfl := Option.some.inj (hx.symm.trans hx')
        refine ⟨fun _ => ⟨rfl, rfl, rfl, ?_⟩, fun hn => nomatch hs.symm.trans hn⟩
        rintro ids ⟨⟩
        exact Registry.mem_ids hx hs
      | .fail [] => exact absurd (hids [] rfl) List.not_mem_nil
      | .fail (id :: ids) =>
        rw [apply_fail hphase] at hx' ⊢
        have hmap := Registry.getElem?_settle c.registry id (.error told') t
        rw [hx, Option.map_some] at hmap
        obtain rfl := Option.some.inj (hx'.symm.trans hmap)
        by_cases hid : x.session = id
        · rw [if_pos hid]
          refine ⟨fun hn => ?_, fun _ _ => rfl⟩
          exact nomatch (Exchange.stands_settle _ _).symm.trans hn
        · rw [if_neg hid]
          refine ⟨fun _ => ⟨rfl, rfl, rfl, ?_⟩, fun hn => nomatch hs.symm.trans hn⟩
          rintro ids' ⟨⟩
          exact (List.mem_cons.1 (hids _ rfl)).resolve_left hid
    | _ => rw [hphase] at hd; exact hd.elim
  · refine ⟨fun hs' => ⟨hsame hs', ?_⟩, fun _ h => absurd h hm⟩
    cases hphase : c.dispatcher with
    | ending stage told' result' => rwa [dispatcher_apply_of_ending hphase hm]
    | _ => rw [hphase] at hd; exact hd.elim

/-- **Every exchange that stands when the dispatcher stops is settled**, by the dispatcher
unless somebody else is faster, and before the dispatcher is through. -/
theorem settled_by_ending {t : Ticket} {x : Exchange} {told : Failure} {ms : List Move}
    (hd : Doomed x.session told result c.dispatcher) (hx : c.registry.exchanges[t]? = some x)
    (hs : x.stands = true) (hend : (c.after ms).dispatcher.stage? = some none) :
    SettledIn c ms t told := by
  -- until it is settled, it stands, and the dispatcher is on its way to it
  have key : ∀ ms, SettledIn c ms t told ∨
      ∃ x', (c.after ms).registry.exchanges[t]? = some x' ∧ x'.stands = true ∧
        Doomed x'.session told result (c.after ms).dispatcher := by
    intro ms
    induction ms using List.reverseRecOn with
    | nil => exact .inr ⟨x, hx, hs, hd⟩
    | append_singleton ms m ih =>
      rcases ih with ⟨before, m', later, x, x', rfl, h⟩ | ⟨x₀, hx₀, hs₀, hd₀⟩
      · exact .inl ⟨before, m', later ++ [m], x, x', by simp, h⟩
      · obtain ⟨x', hx', -⟩ := extends_apply (c.after ms) m t x₀ hx₀
        obtain ⟨hstands, hsettled⟩ := doomed_apply m hd₀ hx₀ hs₀ hx'
        rw [← after_concat] at hx' hstands
        cases hs' : x'.stands with
        | true =>
          obtain ⟨hid, hd'⟩ := hstands hs'
          exact .inr ⟨x', hx', hs', hid ▸ hd'⟩
        | false => exact .inl ⟨ms, m, [], x₀, x', rfl, hx₀, hs₀, hx', hs', hsettled hs'⟩
  rcases key ms with h | ⟨x', -, -, hd'⟩
  · exact h
  · generalize (c.after ms).dispatcher = d at hd' hend
    cases d with
    | ending => cases hend
    | _ => exact hd'.elim

/-! ## Why the dispatcher stops -/

/-- How the dispatcher fares in a run in which a stream arrives, up to what is still to
come. -/
structure Fares (config : Config) (identifiers : Chap.IdentifierSequence) (s : Octets)
    (e : StreamEnd) (ms : List Move) (more : List Arrival) : Prop where
  /-- It takes the packets of the stream in order. -/
  order : taken (fresh config identifiers) ms <+: (course config e s).1
  /-- It goes on behind each packet that is no accounting packet, or hidden where it must
  not be or open where it must not be, whatever its body is. -/
  goesOn : ∀ before later f, ms = before ++ .step .dispatcher :: later →
    ((fresh config identifiers).after before).nextFrame? = some f →
    f.header.type ≠ .accounting ∨ f.header.flags.unencrypted ≠ config.unencrypted →
    ((fresh config identifiers).after (before ++ [.step .dispatcher])).dispatcher
        = .reading .start ∧
      ((fresh config identifiers).after (before ++ [.step .dispatcher])).registry
        = ((fresh config identifiers).after before).registry.settle f.session (f.outcome config)
  /-- When it stops, it has taken all packets, and it stops for the reason there is. -/
  stops : ∀ stage told result,
    ((fresh config identifiers).after ms).dispatcher = .ending stage told result →
    course config e s = (taken (fresh config identifiers) ms, result) ∧ told = toldOf result
  /-- This is also its result, and the connection is closed by then. -/
  returns : ∀ result, ((fresh config identifiers).after ms).dispatcher = .finished result →
    course config e s = (taken (fresh config identifiers) ms, result) ∧
      ((fresh config identifiers).after ms).closed = true
  /-- When everything has arrived, nothing keeps it from its end but being called off. -/
  ends : more = [] → ((fresh config identifiers).after ms).dispatcher ≠ .idle →
    ((fresh config identifiers).after ms).dispatcher ≠ .dropped →
    ∃ k, ((fresh config identifiers).after (ms ++ List.replicate k (.step .dispatcher))).dispatcher
      = .finished (course config e s).2
  /-- What it does when it stops, if nobody comes between: -/
  alone : ∀ told result,
    ((fresh config identifiers).after ms).dispatcher = .ending .mark told result →
    ∃ k, (fresh config identifiers).after (ms ++ List.replicate k (.step .dispatcher))
      = { (fresh config identifiers).after ms with
          closed := true
          registry := ((fresh config identifiers).after ms).registry.failAll told
          dispatcher := .finished result }
  /-- If others come between, every exchange that stands when it stops, or when it collects those
  that stand, is settled all the same. -/
  settles : ∀ before later stage told result, ms = before ++ later →
    ((fresh config identifiers).after before).dispatcher = .ending stage told result →
    stage = .mark ∨ stage = .collect →
    ((fresh config identifiers).after ms).dispatcher = .finished result →
    ∀ (t : Ticket) x, ((fresh config identifiers).after before).registry.exchanges[t]? = some x →
      x.stands = true → SettledIn ((fresh config identifiers).after before) later t told

section

variable {config : Config} {identifiers : Chap.IdentifierSequence} {ms : List Move}

theorem goesOn_after {f : Frame}
    (hf : ((fresh config identifiers).after ms).nextFrame? = some f)
    (h : f.header.type ≠ .accounting ∨ f.header.flags.unencrypted ≠ config.unencrypted) :
    ((fresh config identifiers).after (ms ++ [.step .dispatcher])).dispatcher = .reading .start ∧
      ((fresh config identifiers).after (ms ++ [.step .dispatcher])).registry
        = ((fresh config identifiers).after ms).registry.settle f.session (f.outcome config) := by
  have hconfig : ((fresh config identifiers).after ms).config = config := config_after _ ms
  have hstops : f.stops ((fresh config identifiers).after ms).config = false := by
    rw [hconfig]
    refine Bool.eq_false_iff.2 fun hs => ?_
    obtain ⟨htype, hflag⟩ := Frame.stops_iff.1 hs
    rcases h with hn | hn
    · exact hn htype
    · exact hn hflag
  obtain ⟨r, rest, hd, ha, hnext⟩ := nextFrame?_eq_some hf
  rw [after_concat, apply_read_goesOn hd ha hnext hstops]
  exact ⟨rfl, congrArg (fun c => Registry.settle _ _ (f.outcome c)) hconfig⟩

theorem ends_after {pieces : List Octets}
    (h : arrived ms ++ [] = pieces.map .octets ++ [e.arrival])
    (hidle : ((fresh config identifiers).after ms).dispatcher ≠ .idle)
    (hdropped : ((fresh config identifiers).after ms).dispatcher ≠ .dropped) :
    ∃ k, ((fresh config identifiers).after (ms ++ List.replicate k (.step .dispatcher))).dispatcher
      = .finished (course config e pieces.flatten).2 := by
  -- the result is that of the stream, wherever the dispatcher ends
  have suffices_finished : (∃ k result,
      ((fresh config identifiers).after (ms ++ List.replicate k (.step .dispatcher))).dispatcher
        = .finished result) →
      ∃ k,
        ((fresh config identifiers).after (ms ++ List.replicate k (.step .dispatcher))).dispatcher
          = .finished (course config e pieces.flatten).2 := by
    rintro ⟨k, result, hk⟩
    have hnothing : arrived (List.replicate k (.step .dispatcher)) = [] := by
      rw [arrived, List.flatMap_eq_nil_iff]
      intro m hm
      rw [List.eq_of_mem_replicate hm]
      rfl
    have hall : arrived (ms ++ List.replicate k (.step .dispatcher)) ++ []
        = pieces.map .octets ++ [e.arrival] := by
      rw [← h, arrived, List.flatMap_append, ← arrived, ← arrived, hnothing, List.append_nil]
    have hposition := position_after config identifiers rfl hall
    rw [hk] at hposition
    cases hposition with
    | finished hcourse => exact ⟨k, by rw [hk, hcourse]⟩
  refine suffices_finished ?_
  have hconfig : ((fresh config identifiers).after ms).config = config := config_after _ ms
  have hposition := position_after config identifiers rfl h
  rw [List.append_nil] at hposition
  generalize hc : (fresh config identifiers).after ms = c at *
  generalize hd : c.dispatcher = d at hposition
  generalize ha : c.arrivals = left at hposition
  generalize taken (fresh config identifiers) ms = fs at hposition
  cases hposition with
  | idle _ => exact absurd hd hidle
  | dropped _ => exact absurd hd hdropped
  | finished _ => exact ⟨0, _, by rw [List.replicate_zero, List.append_nil, hc]; exact hd⟩
  | ending _ =>
    obtain ⟨k, hk⟩ := ending_finishes hd
    exact ⟨k, _, by rw [after_append, hc]; exact hk⟩
  | reading hheld _ =>
    obtain ⟨k, told, result, hk⟩ := reading_ends hd (hconfig ▸ hheld) ha
    obtain ⟨k', hk'⟩ := ending_finishes hk
    refine ⟨k + k', result, ?_⟩
    rw [← List.replicate_append_replicate, after_append, hc, after_append]
    exact hk'

/-- **The dispatcher stops for one of the reasons there are.**  Whatever arrives, in pieces
of any size, and whatever goes on besides, it takes the packets of the stream in order and
stops for the first reason that `course` finds: the end of the stream, a fault, a header
that is unknown or claims too much, or an accounting packet.  Nothing else stops it, and
when it stops, the connection is closed and everything that stands is settled.  A header
is unknown by its version or its type. -/
theorem stops_as_documented (config : Config) (identifiers : Chap.IdentifierSequence)
    {e : StreamEnd} {ms : List Move} {more : List Arrival} {pieces : List Octets}
    (h : arrived ms ++ more = pieces.map .octets ++ [e.arrival]) :
    Fares config identifiers pieces.flatten e ms more ∧
      ∀ (v t : UInt8) (rest : Octets), rest.length = 10 →
        (Header.decode (v :: t :: rest) = .error .malformedHeader ↔
          ¬((v = 0xC0 ∨ v = 0xC1) ∧ (t = 1 ∨ t = 2 ∨ t = 3))) := by
  have hposition := position_after config identifiers rfl h
  have hpromising := promising_after config identifiers ms
  refine ⟨⟨first_of_position hposition, ?_, ?_, ?_, ?_, ?_, ?_⟩,
    fun v t rest => Header.decode_error_iff⟩
  · rintro before later f rfl hf hgoesOn
    exact goesOn_after hf hgoesOn
  · intro stage told result hd
    rw [hd] at hposition
    generalize ((fresh config identifiers).after ms).arrivals ++ more = left at hposition
    cases hposition with
    | ending hcourse => exact ⟨hcourse, rfl⟩
  · intro result hd
    have hclosed := hpromising.dispatcher none (by rw [hd]; rfl)
    rw [hd] at hposition
    generalize ((fresh config identifiers).after ms).arrivals ++ more = left at hposition
    cases hposition with
    | finished hcourse => exact ⟨hcourse, hclosed.1⟩
  · rintro rfl hidle hdropped
    exact ends_after h hidle hdropped
  · intro told result hd
    exact ⟨_, by rw [after_append, ending_alone hd]⟩
  · rintro before later stage told result rfl hd hstage hend t x hx hs
    have hdoomed : Doomed x.session told result
        ((fresh config identifiers).after before).dispatcher := by
      rw [hd]
      refine ⟨rfl, rfl, ?_⟩
      rintro ids rfl
      rcases hstage with h | h
      · cases h
      · cases h
    rw [after_append] at hend
    exact settled_by_ending hdoomed hx hs (by rw [hend]; rfl)

end

/-- The pieces of a stream: a packet that is no reply, for a session that nobody knows, and
a header that claims more than is read. -/
def oversized : List Octets :=
  [[0xC1, 1, 2, 1, 0, 0, 0, 9, 0, 0, 0, 3, 1, 2, 3, 0xC0, 1],
    [2, 1, 0, 0, 0, 7, 0, 1, 0, 1]]

/-- The stream arrives while a session waits. -/
def oversizedRun : List Move :=
  [.openSession [7] {} none, .callSession 0 (.pap "alice" "sesame"), .step (.session 0),
    .startDispatcher, .arrive [.octets [0xC1, 1, 2, 1, 0, 0, 0, 9, 0, 0, 0, 3, 1, 2, 3, 0xC0, 1]],
    .step .dispatcher, .arrive [.octets [2, 1, 0, 0, 0, 7, 0, 1, 0, 1], .ended]]
    ++ List.replicate 5 (.step .dispatcher)

/-- The packet that cannot be read goes by.  The header stops the dispatcher, and under the
same name the session fails. -/
theorem stops_as_documented_oversized :
    Fares {} ⟨0⟩ oversized.flatten .ended oversizedRun [] ∧
      taken (fresh {} ⟨0⟩) oversizedRun = [⟨⟨.one, .authentication, 2, ⟨1⟩, 9⟩, [1, 2, 3]⟩] ∧
      .dispatcherOver (.error .corruptPacket) ∈ ((fresh {} ⟨0⟩).run oversizedRun).2 ∧
      ((fresh {} ⟨0⟩).after oversizedRun).registry.exchanges
        = [⟨7, .settled (.error .corruptPacket)⟩] := by
  have h : arrived oversizedRun ++ [] = oversized.map .octets ++ [StreamEnd.ended.arrival] := by
    decide
  exact ⟨(stops_as_documented {} ⟨0⟩ h).1, by decide +kernel, by decide +kernel, by decide +kernel⟩

end Connection

end Tacacs
