/-
# `Tacacs.Proofs.Connection.Twins` — connections that differ on the receiving side

Two connections are *twins* if they differ only in what has arrived and in how far it was
read.  Nobody but the dispatcher looks at that, so all other moves keep twins
(`twin_apply`).  The dispatchers of twins may need different numbers of steps to come to
something: a step that completes no packet is of no concern to the other
(`twin_of_reads`).

A packet that is hidden where it must not be, or open where it must not be, fails the
exchange of its session, and its body is not looked into (`apply_read_mismatched`).  So
twins that read streams which differ in such bodies only stay twins.  Each dispatcher
takes the packets of its stream in order; if both have taken as many, the next ones are
alike (`found_like`), and twins that take them do the same (`twin_goesOn`).
-/
import Tacacs.Proofs.Connection.ArrivalOrder
import Tacacs.Proofs.Connection.Stopping
import Mathlib.Data.List.Forall2

namespace Tacacs

/-! ## Packets that differ in such bodies -/

/-- Packets with one header, whose bodies are the same or are not looked into. -/
structure Frame.Like (config : Config) (f f' : Frame) : Prop where
  header : f.header = f'.header
  body : f.body = f'.body ∨ f.mismatched config = true

namespace Frame

variable {config : Config} {f f' : Frame}

theorem like_self (config : Config) (f : Frame) : f.Like config f :=
  ⟨rfl, .inl rfl⟩

theorem like_cases (h : f.Like config f') :
    f = f' ∨ f.mismatched config = true ∧ f'.mismatched config = true := by
  obtain ⟨hheader, hbody | hmismatched⟩ := h
  · cases f
    cases f'
    exact .inl (congr (congrArg Frame.mk hheader) hbody)
  · refine .inr ⟨hmismatched, ?_⟩
    rwa [mismatched, ← hheader]

theorem stops_like (h : f.Like config f') : f.stops config = f'.stops config := by
  rcases like_cases h with rfl | ⟨hm, hm'⟩
  · rfl
  · rw [(outcome_of_mismatched hm).2.2, (outcome_of_mismatched hm').2.2]

end Frame

/-! ## Streams that differ in such bodies -/

theorem found_octets {limit : UInt32} {e : StreamEnd} {f : Frame}
    (h : f.body.length ≤ limit.toNat) (rest : Octets) :
    found limit e (f.octets ++ rest) = .packet f rest := by
  rw [← Reader.conclude_absorb, absorb_frame h]
  rfl

/-- The octets of packets, one after the other, and what comes behind them. -/
def streamOfFrames (fs : List Frame) (tail : Octets) : Octets :=
  (fs.map Frame.octets).flatten ++ tail

/-- Courses that are told apart by bodies that are not looked into. -/
def CoursesLike (config : Config) (a b : List Frame × Except Failure Unit) : Prop :=
  List.Forall₂ (Frame.Like config) a.1 b.1 ∧ a.2 = b.2

theorem course_like {config : Config} {fs fs' : List Frame}
    (h : List.Forall₂ (Frame.Like config) fs fs')
    (hfit : ∀ f ∈ fs, f.body.length ≤ config.maxBodyLength.toNat)
    (hfit' : ∀ f ∈ fs', f.body.length ≤ config.maxBodyLength.toNat) (tail : Octets)
    (e : StreamEnd) :
    CoursesLike config (course config e (streamOfFrames fs tail))
      (course config e (streamOfFrames fs' tail)) := by
  induction h with
  | nil => exact ⟨List.forall₂_same.2 fun f _ => f.like_self config, rfl⟩
  | @cons f f' fs fs' hf _ ih =>
    have hrest := ih (fun f hf => hfit f (List.mem_cons_of_mem _ hf))
      (fun f hf => hfit' f (List.mem_cons_of_mem _ hf))
    have hjoin (f : Frame) (fs : List Frame) :
        streamOfFrames (f :: fs) tail = f.octets ++ streamOfFrames fs tail := by
      rw [streamOfFrames, List.map_cons, List.flatten_cons, List.append_assoc]
      rfl
    rw [hjoin, hjoin, course_of_packet (found_octets (hfit f List.mem_cons_self) _),
      course_of_packet (found_octets (hfit' f' List.mem_cons_self) _), Frame.stops_like hf]
    split
    · exact ⟨.cons hf .nil, rfl⟩
    · exact ⟨.cons hf hrest.1, hrest.2⟩

/-- Streams with like courses begin with like packets, or stop with the same result. -/
theorem found_like {config : Config} {e : StreamEnd} {s s' : Octets}
    (h : CoursesLike config (course config e s) (course config e s')) :
    (∃ f f' rest rest', found config.maxBodyLength e s = .packet f rest ∧
        found config.maxBodyLength e s' = .packet f' rest' ∧ f.Like config f') ∨
      ∃ result, found config.maxBodyLength e s = .stop result ∧
        found config.maxBodyLength e s' = .stop result := by
  -- where a packet is found it is the first, and otherwise there is none
  have first : ∀ {s f rest}, found config.maxBodyLength e s = .packet f rest →
      ∃ fs, (course config e s).1 = f :: fs := by
    intro s f rest hfound
    rw [course_of_packet hfound]
    split
    · exact ⟨[], rfl⟩
    · exact ⟨_, rfl⟩
  cases hs : found config.maxBodyLength e s with
  | packet f rest =>
    obtain ⟨fs, hfs⟩ := first hs
    cases hs' : found config.maxBodyLength e s' with
    | packet f' rest' =>
      obtain ⟨fs', hfs'⟩ := first hs'
      have hall := h.1
      rw [hfs, hfs'] at hall
      exact .inl ⟨f, f', rest, rest', rfl, rfl, (List.forall₂_cons.1 hall).1⟩
    | stop result =>
      have hall := h.1
      rw [hfs, course_of_stop hs'] at hall
      cases hall
  | stop result =>
    cases hs' : found config.maxBodyLength e s' with
    | packet f' rest' =>
      obtain ⟨fs', hfs'⟩ := first hs'
      have hall := h.1
      rw [hfs', course_of_stop hs] at hall
      cases hall
    | stop result' =>
      have hresult := h.2
      rw [course_of_stop hs, course_of_stop hs'] at hresult
      exact .inr ⟨result, rfl, congrArg Found.stop (Eq.symm hresult)⟩

theorem Reader.finds_cases {limit : UInt32} {e : StreamEnd} {whole : Octets} {more : List Arrival}
    {next : Progress × List Arrival} (h : Finds limit e whole more next)
    (hdone : ∀ r, next.1 ≠ .waiting r) :
    (∃ f rest left, next = (.frame f, rest) ∧ found limit e whole = .packet f left) ∨
      ∃ progress rest result, next = (progress, rest) ∧
        (progress = .ended ∧ result = .ok () ∨
          ∃ failure, progress = .failed failure ∧ result = .error failure) ∧
        found limit e whole = .stop result := by
  cases h with
  | waits _ _ _ _ => exact absurd rfl (hdone _)
  | packet _ hfound => exact .inl ⟨_, _, _, rfl, hfound⟩
  | ended hfound => exact .inr ⟨_, _, _, rfl, .inl ⟨rfl, rfl⟩, hfound⟩
  | failed hfound => exact .inr ⟨_, _, _, rfl, .inr ⟨_, rfl, rfl⟩, hfound⟩

/-- What can be seen of a step, but for the notices that something has come in: the length
of a body is no secret, and it stands in the log. -/
def Effect.isSeen : Effect → Bool
  | .woke .dispatcher | .logged (.received ..) => false
  | _ => true

namespace Connection

variable {c c' : Connection} {config : Config} {f f' : Frame}

/-! ## One packet -/

/-- What is seen of a packet whose body is not looked into, after the notice that it has
come in. -/
def unheard (c : Connection) (h : Header) : List Effect :=
  .logged (.obfuscationMismatch h.session h.flags.unencrypted)
    :: (if (c.registry.awaited? h.session).isSome then [] else [.logged (.unclaimed h.session)])
    ++ c.wake (c.registry.awaited? h.session)

theorem stepFrame_of_mismatched (h : f.mismatched c.config = true) :
    c.stepFrame f =
      ({ c with
          registry := c.registry.settle f.session (.error .corruptPacket)
          dispatcher := .reading .start },
        .logged (.received f.header f.body.length) :: c.unheard f.header) := by
  unfold stepFrame Reception.ofFrame
  rw [if_pos (Frame.mismatched_iff.1 h)]
  dsimp only [Reception.route, unheard]
  split
  · rfl
  · rfl

theorem stepFrame_like (h : f.Like c.config f') :
    (c.stepFrame f).1 = (c.stepFrame f').1 ∧
      (c.stepFrame f).2.filter Effect.isSeen = (c.stepFrame f').2.filter Effect.isSeen := by
  have hheader := h.header
  rcases Frame.like_cases h with rfl | ⟨hm, hm'⟩
  · exact ⟨rfl, rfl⟩
  · rw [stepFrame_of_mismatched hm, stepFrame_of_mismatched hm', Frame.session, Frame.session,
      hheader]
    exact ⟨rfl, rfl⟩

/-- **A packet that is hidden where it must not be, or open where it must not be**, fails
the exchange of its session, and nothing else changes.  Nothing depends on its type or its
body, and the dispatcher is left behind it. -/
theorem apply_read_mismatched {r : Reader} {held rest : Octets} {pieces : List Octets}
    (hd : c.dispatcher = .reading r)
    (hheld : Reader.start.absorb c.config.maxBodyLength held = (.waiting r, []))
    (ha : c.arrivals = pieces.map .octets) (hs : held ++ pieces.flatten = f.octets ++ rest)
    (hfit : f.body.length ≤ c.config.maxBodyLength.toNat)
    (hflag : f.header.flags.unencrypted ≠ c.config.unencrypted) :
    ∃ pieces' : List Octets, pieces'.flatten = rest ∧
      (c.apply (.step .dispatcher)).1 =
        { c with
          registry := c.registry.settle f.header.session (.error .corruptPacket)
          dispatcher := .reading .start
          arrivals := pieces'.map .octets } := by
  have habsorb : r.absorb c.config.maxBodyLength pieces.flatten = (.frame f, rest) := by
    have hall := absorb_frame hfit rest
    rwa [← hs, Reader.absorb_append, hheld] at hall
  obtain ⟨pieces', hpieces', hnext⟩ :=
    Reader.nextFrame_done (Reader.waiting_absorb hheld).2 habsorb nofun []
  rw [List.append_nil, List.append_nil, ← ha] at hnext
  have hne : c.arrivals ≠ [] := by
    intro hnil
    rw [hnil] at hnext
    cases hnext
  obtain ⟨houtcome, hconfirms, hstops⟩ := Frame.outcome_of_mismatched (Frame.mismatched_iff.2 hflag)
  refine ⟨pieces', hpieces', ?_⟩
  rw [apply_read_goesOn hd hne hnext hstops, houtcome, hconfirms, Bool.or_false]
  rfl

/-! ## Twins -/

/-- The dispatchers of two connections are at the same point, or both are reading. -/
def Level (d d' : DispatcherPhase) : Prop :=
  d = d' ∨ ∃ r r', d = .reading r ∧ d' = .reading r'

/-- Connections that differ in what has arrived and in how far it was read. -/
structure Twin (c c' : Connection) : Prop where
  same : c' = c.withInbound c'.dispatcher c'.arrivals
  level : Level c.dispatcher c'.dispatcher

/-- The next step of the dispatcher completes no packet and does not end the connection. -/
def reads (c : Connection) : Bool :=
  match c.dispatcher with
  | .reading r =>
    match (r.nextFrame c.config.maxBodyLength c.arrivals).1 with
    | .waiting _ => true
    | _ => false
  | _ => false

theorem apply_reads (h : c.reads = true) :
    c.nextFrame? = none ∧
      ∃ r r' a, c.dispatcher = .reading r ∧
        c.apply (.step .dispatcher) = (c.withInbound (.reading r') a, []) := by
  unfold reads at h
  split at h
  · rename_i r hd
    split at h
    · rename_i r' hw
      by_cases ha : c.arrivals = []
      · refine ⟨by simp [nextFrame?, hd, ha], r, r, c.arrivals, hd, ?_⟩
        have hnone : c.step .dispatcher = none := by simp [step, stepDispatcher, hd, ha]
        rw [apply_step_of_none hnone, ← hd, withInbound_self]
      · refine ⟨by rw [nextFrame?_of_reading hd ha, hw], r, r',
          (r.nextFrame c.config.maxBodyLength c.arrivals).2, hd, ?_⟩
        refine apply_step_of_some ?_
        simp [step, stepDispatcher, hd, ha, hw, withInbound]
    · cases h
  · cases h

theorem twin_of_reads (h : Twin c c') (hr : c.reads = true) :
    Twin (c.apply (.step .dispatcher)).1 c' := by
  obtain ⟨-, r, r', a, hd, happly⟩ := apply_reads hr
  rw [happly]
  refine ⟨h.same, .inr ?_⟩
  rcases h.level with he | ⟨r₁, r₂, -, hd'⟩
  · exact ⟨r', r, rfl, he ▸ hd⟩
  · exact ⟨r', r₂, rfl, hd'⟩

theorem twin_symm (h : Twin c c') : Twin c' c where
  same := by
    rw [h.same]
    rfl
  level := by
    rcases h.level with he | ⟨r, r', hd, hd'⟩
    · exact .inl he.symm
    · exact .inr ⟨r', r, hd', hd⟩

/-- What is no concern of the receiving side happens to twins in the same way. -/
theorem twin_apply {m : Move} (h : Twin c c') (hm : m.isInbound = false) :
    Twin (c.apply m).1 (c'.apply m).1 ∧ (c.apply m).2 = (c'.apply m).2 := by
  obtain ⟨hd, -⟩ := inbound_apply c hm
  obtain ⟨hd', -⟩ := inbound_apply c' hm
  have happly := apply_withInbound c c'.dispatcher c'.arrivals hm
  rw [← h.same] at happly
  refine ⟨⟨?_, ?_⟩, by rw [happly]⟩
  · rw [happly]
    rfl
  · rw [hd, hd']
    exact h.level

theorem twin_of_rule {m : Move} (h : Twin c c') (next : DispatcherPhase → DispatcherPhase)
    (hlevel : ∀ {d d'}, Level d d' → Level (next d) (next d'))
    (happly : ∀ c : Connection, (c.apply m).1 = { c with dispatcher := next c.dispatcher }) :
    Twin (c.apply m).1 (c'.apply m).1 := by
  rw [happly, happly]
  refine ⟨?_, hlevel h.level⟩
  rw [h.same]
  rfl

/-- Where a dispatcher stands after it was to be started. -/
def afterStart : DispatcherPhase → DispatcherPhase
  | .idle => .reading .start
  | d => d

theorem twin_start (h : Twin c c') :
    Twin (c.apply .startDispatcher).1 (c'.apply .startDispatcher).1 := by
  refine twin_of_rule h afterStart ?_ ?_
  · rintro d d' (rfl | ⟨r, r', rfl, rfl⟩)
    · exact .inl rfl
    · exact .inr ⟨r, r', rfl, rfl⟩
  · intro c
    cases hd : c.dispatcher with
    | idle => simp only [apply, hd, afterStart]
    | _ =>
      simp only [apply, hd, afterStart]
      rw [← hd]

/-- Where a dispatcher stands after it was to be called off. -/
def afterDrop : DispatcherPhase → DispatcherPhase
  | .reading _ | .finished _ => .dropped
  | d => d

theorem twin_drop (h : Twin c c') :
    Twin (c.apply (.drop .dispatcher)).1 (c'.apply (.drop .dispatcher)).1 := by
  refine twin_of_rule h afterDrop ?_ ?_
  · rintro d d' (rfl | ⟨r, r', rfl, rfl⟩)
    · exact .inl rfl
    · exact .inl rfl
  · intro c
    cases hd : c.dispatcher with
    | reading r => simp [apply, dropAgent, started, canStop, hd, afterDrop]
    | finished result => simp [apply, dropAgent, started, canStop, hd, afterDrop]
    | _ =>
      simp only [apply, dropAgent, started, canStop, hd, afterDrop]
      simp [← hd]

theorem stepFrame_withInbound (c : Connection) (d : DispatcherPhase) (a : List Arrival)
    (f : Frame) :
    (c.withInbound d a).stepFrame f =
      ((c.stepFrame f).1.withInbound (c.stepFrame f).1.dispatcher a, (c.stepFrame f).2) := by
  cases hfatal : (Reception.ofFrame c.config c.registry c.established f).fatal with
  | none =>
    have hfatal' : (Reception.ofFrame (c.withInbound d a).config (c.withInbound d a).registry
        (c.withInbound d a).established f).fatal = none := hfatal
    simp only [stepFrame, hfatal, hfatal']
    rfl
  | some e =>
    have hfatal' : (Reception.ofFrame (c.withInbound d a).config (c.withInbound d a).registry
        (c.withInbound d a).established f).fatal = some e := hfatal
    simp only [stepFrame, hfatal, hfatal']
    rfl

theorem twin_step (h : Twin c c') (hd : ∀ r, c.dispatcher ≠ .reading r) :
    Twin (c.apply (.step .dispatcher)).1 (c'.apply (.step .dispatcher)).1 ∧
      (c.apply (.step .dispatcher)).2 = (c'.apply (.step .dispatcher)).2 := by
  have hsame : c'.dispatcher = c.dispatcher := by
    rcases h.level with he | ⟨r, r', hr, -⟩
    · exact he.symm
    · exact absurd hr (hd r)
  have hc' := h.same
  rw [hsame] at hc'
  generalize c'.arrivals = a at hc'
  subst hc'
  suffices hstep : (c.withInbound c.dispatcher a).step .dispatcher
      = (c.step .dispatcher).map fun p => (p.1.withInbound p.1.dispatcher a, p.2) by
    cases hnext : c.step .dispatcher with
    | none =>
      rw [hnext] at hstep
      rw [apply_step_of_none hnext, apply_step_of_none hstep]
      exact ⟨⟨rfl, .inl rfl⟩, rfl⟩
    | some p =>
      rw [hnext] at hstep
      rw [apply_step_of_some hnext, apply_step_of_some hstep]
      exact ⟨⟨rfl, .inl rfl⟩, rfl⟩
  show (c.withInbound c.dispatcher a).stepDispatcher = c.stepDispatcher.map _
  cases hphase : c.dispatcher with
  | idle => simp only [stepDispatcher, withInbound, hphase, Option.map_none]
  | reading r => exact absurd hphase (hd r)
  | ending stage told result =>
    have hphase' : (c.withInbound (.ending stage told result) a).dispatcher
        = .ending stage told result := rfl
    simp only [stepDispatcher, hphase, hphase', endStep_withInbound]
    cases stage with
    | mark => rfl
    | collect => rfl
    | fail ids => cases ids <;> rfl
  | finished result => simp only [stepDispatcher, withInbound, hphase, Option.map_none]
  | dropped => simp only [stepDispatcher, withInbound, hphase, Option.map_none]

/-- Where like packets are at the front of the streams, twins take them at the same time and
in the same way. -/
theorem twin_takes {r r' : Reader} {rest rest' : List Arrival} (h : Twin c c')
    (hd : c.dispatcher = .reading r) (hd' : c'.dispatcher = .reading r')
    (ha : c.arrivals ≠ []) (ha' : c'.arrivals ≠ [])
    (hnext : r.nextFrame c.config.maxBodyLength c.arrivals = (.frame f, rest))
    (hnext' : r'.nextFrame c'.config.maxBodyLength c'.arrivals = (.frame f', rest'))
    (hlike : f.Like c.config f') :
    Twin (c.apply (.step .dispatcher)).1 (c'.apply (.step .dispatcher)).1 ∧
      (c.apply (.step .dispatcher)).2.filter Effect.isSeen
        = (c'.apply (.step .dispatcher)).2.filter Effect.isSeen := by
  have hc : ({ c with arrivals := rest } : Connection) = c.withInbound c.dispatcher rest := rfl
  have hc' : ({ c' with arrivals := rest' } : Connection)
      = c.withInbound c'.dispatcher rest' := by
    rw [h.same]
    rfl
  obtain ⟨hstate, heffects⟩ := stepFrame_like hlike
  rw [apply_read_frame hd ha hnext, apply_read_frame hd' ha' hnext', hc, hc',
    stepFrame_withInbound, stepFrame_withInbound, hstate]
  exact ⟨⟨rfl, .inl rfl⟩, heffects⟩

/-- Where the streams come to the same end, twins stop at the same time and in the same
way. -/
theorem twin_stops {r r' : Reader} {rest rest' : List Arrival} {progress progress' : Progress}
    {result : Except Failure Unit} (h : Twin c c')
    (hd : c.dispatcher = .reading r) (hd' : c'.dispatcher = .reading r')
    (ha : c.arrivals ≠ []) (ha' : c'.arrivals ≠ [])
    (hnext : r.nextFrame c.config.maxBodyLength c.arrivals = (progress, rest))
    (hnext' : r'.nextFrame c'.config.maxBodyLength c'.arrivals = (progress', rest'))
    (hstop : progress = .ended ∧ result = .ok () ∨
      ∃ failure, progress = .failed failure ∧ result = .error failure)
    (hstop' : progress' = .ended ∧ result = .ok () ∨
      ∃ failure, progress' = .failed failure ∧ result = .error failure) :
    Twin (c.apply (.step .dispatcher)).1 (c'.apply (.step .dispatcher)).1 ∧
      (c.apply (.step .dispatcher)).2 = (c'.apply (.step .dispatcher)).2 := by
  rw [apply_read_stop hd ha hnext hstop, apply_read_stop hd' ha' hnext' hstop']
  refine ⟨⟨?_, .inl rfl⟩, rfl⟩
  rw [h.same]
  rfl

section

variable {e : StreamEnd} {s s' : Octets} {fs fs' : List Frame} {more more' : List Arrival}

theorem coursesLike_left {t t' : Octets}
    (h : CoursesLike config (course config e s) (course config e s'))
    (hs : course config e s = (fs ++ (course config e t).1, (course config e t).2))
    (hs' : course config e s' = (fs' ++ (course config e t').1, (course config e t').2))
    (hmany : fs.length = fs'.length) :
    CoursesLike config (course config e t) (course config e t') := by
  obtain ⟨hframes, hresult⟩ := h
  rw [hs, hs'] at hframes hresult
  have hdrop := List.forall₂_drop fs.length hframes
  rw [List.drop_left, hmany, List.drop_left] at hdrop
  exact ⟨hdrop, hresult⟩

theorem arrivals_of_not_reads {r : Reader} (hd : c.dispatcher = .reading r)
    (hr : c.reads = false) : c.arrivals ≠ [] := by
  intro hnil
  simp only [reads, hd, hnil] at hr
  cases hr

theorem not_waiting_of_not_reads {r : Reader} (hd : c.dispatcher = .reading r)
    (hr : c.reads = false) (r' : Reader) :
    (r.nextFrame c.config.maxBodyLength c.arrivals).1 ≠ .waiting r' := by
  intro hw
  simp only [reads, hd, hw] at hr
  cases hr

/-- Twins go on in the same way: to twins, with the same to be seen, and with a packet taken or
not. -/
structure GoOnAlike (c c' : Connection) : Prop where
  twin : Twin (c.apply (.step .dispatcher)).1 (c'.apply (.step .dispatcher)).1
  seen : (c.apply (.step .dispatcher)).2.filter Effect.isSeen
    = (c'.apply (.step .dispatcher)).2.filter Effect.isSeen
  taken : c.nextFrame?.toList.length = c'.nextFrame?.toList.length

theorem twin_reading {r r' : Reader} (h : Twin c c') (hd : c.dispatcher = .reading r)
    (hd' : c'.dispatcher = .reading r') (hr : c.reads = false) (hr' : c'.reads = false)
    (hfinds : Reader.Finds c.config.maxBodyLength e s more
      (r.nextFrame c.config.maxBodyLength c.arrivals))
    (hfinds' : Reader.Finds c.config.maxBodyLength e s' more'
      (r'.nextFrame c'.config.maxBodyLength c'.arrivals))
    (hcourses : CoursesLike c.config (course c.config e s) (course c.config e s')) :
    GoOnAlike c c' := by
  have ha := arrivals_of_not_reads hd hr
  have ha' := arrivals_of_not_reads hd' hr'
  rcases found_like hcourses with ⟨f, f', rest, rest', hs, hs', hlike⟩ | ⟨result, hs, hs'⟩
  · obtain ⟨f₁, a, _, hnext, hs₁⟩ | ⟨_, _, _, -, -, hs₁⟩ :=
      Reader.finds_cases hfinds (not_waiting_of_not_reads hd hr)
    · obtain ⟨f₂, a', _, hnext', hs₂⟩ | ⟨_, _, _, -, -, hs₂⟩ :=
        Reader.finds_cases hfinds' (not_waiting_of_not_reads hd' hr')
      · obtain ⟨rfl, -⟩ := Found.packet.inj (hs.symm.trans hs₁)
        obtain ⟨rfl, -⟩ := Found.packet.inj (hs'.symm.trans hs₂)
        obtain ⟨htwin, heffects⟩ := twin_takes h hd hd' ha ha' hnext hnext' hlike
        refine ⟨htwin, heffects, ?_⟩
        rw [nextFrame?_of_reading hd ha, nextFrame?_of_reading hd' ha', hnext, hnext']
        rfl
      · cases hs'.symm.trans hs₂
    · cases hs.symm.trans hs₁
  · obtain ⟨_, _, _, -, hs₁⟩ | ⟨progress, a, result₁, hnext, hstop, hs₁⟩ :=
      Reader.finds_cases hfinds (not_waiting_of_not_reads hd hr)
    · cases hs.symm.trans hs₁
    · obtain ⟨_, _, _, -, hs₂⟩ | ⟨progress', a', result₂, hnext', hstop', hs₂⟩ :=
        Reader.finds_cases hfinds' (not_waiting_of_not_reads hd' hr')
      · cases hs'.symm.trans hs₂
      · obtain rfl := Found.stop.inj (hs.symm.trans hs₁)
        obtain rfl := Found.stop.inj (hs'.symm.trans hs₂)
        obtain ⟨htwin, heffects⟩ := twin_stops h hd hd' ha ha' hnext hnext' hstop hstop'
        refine ⟨htwin, by rw [heffects], ?_⟩
        rw [nextFrame?_of_reading hd ha, nextFrame?_of_reading hd' ha', hnext, hnext']
        rcases hstop with ⟨rfl, -⟩ | ⟨_, rfl, -⟩ <;>
          rcases hstop' with ⟨rfl, -⟩ | ⟨_, rfl, -⟩ <;> rfl

/-- In streams with like courses, twins that have taken as many packets of them go on in the
same way, when each of them comes to something. -/
theorem twin_goesOn (h : Twin c c') (hc : c.config = config)
    (hcourses : CoursesLike config (course config e s) (course config e s'))
    (hp : Position config s e c.dispatcher fs (c.arrivals ++ more))
    (hp' : Position config s' e c'.dispatcher fs' (c'.arrivals ++ more'))
    (hmany : fs.length = fs'.length) (hr : c.reads = false) (hr' : c'.reads = false) :
    GoOnAlike c c' := by
  subst hc
  have hc' : c'.config = c.config := by
    rw [h.same]
    rfl
  by_cases hreading : ∃ r, c.dispatcher = .reading r
  · obtain ⟨r, hd⟩ := hreading
    obtain ⟨r', hd'⟩ : ∃ r', c'.dispatcher = .reading r' := by
      rcases h.level with he | ⟨-, r', -, hd'⟩
      · exact ⟨r, he ▸ hd⟩
      · exact ⟨r', hd'⟩
    rw [hd] at hp
    rw [hd'] at hp'
    generalize hleft : c.arrivals ++ more = left at hp
    generalize hleft' : c'.arrivals ++ more' = left' at hp'
    cases hp with
    | reading hheld hcourse =>
    cases hp' with
    | reading hheld' hcourse' =>
    have hlimit : r'.nextFrame c.config.maxBodyLength c'.arrivals
        = r'.nextFrame c'.config.maxBodyLength c'.arrivals := by rw [hc']
    exact twin_reading h hd hd' hr hr' (Reader.nextFrame_found hheld hleft)
      (hlimit ▸ Reader.nextFrame_found hheld' hleft')
      (coursesLike_left hcourses hcourse hcourse' hmany)
  · have hnot : ∀ r, c.dispatcher ≠ .reading r := fun r hd => hreading ⟨r, hd⟩
    have hnot' : ∀ r, c'.dispatcher ≠ .reading r := by
      intro r' hd'
      rcases h.level with he | ⟨r, -, hd, -⟩
      · exact hnot r' (he ▸ hd')
      · exact hnot r hd
    obtain ⟨htwin, heffects⟩ := twin_step h hnot
    refine ⟨htwin, by rw [heffects], ?_⟩
    rw [nextFrame?_of_not_reading hnot, nextFrame?_of_not_reading hnot']

end

end Connection

end Tacacs
