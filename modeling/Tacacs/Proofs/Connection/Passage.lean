/-
# `Tacacs.Proofs.Connection.Passage` — every way a session can go on

`Passage` lists the ways in which a session passes from one phase to the next,
each with the condition under which it does and the registry it leaves:

    from        to                       the registry
    ready       registered               has a new exchange under the session's id
                finished (an error)      —
    registered  queued                   —                       (not closed)
                unsent closed            —                       (closed)
    queued      queued / writing         —
    writing     writing / flushing       —
                unsent (a fault)         —
    flushing    awaiting                 —
                unsent (a fault)         —
    unsent f    finished (the error f)   what stands under the id is settled
    awaiting    finished / ready         the exchange is given up

`step_session` says that a step of a session is a passage and nothing else: the
other sessions, the closed mark, the dispatcher and the calls to close stay as
they are, octets go out only while the session writes, and the session is over in
the eyes of the world exactly when its phase says so.  All that is proved about
sessions comes from here; no later proof unfolds a step.
-/
import Tacacs.Connection.Move

namespace Tacacs.Connection

/-! ## Passages -/

/-- A session with this id passes from a phase to the next, and leaves the
registry so. -/
inductive Passage (c : Connection) (id : SessionId) :
    SessionPhase → SessionPhase → Registry → Prop
  | exhausted {q : Packet} : q.header.sequence = 255 →
      Passage c id (.ready q) (.finished (.error .sequenceExhausted)) c.registry
  | unwritable {q : Packet} {e : EncodeError} : c.config.wire q = .error e →
      Passage c id (.ready q) (.finished (.error (.encode e))) c.registry
  | registers {q : Packet} {octets : Octets} :
      q.header.sequence ≠ 255 → c.config.wire q = .ok octets →
      Passage c id (.ready q) (.registered ⟨q, octets, (c.registry.register id).1⟩)
        (c.registry.register id).2
  | refused {o : Sending} : c.closed = true →
      Passage c id (.registered o) (.unsent o .closed) c.registry
  | admitted {o : Sending} : c.closed = false →
      Passage c id (.registered o) (.queued o) c.registry
  | stands {o : Sending} : Passage c id (.queued o) (.queued o) c.registry
  | takes {o : Sending} : Passage c id (.queued o) (.writing o o.octets) c.registry
  | writes {o : Sending} {rest left : Octets} :
      Passage c id (.writing o rest) (.writing o left) c.registry
  | written {o : Sending} {rest : Octets} :
      Passage c id (.writing o rest) (.flushing o) c.registry
  | breaks {o : Sending} {rest : Octets} {f : StreamFault} :
      Passage c id (.writing o rest) (.unsent o (.stream f)) c.registry
  | spills {o : Sending} {f : StreamFault} :
      Passage c id (.flushing o) (.unsent o (.stream f)) c.registry
  | sent {o : Sending} {limit : Duration} {deadline : Instant} :
      Passage c id (.flushing o) (.awaiting o.request ⟨o.ticket, limit, deadline⟩) c.registry
  | withdraws {o : Sending} {f : Failure} :
      Passage c id (.unsent o f) (.finished (.error f)) (c.registry.settle id (.error .closed))
  | fails {q : Packet} {w : Wait} {outcome : Outcome} {f : Failure} :
      w.result? c.registry c.now = some outcome →
      Passage c id (.awaiting q w) (.finished (.error f)) (c.registry.giveUp w.ticket)
  | answered {q reply : Packet} {w : Wait} {response : Response} :
      c.registry.outcome? w.ticket = some (.ok reply) →
      judge q reply = .finished (.ok response) →
      Passage c id (.awaiting q w) (.finished (.ok response)) (c.registry.giveUp w.ticket)
  | asked {q reply next : Packet} {w : Wait} {message input : String} {noEcho : Bool}
      {kind : PromptKind} {s : SessionSettings} :
      c.registry.outcome? w.ticket = some (.ok reply) →
      judge q reply = .asks message noEcho kind → s.followUp q reply input = .ok next →
      Passage c id (.awaiting q w) (.ready next) (c.registry.giveUp w.ticket)

/-- A connection that is another one, but for the registry, the writing side of the
stream and the answers to the prompts of one session. -/
structure Alike (c : Connection) (n : Nat) (c' : Connection) : Prop where
  sessions : ∃ answers : Session → Option (List (Option String)),
    c'.sessions = c.sessions.modify n fun s => { s with answers := answers s }
  config : c'.config = c.config
  closed : c'.closed = c.closed
  dispatcher : c'.dispatcher = c.dispatcher
  closings : c'.closings = c.closings

/-- A step of a session, which passes to this phase. -/
structure SessionStep (c : Connection) (n : Nat) (s : Session) (next : SessionPhase)
    (c' : Connection) (effects : List Effect) : Prop where
  passage : Passage c s.id s.phase next c'.registry
  after : ∃ c₁, Alike c n c₁ ∧ c' = c₁.setPhase n next
  isOver : ∀ m result, .sessionOver m result ∈ effects ↔ m = n ∧ next = .finished result
  sent : ∀ octets, .sent octets ∈ effects → ∃ o rest, s.phase = .writing o rest

variable {c c' : Connection} {n : Nat} {s : Session} {es : List Effect}

/-! ## What is seen of giving and taking -/

theorem mem_map_woke (agents : List Agent) :
    ∀ e ∈ agents.map Effect.woke, ∃ a, e = .woke a := by
  intro e he
  obtain ⟨a, -, rfl⟩ := List.mem_map.1 he
  exact ⟨a, rfl⟩

theorem mem_wake {e : Effect} {reached : Option Ticket} (h : e ∈ c.wake reached) :
    ∃ a, e = .woke a := by
  unfold wake at h
  split at h
  · exact ⟨_, List.mem_singleton.1 h⟩
  · exact absurd h List.not_mem_nil

theorem mem_giveBackWriter {e : Effect} (h : e ∈ c.giveBackWriter.2) : ∃ a, e = .woke a :=
  mem_map_woke _ e h

@[simp] theorem sessionOver_not_mem_wake (m : Nat) (result : Except Failure Response)
    (reached : Option Ticket) : .sessionOver m result ∉ c.wake reached :=
  fun h => nomatch mem_wake h

@[simp] theorem sent_not_mem_wake (octets : Octets) (reached : Option Ticket) :
    .sent octets ∉ c.wake reached :=
  fun h => nomatch mem_wake h

@[simp] theorem sessionOver_not_mem_giveBackWriter (m : Nat) (result : Except Failure Response) :
    .sessionOver m result ∉ c.giveBackWriter.2 :=
  fun h => nomatch mem_giveBackWriter h

@[simp] theorem sent_not_mem_giveBackWriter (octets : Octets) :
    .sent octets ∉ c.giveBackWriter.2 :=
  fun h => nomatch mem_giveBackWriter h

/-- To ask for the writing side changes nothing that matters to a session. -/
theorem askForWriter_cases (a : Agent) :
    (∃ line writer, c.askForWriter a = .taken { c with line, writer }) ∨
      (∃ line, c.askForWriter a = .inLine { c with line }) ∨ c.askForWriter a = .waits := by
  unfold askForWriter
  split
  · exact Or.inl ⟨_, _, rfl⟩
  · split
    · exact Or.inr (Or.inl ⟨_, rfl⟩)
    · split
      · exact Or.inr (Or.inl ⟨_, rfl⟩)
      · exact Or.inr (Or.inr rfl)

/-! ## The steps, one by one -/

theorem alike_self (c : Connection) (n : Nat) : Alike c n c :=
  ⟨⟨Session.answers, (List.modify_id n c.sessions).symm⟩, rfl, rfl, rfl, rfl⟩

theorem alike_registry (c : Connection) (n : Nat) (registry : Registry) :
    Alike c n { c with registry } :=
  ⟨(alike_self c n).sessions, rfl, rfl, rfl, rfl⟩

/-- A session ends; others may have been woken or other things been logged before. -/
theorem sessionStep_endSession {c₁ : Connection} {result : Except Failure Response}
    {seen : List Effect} (h : Alike c n c₁)
    (hp : Passage c s.id s.phase (.finished result) c₁.registry)
    (hover : ∀ m r, .sessionOver m r ∉ seen) (hsent : ∀ octets, .sent octets ∉ seen) :
    SessionStep c n s (.finished result) (c₁.endSession n result).1
      (seen ++ (c₁.endSession n result).2) := by
  refine ⟨hp, ⟨c₁, h, rfl⟩, ?_, ?_⟩
  · intro m r
    simp [endSession, hover, eq_comm]
  · intro octets ho
    simp [endSession, hsent] at ho

/-- A session passes to a phase that is not its end, and nothing is seen of it. -/
theorem sessionStep_setPhase {c₁ : Connection} {next : SessionPhase} (h : Alike c n c₁)
    (hp : Passage c s.id s.phase next c₁.registry) (hnext : ∀ result, next ≠ .finished result)
    (hover : ∀ m r, .sessionOver m r ∉ es)
    (hsent : ∀ octets, .sent octets ∈ es → ∃ o rest, s.phase = .writing o rest) :
    SessionStep c n s next (c₁.setPhase n next) es :=
  ⟨hp, ⟨c₁, h, rfl⟩, fun m r => ⟨fun hm => absurd hm (hover m r), fun hm => absurd hm.2 (hnext r)⟩,
    hsent⟩

theorem stepReady_passage {q : Packet} (hs : s.phase = .ready q) :
    ∃ next, SessionStep c n s next (c.stepReady n s q).1 (c.stepReady n s q).2 := by
  have ends : ∀ f, Passage c s.id s.phase (.finished (.error f)) c.registry →
      SessionStep c n s (.finished (.error f)) (c.endSession n (.error f)).1
        (c.endSession n (.error f)).2 := fun f hp =>
    sessionStep_endSession (alike_self c n) hp (fun _ _ => List.not_mem_nil)
      (fun _ => List.not_mem_nil)
  unfold stepReady
  split
  · rename_i h255
    exact ⟨_, ends _ (hs ▸ .exhausted h255)⟩
  · rename_i h255
    split
    · rename_i e he
      exact ⟨_, ends _ (hs ▸ .unwritable he)⟩
    · rename_i octets ho
      refine ⟨_, sessionStep_setPhase (alike_registry c n _) (hs ▸ .registers h255 ho) ?_ ?_ ?_⟩
      · exact fun _ => SessionPhase.noConfusion
      · exact fun _ _ => sessionOver_not_mem_wake _ _ _
      · exact fun _ h => absurd h (sent_not_mem_wake _ _)

theorem stepRegistered_passage {o : Sending} (hs : s.phase = .registered o) :
    ∃ next, SessionStep c n s next (c.stepRegistered n o).1 (c.stepRegistered n o).2 := by
  refine ⟨_, sessionStep_setPhase (alike_self c n) ?_ ?_ ?_ ?_⟩
  · rw [hs]
    cases hc : c.closed with
    | true => exact .refused hc
    | false => exact .admitted hc
  · intro result
    split <;> exact SessionPhase.noConfusion
  · exact fun _ _ => List.not_mem_nil
  · exact fun _ h => absurd h List.not_mem_nil

theorem stepUnsent_passage {o : Sending} {f : Failure} (hs : s.phase = .unsent o f) :
    ∃ next, SessionStep c n s next (c.stepUnsent n s f).1 (c.stepUnsent n s f).2 := by
  refine ⟨_, sessionStep_endSession (alike_registry c n _) ?_ ?_ ?_⟩
  · rw [hs]
    exact .withdraws
  · exact fun _ _ => sessionOver_not_mem_wake _ _ _
  · exact fun _ => sent_not_mem_wake _ _

theorem stepWriting_passage {o : Sending} {rest : Octets} (hs : s.phase = .writing o rest)
    (h : c.stepWriting n o rest = some (c', es)) : ∃ next, SessionStep c n s next c' es := by
  unfold stepWriting at h
  split at h
  · cases h
  · obtain ⟨rfl, rfl⟩ := Prod.mk.inj (Option.some.inj h)
    refine ⟨_, sessionStep_setPhase ⟨(alike_self c n).sessions, rfl, rfl, rfl, rfl⟩ ?_ ?_ ?_ ?_⟩
    · rw [hs]
      exact .breaks
    · exact fun _ => SessionPhase.noConfusion
    · exact fun _ _ => sessionOver_not_mem_giveBackWriter _ _
    · exact fun _ h => absurd h (sent_not_mem_giveBackWriter _)
  · obtain ⟨rfl, rfl⟩ := Prod.mk.inj (Option.some.inj h)
    refine ⟨_, sessionStep_setPhase ⟨(alike_self c n).sessions, rfl, rfl, rfl, rfl⟩ ?_ ?_ ?_ ?_⟩
    · rw [hs]
      split
      · exact .written
      · exact .writes
    · intro result
      split <;> exact SessionPhase.noConfusion
    · intro m r h
      cases List.mem_singleton.1 h
    · exact fun _ _ => ⟨o, rest, hs⟩

theorem stepFlushing_passage {o : Sending} (hs : s.phase = .flushing o) :
    ∃ next, SessionStep c n s next (c.stepFlushing n o).1 (c.stepFlushing n o).2 := by
  unfold stepFlushing
  split
  rename_i c₁ woken hb
  obtain ⟨rfl, rfl⟩ : c.giveBackWriter.1 = c₁ ∧ c.giveBackWriter.2 = woken := by simp [hb]
  have ha : Alike c n c.giveBackWriter.1 := ⟨(alike_self c n).sessions, rfl, rfl, rfl, rfl⟩
  split
  · refine ⟨_, sessionStep_setPhase ha ?_ ?_ ?_ ?_⟩
    · rw [hs]
      exact .spills
    · exact fun _ => SessionPhase.noConfusion
    · exact fun _ _ => sessionOver_not_mem_giveBackWriter _ _
    · exact fun _ h => absurd h (sent_not_mem_giveBackWriter _)
  · refine ⟨_, sessionStep_setPhase ha ?_ ?_ ?_ ?_⟩
    · rw [hs]
      exact .sent
    · exact fun _ => SessionPhase.noConfusion
    · simp
    · simp

theorem stepAsked_passage {c₁ : Connection} {q reply : Packet} {w : Wait} {message : String}
    {noEcho : Bool} {kind : PromptKind} (hs : s.phase = .awaiting q w)
    (ha : Alike c n c₁) (hsessions : c₁.sessions = c.sessions)
    (hregistry : c₁.registry = c.registry.giveUp w.ticket)
    (ho : w.result? c.registry c.now = some (.ok reply))
    (hr : c.registry.outcome? w.ticket = some (.ok reply))
    (hj : judge q reply = .asks message noEcho kind) :
    ∃ next, SessionStep c n s next (c₁.stepAsked n s q reply message noEcho kind).1
      (c₁.stepAsked n s q reply message noEcho kind).2 := by
  have fails : ∀ f, Passage c s.id s.phase (.finished (.error f)) c₁.registry := by
    intro f
    rw [hs, hregistry]
    exact .fails ho
  cases hanswers : s.answers with
  | none =>
    simp only [stepAsked, hanswers]
    exact ⟨_, sessionStep_endSession ha (fails _) (fun _ _ => List.not_mem_nil)
      (fun _ => List.not_mem_nil)⟩
  | some answers =>
    have ha' : Alike c n { c₁ with
        sessions := c₁.sessions.modify n fun s => { s with answers := some answers.tail } } :=
      ⟨⟨fun _ => some answers.tail, by rw [hsessions]⟩, ha.config, ha.closed, ha.dispatcher,
        ha.closings⟩
    have hover : ∀ m r, Effect.sessionOver m r ∉ [Effect.prompted n message noEcho kind] := by simp
    have sent : ∀ octets, Effect.sent octets ∉ [Effect.prompted n message noEcho kind] := by simp
    cases hinput : answers.head?.join with
    | none =>
      simp only [stepAsked, hanswers, hinput]
      exact ⟨_, sessionStep_endSession ha' (fails _) hover sent⟩
    | some input =>
      simp only [stepAsked, hanswers, hinput]
      split
      · exact ⟨_, sessionStep_endSession ha' (fails _) hover sent⟩
      · rename_i next hn
        refine ⟨_, sessionStep_setPhase ha' ?_ ?_ hover ?_⟩
        · rw [hs]
          show Passage c s.id (.awaiting q w) (.ready next) c₁.registry
          rw [hregistry]
          exact .asked hr hj hn
        · exact fun _ => SessionPhase.noConfusion
        · exact fun octets h => absurd h (sent octets)

theorem outcome?_of_result? {w : Wait} {reply : Packet}
    (h : w.result? c.registry c.now = some (.ok reply)) :
    c.registry.outcome? w.ticket = some (.ok reply) := by
  unfold Wait.result? at h
  split at h
  · rename_i hr
    rw [hr, h]
  · split at h <;> cases h

theorem stepOutcome_passage {q : Packet} {w : Wait} {outcome : Outcome}
    (hs : s.phase = .awaiting q w) (ho : w.result? c.registry c.now = some outcome) :
    ∃ next, SessionStep c n s next
      (({ c with registry := c.registry.giveUp w.ticket }).stepOutcome n s q outcome).1
      (({ c with registry := c.registry.giveUp w.ticket }).stepOutcome n s q outcome).2 := by
  cases outcome with
  | error e =>
    have hp : Passage c s.id s.phase (.finished (.error e)) (c.registry.giveUp w.ticket) := by
      rw [hs]
      exact .fails ho
    exact ⟨_, sessionStep_endSession (alike_registry c n _) hp (fun _ _ => List.not_mem_nil)
      (fun _ => List.not_mem_nil)⟩
  | ok reply =>
    have hr := outcome?_of_result? ho
    cases hj : judge q reply with
    | asks message noEcho kind =>
      simp only [stepOutcome, hj]
      exact stepAsked_passage hs (alike_registry c n _) rfl rfl ho hr hj
    | finished result =>
      simp only [stepOutcome, hj]
      refine ⟨_, sessionStep_endSession (alike_registry c n _) ?_ ?_ ?_⟩
      · rw [hs]
        cases result with
        | error e => exact .fails ho
        | ok response => exact .answered hr hj
      · intro m r
        split <;> simp
      · intro octets
        split <;> simp

theorem setPhase_self (h : c.sessions[n]? = some s) : c.setPhase n s.phase = c := by
  have hm : c.sessions.modify n (fun s' => { s' with phase := s.phase }) = c.sessions := by
    refine List.ext_getElem? ?_
    intro m
    rw [List.getElem?_modify]
    by_cases hm : n = m
    · subst hm
      simp [h]
    · simp [hm]
  rw [setPhase, hm]

theorem stepQueued_passage {o : Sending} (hn : c.sessions[n]? = some s) (hs : s.phase = .queued o)
    (h : c.stepSession n s = some (c', es)) : ∃ next, SessionStep c n s next c' es := by
  simp only [stepSession, hs] at h
  rcases askForWriter_cases (c := c) (.session n) with ⟨l, w, ha⟩ | ⟨l, ha⟩ | ha
  · simp only [ha] at h
    obtain ⟨rfl, rfl⟩ := Prod.mk.inj (Option.some.inj h)
    refine ⟨_, sessionStep_setPhase ⟨(alike_self c n).sessions, rfl, rfl, rfl, rfl⟩ ?_ ?_ ?_ ?_⟩
    · rw [hs]
      exact .takes
    · exact fun _ => SessionPhase.noConfusion
    · exact fun _ _ => List.not_mem_nil
    · exact fun _ h => absurd h List.not_mem_nil
  · simp only [ha] at h
    obtain ⟨rfl, rfl⟩ := Prod.mk.inj (Option.some.inj h)
    have hc : ({ c with line := l }).setPhase n (.queued o) = { c with line := l } :=
      hs ▸ setPhase_self hn
    refine ⟨.queued o, ?_⟩
    rw [← hc]
    refine sessionStep_setPhase ⟨(alike_self c n).sessions, rfl, rfl, rfl, rfl⟩ ?_ ?_ ?_ ?_
    · rw [hs]
      exact .stands
    · exact fun _ => SessionPhase.noConfusion
    · exact fun _ _ => List.not_mem_nil
    · exact fun _ h => absurd h List.not_mem_nil
  · simp only [ha] at h
    cases h

/-! ## Every step of a session -/

/-- **A step of a session is a passage.** -/
theorem step_session (h : c.step (.session n) = some (c', es)) :
    ∃ s next, c.sessions[n]? = some s ∧ SessionStep c n s next c' es := by
  obtain ⟨s, hn, h⟩ := Option.bind_eq_some_iff.1 h
  refine ⟨s, ?_⟩
  suffices h : ∃ next, SessionStep c n s next c' es from h.imp fun _ h => ⟨hn, h⟩
  cases hs : s.phase with
  | idle =>
    simp only [stepSession, hs] at h
    cases h
  | finished _ =>
    simp only [stepSession, hs] at h
    cases h
  | dropped =>
    simp only [stepSession, hs] at h
    cases h
  | ready q =>
    simp only [stepSession, hs, Option.some.injEq] at h
    obtain ⟨next, hstep⟩ := stepReady_passage (c := c) (n := n) hs
    exact ⟨next, by rwa [h] at hstep⟩
  | registered o =>
    simp only [stepSession, hs, Option.some.injEq] at h
    obtain ⟨next, hstep⟩ := stepRegistered_passage (c := c) (n := n) hs
    exact ⟨next, by rwa [h] at hstep⟩
  | queued o => exact stepQueued_passage hn hs h
  | writing o rest =>
    simp only [stepSession, hs] at h
    exact stepWriting_passage hs h
  | flushing o =>
    simp only [stepSession, hs, Option.some.injEq] at h
    obtain ⟨next, hstep⟩ := stepFlushing_passage (c := c) (n := n) hs
    exact ⟨next, by rwa [h] at hstep⟩
  | unsent o f =>
    simp only [stepSession, hs, Option.some.injEq] at h
    obtain ⟨next, hstep⟩ := stepUnsent_passage (c := c) (n := n) hs
    exact ⟨next, by rwa [h] at hstep⟩
  | awaiting q w =>
    simp only [stepSession, hs] at h
    split at h
    · cases h
    · rename_i outcome ho
      obtain ⟨next, hstep⟩ := stepOutcome_passage (n := n) hs ho
      exact ⟨next, by rwa [Option.some.inj h] at hstep⟩

end Tacacs.Connection
