/-
# `Tacacs.Proofs.Connection.Prompts` — what a session asks its user

A user is prompted in one place only: when a session takes a reply that asks for input, and
there is somebody to be prompted.  In the same step the session uses up an answer.  So what a
move shows to the user of a session, and which answers are left after it, depends on the reply
that the session takes with it (`asked?`), and on nothing else (`prompts_apply`):

    takes a reply that asks, and somebody is there    a prompt, and one answer less
    all else                                          nothing

The reply has been accepted then: it is of the family of its request and has the next number
(`accepts?`).
-/
import Tacacs.Proofs.Connection.Numbering
import Tacacs.Proofs.Connection.WritingSide

namespace Tacacs

/-! ## Replies that ask for input -/

/-- What somebody is asked. -/
structure Prompt where
  message : String
  /-- What is typed must not be shown. -/
  noEcho : Bool
  kind : PromptKind
deriving DecidableEq

/-- What a packet asks for; nothing unless it is a reply to a login that has one of the three
statuses for it. -/
def Packet.prompt? (p : Packet) : Option Prompt :=
  match p.body with
  | .authenReply r => (PromptKind.ofStatus? r.status).map fun kind => ⟨r.message, r.noEcho, kind⟩
  | _ => none

/-- A request of a session and the reply that it has accepted. -/
structure Round where
  request : Packet
  reply : Packet
deriving DecidableEq

/-- What the reply asks for. -/
def Round.prompt? (r : Round) : Option Prompt :=
  r.reply.prompt?

/-- A session accepts a reply to a request: it is of the same family, and has the next number. -/
structure Accepts (request reply : Packet) : Prop where
  type : reply.header.type = request.header.type
  sequence : reply.header.sequence = request.header.sequence + 1

instance decAccepts (request reply : Packet) : Decidable (Accepts request reply) :=
  decidable_of_iff (reply.header.type = request.header.type ∧
    reply.header.sequence = request.header.sequence + 1)
    ⟨fun h => ⟨h.1, h.2⟩, fun h => ⟨h.type, h.sequence⟩⟩

/-- The reply that a session accepts from an outcome. -/
def round? (request : Packet) : Outcome → Option Round
  | .ok reply => if Accepts request reply then some ⟨request, reply⟩ else none
  | .error _ => none

/-- What an outcome asks for. -/
def asked (request : Packet) (outcome : Outcome) : Option Prompt :=
  (round? request outcome).bind Round.prompt?

theorem round?_eq_some {request : Packet} {outcome : Outcome} {r : Round} :
    round? request outcome = some r ↔
      outcome = .ok r.reply ∧ r.request = request ∧ Accepts request r.reply := by
  constructor
  · intro h
    cases outcome with
    | error e => cases h
    | ok reply =>
      obtain ⟨haccepts, hr⟩ := Option.ite_none_right_eq_some.1 h
      cases hr
      exact ⟨rfl, rfl, haccepts⟩
  · rintro ⟨rfl, rfl, haccepts⟩
    exact if_pos haccepts

variable {q reply : Packet}

theorem judge_of_not_accepts (h : ¬Accepts q reply) :
    ∃ e, judge q reply = .finished (.error e) := by
  unfold judge
  split
  · exact ⟨_, rfl⟩
  · rename_i htype
    split
    · exact ⟨_, rfl⟩
    · rename_i hsequence
      exact absurd ⟨Classical.not_not.1 htype, Classical.not_not.1 hsequence⟩ h

theorem judge_of_prompt {p : Prompt} (htype : q.header.type = .authentication)
    (h : Accepts q reply) (hp : reply.prompt? = some p) :
    judge q reply = .asks p.message p.noEcho p.kind := by
  unfold Packet.prompt? at hp
  split at hp
  · rename_i r hr
    obtain ⟨kind, hkind, rfl⟩ := Option.map_eq_some_iff.1 hp
    unfold judge
    rw [if_neg (not_not_intro h.type), if_neg (not_not_intro h.sequence)]
    simp only [htype, hr, hkind]
  · cases hp

theorem judge_of_not_prompt (htype : q.header.type = .authentication) (h : Accepts q reply)
    (hp : reply.prompt? = none) : ∃ result, judge q reply = .finished result ∧
      ∀ r, reply.body = .authenReply r →
        result = .ok (.authentication ⟨r.status, r.message, r.data, r.noEcho⟩) := by
  unfold judge
  rw [if_neg (not_not_intro h.type), if_neg (not_not_intro h.sequence)]
  unfold Packet.prompt? at hp
  cases hbody : reply.body with
  | authenReply r =>
    simp only [hbody] at hp
    have hkind := Option.map_eq_none_iff.1 hp
    simp only [htype, hkind]
    exact ⟨_, rfl, fun r' hr' => Body.authenReply.inj hr' ▸ rfl⟩
  | _ =>
    simp only [htype]
    exact ⟨_, rfl, fun r' hr' => by cases hr'⟩

/-- A session asks what the outcome of its exchange asks for. -/
theorem judge_eq_asks (htype : q.header.type = .authentication) {message : String} {noEcho : Bool}
    {kind : PromptKind} : judge q reply = .asks message noEcho kind ↔
      asked q (.ok reply) = some ⟨message, noEcho, kind⟩ := by
  by_cases h : Accepts q reply
  · rw [asked, round?, if_pos h, Option.bind_some, Round.prompt?]
    cases hp : reply.prompt? with
    | some p => rw [judge_of_prompt htype h hp, Turn.asks.injEq, Option.some.injEq, Prompt.mk.injEq]
    | none =>
      obtain ⟨result, hj, -⟩ := judge_of_not_prompt htype h hp
      rw [hj]
      constructor
      · intro he
        cases he
      · intro he
        cases he
  · obtain ⟨e, hj⟩ := judge_of_not_accepts h
    rw [asked, round?, if_neg h, hj]
    constructor
    · intro he
      cases he
    · intro he
      cases he

namespace Connection

variable {c c' : Connection} {n k : Nat} {s : Session} {w : Wait} {m : Move} {ms : List Move}
  {es : List Effect} {o : Sending} {rest : Octets}

/-! ## What is shown -/

/-- What the user of a session is asked. -/
def promptTo? (n : Nat) : Effect → Option Prompt
  | .prompted k message noEcho kind => if k = n then some ⟨message, noEcho, kind⟩ else none
  | _ => none

/-- What the user of a session is asked in a run, in order. -/
def prompts (c : Connection) (n : Nat) (ms : List Move) : List Prompt :=
  (c.run ms).2.filterMap (promptTo? n)

/-- The answers that a session has left. -/
def answersAt (c : Connection) (n : Nat) : Option (List (Option String)) :=
  (c.sessions[n]?).bind Session.answers

/-- The reply that a session accepts with a move. -/
def accepts? (n : Nat) (c : Connection) : Move → Option Round
  | .step (.session k) =>
    if k = n then
      match c.phaseAt n with
      | .awaiting q w => (w.result? c.registry c.now).bind (round? q)
      | _ => none
    else none
  | _ => none

/-- The replies that a session accepts in a run, in order, each with its request. -/
def rounds (c : Connection) (n : Nat) (ms : List Move) : List Round :=
  gather (accepts? n) c ms

theorem prompts_concat (ms : List Move) (m : Move) :
    prompts c n (ms ++ [m])
      = prompts c n ms ++ ((c.after ms).apply m).2.filterMap (promptTo? n) := by
  rw [prompts, effects_concat, List.filterMap_append]
  rfl

theorem rounds_concat (ms : List Move) (m : Move) :
    rounds c n (ms ++ [m]) = rounds c n ms ++ (accepts? n (c.after ms) m).toList :=
  gather_concat (accepts? n) c ms m

theorem accepts?_eq_some {r : Round} (h : accepts? n c m = some r) :
    m = .step (.session n) ∧ Accepts r.request r.reply ∧ ∃ w, c.phaseAt n = .awaiting r.request w ∧
      w.result? c.registry c.now = some (.ok r.reply) := by
  unfold accepts? at h
  split at h
  · split at h
    · rename_i k hk
      subst hk
      split at h
      · rename_i q w hphase
        obtain ⟨outcome, hw, htaken⟩ := Option.bind_eq_some_iff.1 h
        obtain ⟨rfl, rfl, haccepts⟩ := round?_eq_some.1 htaken
        exact ⟨rfl, haccepts, w, hphase, hw⟩
      · cases h
    · cases h
  · cases h

theorem accepts?_awaiting (hs : c.phaseAt n = .awaiting q w) :
    accepts? n c (.step (.session n)) = (w.result? c.registry c.now).bind (round? q) := by
  simp only [accepts?, if_pos, hs]

theorem accepts?_of_not_awaiting (h : ∀ q w, c.phaseAt n ≠ .awaiting q w) (m : Move) :
    accepts? n c m = none := by
  refine Option.eq_none_iff_forall_ne_some.2 fun r hr => ?_
  obtain ⟨-, -, w, hphase, -⟩ := accepts?_eq_some hr
  exact h _ w hphase

theorem accepts?_of_over (h : (c.phaseAt n).IsOver) (m : Move) : accepts? n c m = none := by
  refine accepts?_of_not_awaiting ?_ m
  intro q w hs
  rw [hs] at h
  exact h

theorem accepts?_of_ne (h : m ≠ .step (.session n)) : accepts? n c m = none :=
  Option.eq_none_iff_forall_ne_some.2 fun _ hr => h (accepts?_eq_some hr).1

/-- What the reply that a session accepts asks for. -/
def asked? (n : Nat) (c : Connection) (m : Move) : Option Prompt :=
  (accepts? n c m).bind Round.prompt?

theorem asked?_of_awaiting {outcome : Outcome} (hs : c.phaseAt n = .awaiting q w)
    (hw : w.result? c.registry c.now = some outcome) :
    asked? n c (.step (.session n)) = asked q outcome := by
  rw [asked?, accepts?_awaiting hs, hw, Option.bind_some, asked]

/-! ## Moves that show nothing -/

/-- The user of a session is asked nothing, and no answer is used up. -/
structure Mute (n : Nat) (c c' : Connection) (es : List Effect) : Prop where
  shows : es.filterMap (promptTo? n) = []
  answers : c'.answersAt n = c.answersAt n

theorem filterMap_of_aloof (h : Aloof es) : es.filterMap (promptTo? n) = [] := by
  refine List.filterMap_eq_nil_iff.2 fun e he => ?_
  have haloof := h e he
  cases e with
  | prompted _ _ _ _ => cases haloof
  | _ => rfl

theorem answersAt_of_some (hn : c.sessions[n]? = some s) : c.answersAt n = s.answers := by
  rw [answersAt, hn, Option.bind_some]

@[simp] theorem answersAt_setPhase (next : SessionPhase) :
    (c.setPhase k next).answersAt n = c.answersAt n := by
  unfold answersAt setPhase
  by_cases hk : k = n
  · subst hk
    rw [List.getElem?_modify_eq]
    cases c.sessions[k]? <;> rfl
  · rw [List.getElem?_modify_ne _ _ hk]

theorem mute_self : Mute n c c [] :=
  ⟨rfl, rfl⟩

theorem mute_setPhase {c₁ : Connection} {next : SessionPhase} (h : c₁.sessions = c.sessions)
    (hes : Aloof es) : Mute n c (c₁.setPhase k next) es where
  shows := filterMap_of_aloof hes
  answers := by rw [answersAt_setPhase, answersAt, h, answersAt]

theorem mute_endSession {c₁ : Connection} {result : Except Failure Response}
    (h : c₁.sessions = c.sessions) (hes : Aloof es) :
    Mute n c (c₁.endSession k result).1 (es ++ (c₁.endSession k result).2) where
  shows := by
    rw [List.filterMap_append, filterMap_of_aloof hes]
    rfl
  answers := (mute_setPhase h aloof_nil).answers

theorem mute_stepReady : Mute n c (c.stepReady k s q).1 (c.stepReady k s q).2 := by
  unfold stepReady
  split
  · exact mute_endSession rfl aloof_nil
  · split
    · exact mute_endSession rfl aloof_nil
    · exact mute_setPhase rfl (aloof_of_woke fun _ => mem_wake)

theorem mute_stepWriting (h : c.stepWriting k o rest = some (c', es)) : Mute n c c' es := by
  unfold stepWriting at h
  split at h
  · cases h
  · obtain ⟨rfl, rfl⟩ := Prod.mk.inj (Option.some.inj h)
    exact mute_setPhase rfl (aloof_of_woke fun _ => mem_giveBackWriter)
  · obtain ⟨rfl, rfl⟩ := Prod.mk.inj (Option.some.inj h)
    exact ⟨rfl, (mute_setPhase rfl aloof_nil).answers⟩

theorem mute_stepFlushing : Mute n c (c.stepFlushing k o).1 (c.stepFlushing k o).2 := by
  have hwoken : Aloof c.giveBackWriter.2 := aloof_of_woke fun _ => mem_giveBackWriter
  unfold stepFlushing
  dsimp only
  split
  · exact mute_setPhase rfl hwoken
  · refine mute_setPhase rfl fun e he => ?_
    rcases List.mem_append.1 he with he | he
    · exact hwoken e he
    · exact aloof_singleton rfl e he

theorem mute_session (hk : c.sessions[k]? = some s) (hs : ∀ q w, s.phase ≠ .awaiting q w) :
    Mute n c (c.apply (.step (.session k))).1 (c.apply (.step (.session k))).2 := by
  cases hstep : c.step (.session k) with
  | none =>
    rw [apply_step_of_none hstep]
    exact mute_self
  | some p =>
    rw [apply_step_of_some hstep]
    rw [step_session_eq hk, stepSession] at hstep
    split at hstep
    next => cases hstep
    next => cases hstep
    next => cases hstep
    next =>
      obtain rfl := Option.some.inj hstep
      exact mute_stepReady
    next =>
      obtain rfl := Option.some.inj hstep
      exact mute_setPhase rfl aloof_nil
    next =>
      rcases askForWriter_cases (c := c) (.session k) with ⟨line, writer, ha⟩ | ⟨line, ha⟩ | ha
      · rw [ha] at hstep
        obtain rfl := Option.some.inj hstep
        exact mute_setPhase rfl aloof_nil
      · rw [ha] at hstep
        obtain rfl := Option.some.inj hstep
        exact ⟨rfl, rfl⟩
      · rw [ha] at hstep
        cases hstep
    next => exact mute_stepWriting hstep
    next =>
      obtain rfl := Option.some.inj hstep
      exact mute_stepFlushing
    next =>
      obtain rfl := Option.some.inj hstep
      exact mute_endSession rfl (aloof_of_woke fun _ => mem_wake)
    next q w hphase => exact absurd hphase (hs q w)

/-! ## Taking an outcome -/

/-- A session that waited takes the outcome of its exchange, or waits on. -/
theorem apply_awaiting (hn : c.sessions[n]? = some s) (hs : s.phase = .awaiting q w) :
    w.result? c.registry c.now = none ∧ c.apply (.step (.session n)) = (c, []) ∨
      ∃ outcome, w.result? c.registry c.now = some outcome ∧ c.apply (.step (.session n))
        = ({ c with registry := c.registry.giveUp w.ticket }).stepOutcome n s q outcome := by
  have hstep : c.step (.session n) = c.stepSession n s := step_session_eq hn
  simp only [stepSession, hs] at hstep
  cases hw : w.result? c.registry c.now with
  | none =>
    simp only [hw] at hstep
    exact .inl ⟨rfl, apply_step_of_none hstep⟩
  | some outcome =>
    simp only [hw] at hstep
    exact .inr ⟨outcome, rfl, apply_step_of_some hstep⟩

theorem stepOutcome_of_ne (q : Packet) (outcome : Outcome) (hk : k ≠ n) :
    (c.stepOutcome k s q outcome).2.filterMap (promptTo? n) = [] := by
  unfold stepOutcome
  split
  · rfl
  · split
    · unfold stepAsked
      split
      · rfl
      · dsimp only
        split
        · simp [promptTo?, hk, endSession]
        · split <;> simp [promptTo?, hk, endSession]
    · dsimp only
      split <;> rfl

theorem stepAsked_prompts {p : Prompt} (hn : c.sessions[n]? = some s) :
    (c.stepAsked n s q reply p.message p.noEcho p.kind).2.filterMap (promptTo? n)
        = (if s.answers.isSome then [p] else []) ∧
      (c.stepAsked n s q reply p.message p.noEcho p.kind).1.answersAt n
        = s.answers.map List.tail := by
  have hself : [Effect.prompted n p.message p.noEcho p.kind].filterMap (promptTo? n) = [p] := by
    simp [promptTo?]
  cases hanswers : s.answers with
  | none =>
    simp only [stepAsked, hanswers]
    refine ⟨rfl, ?_⟩
    rw [endSession, answersAt_setPhase, answersAt_of_some hn, hanswers]
    rfl
  | some answers =>
    let c₁ := { c with sessions := c.sessions.modify n fun s =>
      { s with answers := some answers.tail } }
    have hused : c₁.answersAt n = some answers.tail := by
      show ((c.sessions.modify n _)[n]?).bind Session.answers = _
      rw [List.getElem?_modify_eq, hn]
      rfl
    have hset (next : SessionPhase) : (c₁.setPhase n next).answersAt n = some answers.tail := by
      rw [answersAt_setPhase, hused]
    simp only [stepAsked, hanswers]
    split
    · exact ⟨hself, hset _⟩
    · split
      · exact ⟨hself, hset _⟩
      · exact ⟨hself, hset _⟩

/-- What a session shows and uses up when it takes an outcome. -/
theorem stepOutcome_prompts (hn : c.sessions[n]? = some s)
    (htype : q.header.type = .authentication) (outcome : Outcome) :
    (c.stepOutcome n s q outcome).2.filterMap (promptTo? n)
        = (if s.answers.isSome then (asked q outcome).toList else []) ∧
      (c.stepOutcome n s q outcome).1.answersAt n
        = if (asked q outcome).isSome then s.answers.map List.tail else s.answers := by
  have unasked {result : Except Failure Response} {log : List Effect}
      (hasked : asked q outcome = none) (hlog : Aloof log)
      (h : c.stepOutcome n s q outcome = ((c.endSession n result).1,
        log ++ (c.endSession n result).2)) :
      (c.stepOutcome n s q outcome).2.filterMap (promptTo? n)
          = (if s.answers.isSome then (asked q outcome).toList else []) ∧
        (c.stepOutcome n s q outcome).1.answersAt n
          = if (asked q outcome).isSome then s.answers.map List.tail else s.answers := by
    have hmute : Mute n c (c.endSession n result).1 (log ++ (c.endSession n result).2) :=
      mute_endSession rfl hlog
    rw [h, hasked, hmute.shows, hmute.answers, answersAt_of_some hn, Option.toList_none, ite_self]
    exact ⟨rfl, rfl⟩
  cases outcome with
  | error e => exact unasked rfl aloof_nil rfl
  | ok reply =>
    cases hj : judge q reply with
    | asks message noEcho kind =>
      have hasked := (judge_eq_asks htype).1 hj
      rw [stepOutcome, hj, hasked]
      exact stepAsked_prompts (p := ⟨message, noEcho, kind⟩) hn
    | finished result =>
      have hasked : asked q (.ok reply) = none := by
        refine Option.eq_none_iff_forall_ne_some.2 fun p hp => ?_
        cases hj.symm.trans ((judge_eq_asks htype).2 hp)
      refine unasked hasked ?_ (by rw [stepOutcome, hj])
      split
      · exact aloof_singleton rfl
      · exact aloof_nil

/-! ## Moves -/

theorem apply_session_of_none (hk : c.sessions[k]? = none) :
    c.apply (.step (.session k)) = (c, []) := by
  have hstep : c.step (.session k) = none := by rw [step, hk, Option.bind_none]
  exact apply_step_of_none hstep

/-- The moves of others show nothing to the user of a session. -/
theorem shows_of_ne (hm : m ≠ .step (.session n)) :
    (c.apply m).2.filterMap (promptTo? n) = [] := by
  by_cases hsession : ∃ k, m = .step (.session k)
  · obtain ⟨k, rfl⟩ := hsession
    have hk : k ≠ n := fun he => hm (by rw [he])
    cases hs : c.sessions[k]? with
    | none =>
      rw [apply_session_of_none hs]
      rfl
    | some s' =>
      by_cases hwaits : ∃ q w, s'.phase = .awaiting q w
      · obtain ⟨q, w, hphase⟩ := hwaits
        rcases apply_awaiting hs hphase with ⟨-, ha⟩ | ⟨outcome, -, ha⟩
        · rw [ha]
          rfl
        · rw [ha]
          exact stepOutcome_of_ne q outcome hk
      · exact (mute_session hs fun q w hphase => hwaits ⟨q, w, hphase⟩).shows
  · rcases aloof_apply (c := c) fun k he => hsession ⟨k, he⟩ with haloof | ⟨k, call, -, hes⟩
    · exact filterMap_of_aloof haloof
    · rw [hes]
      rfl

theorem shows_of_not_awaiting (h : ∀ q w, c.phaseAt n ≠ .awaiting q w) (m : Move) :
    (c.apply m).2.filterMap (promptTo? n) = [] := by
  by_cases hm : m = .step (.session n)
  · subst hm
    cases hn : c.sessions[n]? with
    | none =>
      rw [apply_session_of_none hn]
      rfl
    | some s => exact (mute_session hn fun q w hs => h q w ((phaseAt_of_some hn).trans hs)).shows
  · exact shows_of_ne hm

theorem mute_of_ne (hn : c.sessions[n]? = some s) (hm : m ≠ .step (.session n)) :
    Mute n c (c.apply m).1 (c.apply m).2 := by
  refine ⟨shows_of_ne hm, ?_⟩
  have h := apply_happening c m
  rw [answersAt_of_some hn]
  generalize (c.apply m).1 = c', (c.apply m).2 = es at h
  cases h with
  | nothing _ => exact answersAt_of_some hn
  | opens _ =>
    refine answersAt_of_some (s := s) ?_
    exact (List.getElem?_append_left (List.getElem?_eq_some_iff.1 hn).1).trans hn
  | calls _ _ _ _ => exact (answersAt_setPhase _).trans (answersAt_of_some hn)
  | callsInVain _ _ => exact (answersAt_setPhase _).trans (answersAt_of_some hn)
  | @dropsSession k registry _ _ _ _ _ _ =>
    exact (answersAt_setPhase (c := { c with registry }) _).trans (answersAt_of_some hn)
  | dropsClosing _ _ => exact answersAt_of_some hn
  | dropsDispatcher _ => exact answersAt_of_some hn
  | starts _ _ => exact answersAt_of_some hn
  | startsClosing _ => exact answersAt_of_some hn
  | comes _ _ => exact answersAt_of_some hn
  | @session k s' next _ _ hk hs =>
    refine answersAt_of_some ((getElem?_step_of_ne hs ?_).trans hn)
    rintro rfl
    exact hm rfl
  | dispatcher hs => exact answersAt_of_some (hs.sessions ▸ hn)
  | closing _ hs => exact answersAt_of_some (hs.sessions ▸ hn)

/-- **A move shows to the user of a session what the reply asks for that the session accepts with
it**, if there is a user, and the session uses up an answer then. -/
theorem prompts_apply (hn : c.sessions[n]? = some s)
    (htype : ∀ q w, s.phase = .awaiting q w → q.header.type = .authentication) (m : Move) :
    (c.apply m).2.filterMap (promptTo? n)
        = (if s.answers.isSome then (asked? n c m).toList else []) ∧
      (c.apply m).1.answersAt n
        = if (asked? n c m).isSome then s.answers.map List.tail else s.answers := by
  have unasked (hasked : accepts? n c m = none) (hmute : Mute n c (c.apply m).1 (c.apply m).2) :
      (c.apply m).2.filterMap (promptTo? n)
          = (if s.answers.isSome then (asked? n c m).toList else []) ∧
        (c.apply m).1.answersAt n
          = if (asked? n c m).isSome then s.answers.map List.tail else s.answers := by
    rw [hmute.shows, hmute.answers, asked?, hasked, Option.bind_none, answersAt_of_some hn,
      Option.toList_none, ite_self]
    exact ⟨rfl, rfl⟩
  by_cases hm : m = .step (.session n)
  · subst hm
    have hphase := phaseAt_of_some hn
    by_cases hwaits : ∃ q w, s.phase = .awaiting q w
    · obtain ⟨q, w, hs⟩ := hwaits
      rw [hs] at hphase
      rcases apply_awaiting hn hs with ⟨hw, ha⟩ | ⟨outcome, hw, ha⟩
      · refine unasked ?_ (by rw [ha]; exact mute_self)
        rw [accepts?_awaiting hphase, hw, Option.bind_none]
      · rw [ha, asked?_of_awaiting hphase hw]
        exact stepOutcome_prompts (c := { c with registry := c.registry.giveUp w.ticket }) hn
          (htype q w hs) outcome
    · have hnot (q : Packet) (w : Wait) (hs : s.phase = .awaiting q w) : False := hwaits ⟨q, w, hs⟩
      refine unasked (accepts?_of_not_awaiting ?_ _) (mute_session hn hnot)
      intro q w he
      exact hnot q w (hphase.symm.trans he)
  · exact unasked (accepts?_of_ne hm) (mute_of_ne hn hm)

end Connection

end Tacacs
