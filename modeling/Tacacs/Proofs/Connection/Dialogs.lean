/-
# `Tacacs.Proofs.Connection.Dialogs` — how a login talks with its user and the server

What a user sees, what the user answers and what is written are all settled by the replies that a
login accepts (`talks_in_turn`).  The prompts are those of the replies, one by one.  The packet
after a reply carries the answer to it, and is read by the server as it was given, cut if it is too
long (`AnswerSent`).  The login ends with the first reply that asks for nothing, and reports it;
for want of an answer, when nothing more is written; and for want of numbers, when the last answer
is not sent.

A session is in one of the stages of a login from its call on (`Talk`).  What has to be known of
the connection for that is little: the packets of a login are numbered (`keeps_after`), so all of
them can be written; and a reply that is received has the body of its family.
-/
import Tacacs.Proofs.Connection.FirstPacket
import Tacacs.Proofs.Connection.Stages

namespace Tacacs

variable {answers : Option (List (Option String))} {rs : List Round} {r : Round} {qs : List Packet}
  {q reply : Packet} {heard : Except Failure Response → Prop} {i : Nat}

namespace Connection

variable {c : Connection} {n : Nat} {s : Session} {o : Sending} {w : Wait} {m : Move}
  {ms opening : List Move} {config : Config} {identifiers : Chap.IdentifierSequence}
  {minor : MinorVersion} {call : Call}

/-! ## Moves -/

/-- **Every move moves a login on from one stage to another**, and adds to its replies the one that
it accepts. -/
theorem stage_apply (hn : c.sessions[n]? = some s) (hbusy : s.phase ≠ .idle)
    (h : Stage answers heard rs qs s.phase)
    (hleft : ¬s.phase.IsOver → s.answers = answers.map (List.drop rs.length))
    (hready : ∀ q e, s.phase = .ready q → c.config.wire q ≠ .error e)
    (hwaits : ∀ q w, s.phase = .awaiting q w →
      q.header.type = .authentication ∧ q.header.sequence ≠ 254)
    (hbody : ∀ q w reply, s.phase = .awaiting q w → w.result? c.registry c.now = some (.ok reply) →
      reply.header.type = .authentication → ∃ b, reply.body = .authenReply b) (m : Move) :
    Stage answers (Hears heard s.phase ((c.apply m).1.phaseAt n))
      (rs ++ (accepts? n c m).toList) (qs ++ (registers? n c m).toList.map Sending.request)
      ((c.apply m).1.phaseAt n) := by
  obtain ⟨s', hs', -, hturn⟩ := session_apply hn m
  rw [registers?, phaseAt_of_some hn, phaseAt_of_some hs']
  by_cases hown : m = .step (.session n) ∧ ∃ q w, s.phase = .awaiting q w
  · obtain ⟨rfl, q, w, hs⟩ := hown
    obtain ⟨htype, h254⟩ := hwaits q w hs
    have hphase := (phaseAt_of_some hn).trans hs
    have hquiet : registration s.phase s'.phase = none := by
      rw [hs]
      rfl
    rw [hquiet, Option.toList_none, List.map_nil, List.append_nil, accepts?_awaiting hphase]
    obtain ⟨s₁, hs₁, -, houtcome⟩ := step_awaiting hn hs
    obtain rfl := Option.some.inj (hs'.symm.trans hs₁)
    rcases houtcome with ⟨hw, hsame⟩ | ⟨outcome, hw, hnext⟩
    · rw [hw, hsame, hears_self, Option.bind_none, Option.toList_none, List.append_nil]
      exact h
    · rw [hw, hnext, hs, Option.bind_some]
      refine (hs ▸ h).outcome (c.settings s) htype h254 (hleft ?_) ?_
      · rw [hs]
        exact id
      · rintro reply rfl
        exact hbody q w reply hs hw
  · -- nothing is accepted, and the phase says the rest
    have hnone : accepts? n c m = none := by
      refine Option.eq_none_iff_forall_ne_some.2 fun r hr => hown ?_
      obtain ⟨hm, -, w, hphase, -⟩ := accepts?_eq_some hr
      exact ⟨hm, _, w, (phaseAt_of_some hn).symm.trans hphase⟩
    rw [hnone, Option.toList_none, List.append_nil]
    generalize s'.phase = next at hturn
    have same : qs ++ (none : Option Sending).toList.map Sending.request = qs := List.append_nil qs
    cases hturn with
    | stays _ =>
      rw [registration_self, same, hears_self]
      exact h
    | called hidle _ => exact absurd hidle hbusy
    | refused hidle => exact absurd hidle hbusy
    | dropped _ =>
      have hdropped : registration s.phase .dropped = none := by
        cases s.phase <;> rfl
      rw [hdropped, same, hears_of_not_finished fun _ => SessionPhase.noConfusion]
      exact .dropped h
    | passes hp => exact h.passage hp (fun q w hs => hown ⟨rfl, q, w, hs⟩) hready

/-! ## Runs -/

/-- A session was seen to come to this end. -/
def SeenOver (c : Connection) (n : Nat) (ms : List Move) (result : Except Failure Response) :
    Prop :=
  .sessionOver n result ∈ (c.run ms).2

theorem seenOver_concat (hn : (c.after ms).sessions[n]? = some s) (m : Move) :
    SeenOver c n (ms ++ [m])
      = Hears (SeenOver c n ms) s.phase (((c.after ms).apply m).1.phaseAt n) := by
  obtain ⟨s', hs', -⟩ := session_apply hn m
  funext result
  rw [SeenOver, effects_concat, List.mem_append, sessionOver_apply result hn hs',
    phaseAt_of_some hs']
  rfl

theorem filterMap_toList {α β : Type} (x : Option α) (f : α → Option β) :
    x.toList.filterMap f = (x.bind f).toList := by
  cases x with
  | none => rfl
  | some a => cases h : f a <;> simp [h]

/-- The streams of a login in the course of some moves, and where it stands then. -/
structure Talk (answers : Option (List (Option String))) (c : Connection) (n : Nat)
    (ms : List Move) : Prop where
  /-- The prompts are those of the replies. -/
  shown : prompts c n ms
    = if answers.isSome then (rounds c n ms).filterMap Round.prompt? else []
  /-- An answer is used up for each reply. -/
  left : ¬((c.after ms).phaseAt n).IsOver →
    (c.after ms).answersAt n = answers.map (List.drop (rounds c n ms).length)
  /-- A reply is not accepted before its request is written. -/
  written : (rounds c n ms).length ≤ (written c n ms).length
  stage : Stage answers (SeenOver c n ms) (rounds c n ms) ((registered c n ms).map Sending.request)
    ((c.after ms).phaseAt n)

theorem quiet_of_idle (hidle : (c.after ms).phaseAt n = .idle) :
    rounds c n ms = [] ∧ prompts c n ms = [] ∧ ∀ result, ¬SeenOver c n ms result := by
  induction ms using List.reverseRecOn with
  | nil => exact ⟨rfl, rfl, fun result h => absurd h List.not_mem_nil⟩
  | append_singleton ms m ih =>
    rw [after_concat] at hidle
    have hbefore : (c.after ms).phaseAt n = .idle := by
      by_contra hbusy
      exact busy_apply hbusy m hidle
    obtain ⟨hrounds, hprompts, hover⟩ := ih hbefore
    have hnot : ∀ q w, (c.after ms).phaseAt n ≠ .awaiting q w := by
      intro q w he
      cases hbefore.symm.trans he
    refine ⟨?_, ?_, ?_⟩
    · rw [rounds_concat, hrounds, accepts?_of_not_awaiting hnot]
      rfl
    · rw [prompts_concat, hprompts, shows_of_not_awaiting hnot]
      rfl
    · intro result h
      rw [SeenOver, effects_concat] at h
      rcases List.mem_append.1 h with h | h
      · exact hover result h
      · obtain ⟨s, hn⟩ := sessionOver_session h
        obtain ⟨s', hs', -⟩ := session_apply hn m
        obtain ⟨-, he⟩ := (sessionOver_apply result hn hs').1 h
        cases hidle.symm.trans ((phaseAt_of_some hs').trans he)

theorem talk_called (hn : ((fresh config identifiers).after opening).sessions[n]? = some s)
    (hidle : s.phase = .idle) (htype : call.type = .authentication) :
    Talk s.answers (fresh config identifiers) n (opening ++ [.callSession n call]) := by
  have hphase := (phaseAt_of_some hn).trans hidle
  obtain ⟨hrounds, hprompts, hover⟩ := quiet_of_idle hphase
  have hr := recorded_after config identifiers n opening
  rw [hphase] at hr
  obtain ⟨hregistered, -, -⟩ := hr
  obtain ⟨s', q, hs', -, hready, -⟩ := apply_callSession hn hidle htype
  have hnext := (phaseAt_of_some hs').trans hready
  have hmute := mute_of_ne (m := .callSession n call) hn Move.noConfusion
  have hregisters : registers? n ((fresh config identifiers).after opening) (.callSession n call)
      = none := by
    rw [registers?, hphase]
    rfl
  have hnone : rounds (fresh config identifiers) n (opening ++ [.callSession n call]) = [] := by
    rw [rounds_concat, hrounds, accepts?_of_ne Move.noConfusion]
    rfl
  constructor
  case shown =>
    rw [hnone, prompts_concat, hprompts, hmute.shows, List.filterMap_nil, ite_self]
    rfl
  case left =>
    intro _
    rw [hnone, after_concat, hmute.answers, answersAt_of_some hn]
    exact Option.map_id'.symm
  case written =>
    rw [hnone]
    exact Nat.zero_le _
  case stage =>
    rw [hnone, seenOver_concat hn, after_concat, hnext, registered, gather_concat, ← registered,
      hregistered, hregisters, hears_of_not_finished fun _ => SessionPhase.noConfusion]
    exact .ready hover .opens

theorem routes_of_awaiting (hn : ((fresh config identifiers).after ms).sessions[n]? = some s)
    (hs : s.phase = .awaiting q w)
    (hw : w.result? ((fresh config identifiers).after ms).registry
      ((fresh config identifiers).after ms).now = some (.ok reply)) :
    ∃ before later f, ms = before ++ .step .dispatcher :: later ∧
      Routes ((fresh config identifiers).after before) f w.ticket reply := by
  have hflight : InFlight ((fresh config identifiers).after ms) n s.id q w.ticket :=
    ⟨s, hn, rfl, by rw [hs]; rfl⟩
  obtain ⟨before, later, f, hsplit, hroutes, -⟩ := inFlight_reply hflight (outcome?_of_result? hw)
  exact ⟨before, later, f, hsplit, hroutes⟩

theorem authenReply_of_routes {f : Frame} {t : Ticket} (h : Routes c f t reply)
    (htype : reply.header.type = .authentication) : ∃ b, reply.body = .authenReply b := by
  obtain ⟨hheader, ⟨-, b, -, hb⟩ | ⟨hother, -⟩⟩ := ofReceived_family h.reads
  · exact ⟨b, hb⟩
  · rw [hheader, hother] at htype
    cases htype

theorem sequence_ne_254 {id : SessionId} (h : Numbered config id minor i q) :
    q.header.sequence ≠ 254 := by
  intro he
  have hsequence := h.sequence
  rw [he] at hsequence
  have hodd : (254 : Nat) = 2 * i + 1 := hsequence
  omega

/-- A reply is accepted when its request is written, and all requests before it. -/
theorem written_of_accepts {os ws : List Sending} {out : Octets}
    (hr : Recorded os ws out (c.phaseAt n))
    (hstage : Stage answers heard rs (os.map Sending.request) (c.phaseAt n))
    (h : accepts? n c m = some r) : ws.length = rs.length + 1 := by
  obtain ⟨-, -, w, hawaits, -⟩ := accepts?_eq_some h
  rw [hawaits] at hr hstage
  obtain ⟨-, hqs, -⟩ := hstage.of_inFlight rfl
  obtain ⟨done, o, -, -, -, rfl, -⟩ := hr
  have hlength := congrArg List.length hqs
  rwa [List.length_map, List.length_append, List.length_map] at hlength

/-- For each reply that asks for input an answer is used up. -/
theorem used_up (answers : Option (List (Option String))) (k : Nat)
    (h : ∀ r, accepts? n c m = some r → r.prompt?.isSome = true) :
    (if (asked? n c m).isSome then (answers.map (List.drop k)).map List.tail
        else answers.map (List.drop k))
      = answers.map (List.drop (k + (accepts? n c m).toList.length)) := by
  cases haccepts : accepts? n c m with
  | none =>
    rw [asked?, haccepts, Option.bind_none]
    rfl
  | some r =>
    rw [asked?, haccepts, Option.bind_some, if_pos (h r haccepts), Option.map_map]
    exact congrArg (Option.map · answers) (funext fun left => List.tail_drop)

/-- **Every move keeps the talk of a login in order.** -/
theorem talk_apply (hn : ((fresh config identifiers).after ms).sessions[n]? = some s)
    (hbusy : s.phase ≠ .idle)
    (hkeeps : Keeps config s.id minor (registered (fresh config identifiers) n ms) s.phase)
    (h : Talk answers (fresh config identifiers) n ms) (m : Move) :
    Talk answers (fresh config identifiers) n (ms ++ [m]) := by
  have hconfig := config_after (fresh config identifiers) ms
  have hphase := phaseAt_of_some hn
  have hr := recorded_after config identifiers n ms
  obtain ⟨hshown, hleft, hwritten, hstage⟩ := h
  rw [hphase] at hr hleft hstage
  rw [answersAt_of_some hn] at hleft
  have hwaits (q : Packet) (w : Wait) (hs : s.phase = .awaiting q w) :
      q.header.type = .authentication ∧ q.header.sequence ≠ 254 := by
    rw [hs] at hr
    obtain ⟨done, o, -, -, -, hnumbered, -⟩ := numbered_of_recorded hr hkeeps
    exact ⟨hnumbered.type, sequence_ne_254 hnumbered⟩
  have hready (q : Packet) (e : EncodeError) (hs : s.phase = .ready q) :
      ((fresh config identifiers).after ms).config.wire q ≠ .error e := by
    rw [hconfig]
    intro he
    cases (hkeeps.next q hs).wire.symm.trans he
  have hbody (q : Packet) (w : Wait) (reply : Packet) (hs : s.phase = .awaiting q w)
      (hw : w.result? ((fresh config identifiers).after ms).registry
        ((fresh config identifiers).after ms).now = some (.ok reply))
      (htype : reply.header.type = .authentication) : ∃ b, reply.body = .authenReply b := by
    obtain ⟨before, later, f, -, hroutes⟩ := routes_of_awaiting hn hs hw
    exact authenReply_of_routes hroutes htype
  have hlater : Stage answers (SeenOver (fresh config identifiers) n (ms ++ [m]))
      (rounds (fresh config identifiers) n (ms ++ [m]))
      ((registered (fresh config identifiers) n (ms ++ [m])).map Sending.request)
      (((fresh config identifiers).after (ms ++ [m])).phaseAt n) := by
    rw [seenOver_concat hn, rounds_concat, registered, gather_concat, ← registered, List.map_append,
      after_concat]
    exact stage_apply hn hbusy hstage hleft hready hwaits hbody m
  obtain ⟨hshows, hused⟩ := prompts_apply hn (fun q w hs => (hwaits q w hs).1) m
  constructor
  case shown =>
    rw [prompts_concat, rounds_concat, hshows, hshown, List.filterMap_append, filterMap_toList,
      ← asked?]
    by_cases hover : s.phase.IsOver
    · rw [asked?, accepts?_of_over (hphase ▸ hover), Option.bind_none, Option.toList_none,
        ite_self, List.append_nil, List.append_nil]
    · rw [hleft hover, Option.isSome_map]
      split <;> rfl
  case left =>
    intro hnot
    have hbefore : ¬s.phase.IsOver := by
      intro hover
      refine hnot ?_
      rw [after_concat]
      exact isOver_apply (hphase ▸ hover) m
    rw [after_concat, hused, hleft hbefore, rounds_concat, List.length_append]
    refine used_up answers _ fun r haccepts => hlater.asks_of_not_over hnot ?_
    rw [rounds_concat, haccepts]
    exact List.mem_append_right _ (List.mem_singleton_self r)
  case written =>
    rw [rounds_concat, List.length_append, Connection.written, gather_concat, ← Connection.written]
    refine Nat.le_trans ?_ (List.prefix_append _ _).length_le
    cases haccepts : accepts? n ((fresh config identifiers).after ms) m with
    | none => exact hwritten
    | some r =>
      have hsame := written_of_accepts (hphase ▸ hr) (hphase ▸ hstage) haccepts
      exact Nat.le_of_eq hsame.symm
  case stage => exact hlater

theorem talk_after (hn : ((fresh config identifiers).after opening).sessions[n]? = some s)
    (hidle : s.phase = .idle) (htype : call.type = .authentication) (rest : List Move) :
    Talk s.answers (fresh config identifiers) n (opening ++ .callSession n call :: rest) := by
  induction rest using List.reverseRecOn with
  | nil => exact talk_called hn hidle htype
  | append_singleton rest m ih =>
    have hsplit : opening ++ .callSession n call :: (rest ++ [m])
        = (opening ++ .callSession n call :: rest) ++ [m] := by
      rw [List.append_assoc, List.cons_append]
    obtain ⟨s', hs', hbusy, hkeeps⟩ := keeps_after ⟨opening, rest, s, rfl, hn, hidle⟩ htype
    rw [hsplit]
    exact talk_apply hs' hbusy hkeeps ih m

/-! ## What is read of an answer -/

/-- An answer as it goes out: it is in the packet, and whoever has the secret reads it there. -/
structure AnswerSent (config : Config) (reply : Packet) (answer : String) (o : Sending) : Prop where
  carries : CarriesAnswer reply answer o.request
  read : ∃ text, (answer.utf8ByteSize ≤ 65535 → text = answer) ∧
    text = Text.Utf8.decode ((Text.Utf8.encode answer).take 65535) ∧
      ∀ more, (Packet.receive .request config.key (o.octets ++ more)).packet
        = .ok ⟨o.request.header, .continue ⟨text, [], 0⟩⟩

theorem answerSent_of_carries {id : SessionId} {answer : String}
    (hnumbered : Numbered config id minor (i + 1) o.request)
    (hwire : config.wire o.request = .ok o.octets) (h : CarriesAnswer reply answer o.request) :
    AnswerSent config reply answer o := by
  refine ⟨h, Text.Utf8.clip 65535 answer, Text.Utf8.clip_of_le, rfl, fun more => ?_⟩
  have htype : o.request.header.type = o.request.body.type := by
    rw [hnumbered.type, h.body]
    rfl
  have htravels : o.request.Travels .request := by
    rw [Packet.Travels, h.body]
    intro he
    have hsequence := hnumbered.sequence
    rw [he] at hsequence
    have hone : (1 : Nat) = 2 * (i + 1) + 1 := hsequence
    omega
  have hoctets : o.octets = o.request.octets config.key :=
    Except.ok.inj (hwire.symm.trans hnumbered.wire)
  rw [hoctets, Packet.receive_octets htype htravels (.inr rfl), h.body]
  rfl

/-! ## The dialog -/

/-- How the streams of a login fit together whose user gives these answers. -/
structure TalksInTurn (answers : Option (List (Option String))) (c : Connection) (n : Nat)
    (ms : List Move) : Prop where
  /-- The user is prompted for every reply that is accepted and asks for input, with what it
  says, and for nothing else. -/
  prompts : prompts c n ms
    = if answers.isSome then (rounds c n ms).filterMap Round.prompt? else []
  /-- What is accepted was received and read, is of the family of its request and has the next
  number. -/
  accepted : ∀ r ∈ rounds c n ms, Accepts r.request r.reply ∧
    ∃ before later f t, ms = before ++ .step .dispatcher :: later ∧
      Routes (c.after before) f t r.reply
  /-- Each reply answers the packet with its place. -/
  requests : (rounds c n ms).map Round.request <+: (written c n ms).map Sending.request
  /-- All replies but the last ask for input. -/
  onward : ∀ i r, (rounds c n ms)[i]? = some r → i + 1 < (rounds c n ms).length →
    r.prompt?.isSome = true
  /-- The first packet carries no answer. -/
  first : ∀ o, (written c n ms).head? = some o → ∃ b, o.request.body = .start b
  /-- Each of the others carries the answer to the reply before it. -/
  later : ∀ i o, (written c n ms)[i + 1]? = some o → ∃ r answer, (rounds c n ms)[i]? = some r ∧
    r.prompt?.isSome = true ∧ given answers i = some answer ∧ AnswerSent c.config r.reply answer o
  /-- Each packet goes out once, and nothing else does. -/
  sent : SentUpTo (written c n ms) (sentBy c n ms)
  /-- An answer is taken up, unless the login is called off before. -/
  takenUp : ∀ i r answer, (rounds c n ms)[i]? = some r → r.prompt?.isSome = true →
    given answers i = some answer → r.reply.header.sequence ≠ 254 →
      (∃ o, (registered c n ms)[i + 1]? = some o ∧ CarriesAnswer r.reply answer o.request) ∨
        (∃ q, (c.after ms).phaseAt n = .ready q ∧ CarriesAnswer r.reply answer q) ∨
          (c.after ms).phaseAt n = .dropped
  /-- The answer to the reply with number 254 is not sent, and the login ends for want of
  numbers. -/
  exhausted : ∀ i r answer, (rounds c n ms)[i]? = some r → r.prompt?.isSome = true →
    given answers i = some answer → r.reply.header.sequence = 254 →
      (written c n ms).length = i + 1 ∧
        (∀ result, SeenOver c n ms result → result = .error .sequenceExhausted) ∧
          ((c.after ms).phaseAt n = .dropped ∨
            SeenOver c n (ms ++ [.step (.session n)]) (.error .sequenceExhausted))
  /-- Without an answer the login ends, and writes nothing more. -/
  silent : ∀ i r, (rounds c n ms)[i]? = some r → r.prompt?.isSome = true → given answers i = none →
    (written c n ms).length = i + 1 ∧ ∀ result, SeenOver c n ms result ↔ result = .error .noInput
  /-- The response is the first reply that asks for nothing. -/
  response : ∀ response, SeenOver c n ms (.ok response) ↔ ∃ r b,
    (rounds c n ms).find? (fun r => r.prompt?.isNone) = some r ∧ r.reply.body = .authenReply b ∧
      response = .authentication ⟨b.status, b.message, b.data, b.noEcho⟩

theorem received_of_accepted (h : r ∈ rounds (fresh config identifiers) n ms) :
    Accepts r.request r.reply ∧ ∃ before later f t, ms = before ++ .step .dispatcher :: later ∧
      Routes ((fresh config identifiers).after before) f t r.reply := by
  obtain ⟨sooner, m, rest, rfl, haccepts⟩ := mem_gather.1 h
  obtain ⟨-, hr, w, hphase, hw⟩ := accepts?_eq_some haccepts
  obtain ⟨s, hn, hs⟩ := session_of_phaseAt hphase SessionPhase.noConfusion
  obtain ⟨before, later, f, rfl, hroutes⟩ := routes_of_awaiting hn hs hw
  exact ⟨hr, before, later ++ m :: rest, f, w.ticket, by simp, hroutes⟩

/-- A login without a number left ends when it goes on. -/
theorem seenOver_of_toSend (h : ToSend (SeenOver c n ms) q ((c.after ms).phaseAt n))
    (h255 : q.header.sequence = 255) :
    (c.after ms).phaseAt n = .dropped ∨
      SeenOver c n (ms ++ [.step (.session n)]) (.error .sequenceExhausted) := by
  rcases h.stands with hready | hover | hdropped
  · obtain ⟨s, hn, hs⟩ := session_of_phaseAt hready SessionPhase.noConfusion
    have hstep : (c.after ms).step (.session n)
        = some ((c.after ms).endSession n (.error .sequenceExhausted)) := by
      rw [step_session_eq hn, stepSession]
      simp only [hs, stepReady, if_pos h255]
    right
    rw [SeenOver, effects_concat, apply_step_of_some hstep]
    exact List.mem_append_right _ (List.mem_singleton_self _)
  · right
    rw [SeenOver, effects_concat]
    exact List.mem_append_left _ hover
  · exact .inl hdropped

/-- **Prompts, answers and packets match the replies of the server**, whatever the settings, the
answers and the server, and whatever else goes on over the connection. -/
theorem talks_in_turn (config : Config) (identifiers : Chap.IdentifierSequence)
    (hn : ((fresh config identifiers).after opening).sessions[n]? = some s)
    (hidle : s.phase = .idle) (htype : call.type = .authentication) (rest : List Move) :
    TalksInTurn s.answers (fresh config identifiers) n
      (opening ++ .callSession n call :: rest) := by
  obtain ⟨hshown, -, hanswered, hstage⟩ := talk_after hn hidle htype rest
  obtain ⟨s', -, -, hkeeps⟩ := keeps_after ⟨opening, rest, s, rfl, hn, hidle⟩ htype
  obtain ⟨hbegun, -, hsent⟩ := recorded_any
    (recorded_after config identifiers n (opening ++ .callSession n call :: rest))
  generalize opening ++ .callSession n call :: rest = ms at *
  have hpast := hkeeps.past
  obtain ⟨past, q, hled, hrounds, hnext, hqs⟩ := hstage.led
  have hlength {i : Nat} {r : Round} (hr : (rounds (fresh config identifiers) n ms)[i]? = some r)
      (hi : ((registered (fresh config identifiers) n ms).map Sending.request).length = i + 1) :
      (written (fresh config identifiers) n ms).length = i + 1 := by
    rw [List.length_map] at hi
    exact Nat.le_antisymm (Nat.le_trans hbegun.length_le (Nat.le_of_eq hi))
      (Nat.le_trans (List.getElem?_eq_some_iff.1 hr).1 hanswered)
  have hnumbers (p : Packet)
      (hp : p ∈ (registered (fresh config identifiers) n ms).map Sending.request) :
      p.header.sequence ≠ 255 := by
    obtain ⟨o, ho, rfl⟩ := List.mem_map.1 hp
    obtain ⟨i, hi⟩ := List.mem_iff_getElem?.1 ho
    obtain ⟨hnumbered, hlt, -⟩ := hpast i o hi
    exact fun he => absurd (hnumbered.sequence_eq_iff.1 he) (Nat.ne_of_lt hlt)
  exact {
    prompts := hshown
    accepted := fun r hr => received_of_accepted hr
    requests := List.prefix_of_prefix_length_le hstage.requests (hbegun.map Sending.request) (by
      rwa [List.length_map, List.length_map])
    onward := by
      intro i r hr hi
      have hlt : i < past.length := Nat.lt_of_succ_lt_succ (Nat.lt_of_lt_of_le hi hnext)
      have hsame := getElem?_of_grown hrounds (List.getElem?_eq_getElem hlt)
      obtain rfl := Option.some.inj (hr.symm.trans hsame)
      exact hled.asks (List.getElem_mem hlt)
    first := by
      intro o ho
      rw [List.head?_eq_getElem?] at ho
      obtain ⟨hnumbered, -⟩ := hpast 0 o (getElem?_of_grown hbegun ho)
      exact hnumbered.first rfl
    later := by
      intro i o ho
      have hregistered := getElem?_of_grown hbegun ho
      obtain ⟨hnumbered, -, hwire⟩ := hpast (i + 1) o hregistered
      have hq := getElem?_of_grown hqs
        ((List.getElem?_map ..).trans (congrArg (Option.map Sending.request) hregistered))
      obtain ⟨r, answer, hr, hgiven, hcarries⟩ := hled.carries hq
      exact ⟨r, answer, getElem?_of_grown hrounds hr, hled.asks (List.mem_of_getElem? hr), hgiven,
        answerSent_of_carries hnumbered hwire hcarries⟩
    sent := hsent
    takenUp := by
      intro i r answer hr hasks hgiven hnot
      rcases hstage.takes_up hr hasks hgiven hnot with ⟨p, hp, hcarries⟩ | h
      · obtain ⟨o, ho, rfl⟩ := Option.map_eq_some_iff.1 ((List.getElem?_map ..).symm.trans hp)
        exact .inl ⟨o, ho, hcarries⟩
      · exact .inr h
    exhausted := by
      intro i r answer hr hasks hgiven hlast
      obtain ⟨hi, q, h255, hsend⟩ := hstage.exhausted hr hasks hgiven hlast hnumbers
      exact ⟨hlength hr hi, fun result h => (hsend.ends result h).1, seenOver_of_toSend hsend h255⟩
    silent := by
      intro i r hr hasks hgiven
      obtain ⟨hi, hover⟩ := hstage.silent hr hasks hgiven
      exact ⟨hlength hr hi, hover⟩
    response := hstage.responds }

/-- A reply of the server under the secret "key". -/
def serverReply (sequence : UInt8) (body : Octets) : List Move :=
  [.arrive [.octets ([0xC0, 0x01, sequence, 0, 0, 0, 0, 7, 0, 0, 0, UInt8.ofNat body.length]
      ++ Pad.toggle [0x6B, 0x65, 0x79] ⟨.default, .authentication, sequence, ⟨0⟩, 7⟩ body)],
    .step .dispatcher, .step (.session 0)]

/-- A login in which the server asks for a name, "name?", and a password, "word?". -/
def namedLogin : List Move :=
  [.openSession [7] {} (some [some "alice", some "sesame"])]
    ++ .callSession 0 .ascii :: (.startDispatcher :: List.replicate 5 (.step (.session 0))
      ++ serverReply 2 [4, 0, 0, 5, 0, 0, 0x6E, 0x61, 0x6D, 0x65, 0x3F]
      ++ List.replicate 5 (.step (.session 0))
      ++ serverReply 4 [5, 1, 0, 5, 0, 0, 0x77, 0x6F, 0x72, 0x64, 0x3F]
      ++ List.replicate 5 (.step (.session 0)) ++ serverReply 6 [1, 0, 0, 0, 0, 0])

theorem talks_in_turn_namedLogin :
    prompts (fresh { secret := some [0x6B, 0x65, 0x79] } ⟨0⟩) 0 namedLogin
        = [⟨"name?", false, .user⟩, ⟨"word?", true, .password⟩] ∧
      (written (fresh { secret := some [0x6B, 0x65, 0x79] } ⟨0⟩) 0 namedLogin).length = 3 ∧
      SeenOver (fresh { secret := some [0x6B, 0x65, 0x79] } ⟨0⟩) 0 namedLogin
        (.ok (.authentication ⟨.pass, "", [], false⟩)) ∧
      TalksInTurn (some [some "alice", some "sesame"])
        (fresh { secret := some [0x6B, 0x65, 0x79] } ⟨0⟩) 0 namedLogin := by
  refine ⟨?_, ?_, ?_, ?_⟩
  · decide +kernel
  · decide +kernel
  · show .sessionOver 0 (.ok (.authentication ⟨.pass, "", [], false⟩))
      ∈ ((fresh { secret := some [0x6B, 0x65, 0x79] } ⟨0⟩).run namedLogin).2
    decide +kernel
  · exact talks_in_turn _ _ (s := ⟨7, {}, some [some "alice", some "sesame"], .idle⟩) rfl rfl rfl _

end Connection

end Tacacs
