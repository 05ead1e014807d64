/-
# `Tacacs.Proofs.Connection.NoFalseSuccess` — a session says yes only if the server said so

A session comes to a response along five layers: the reader cuts a packet out of
the stream, the dispatcher looks at its flag, brings its body to light and reads
it, the registry passes it on, and the session judges it against its request.
Whatever happens besides, in whatever order, and whatever the server sends, a
response stands at the end of one such path (`no_false_success`).

`Answers` is what the path guarantees about the packet and the response.  Half of
it is known at its end, from `judge`; the other half was established when the
packet was routed (`Routes`), and comes back through `inFlight_reply`.  The kind
of the response is that of the call: a session keeps to the family of its first
packet, and an authorization session never gets past that packet
(`request_called`).
-/
import Tacacs.Proofs.Connection.Replies

namespace Tacacs

/-! ## What a packet of the server has to be -/

/-- The family of packets a call deals in. -/
def Call.type : Call → PacketType
  | .ascii | .pap .. | .chap .. => .authentication
  | .authorize .. => .authorization

/-- The request a session is busy with. -/
def SessionPhase.request? : SessionPhase → Option Packet
  | .ready request => some request
  | phase => phase.inFlight?.map Prod.fst

namespace Connection

/-- The response to a login reports what is read as a reply from a body: its status,
which asks for nothing, its message, its data and whether to echo. -/
structure ReportsAuthen (plain : Octets) (r : AuthenResponse) (reply : Authentication.Reply) :
    Prop where
  reads : Authentication.Reply.decode? plain = some reply
  ends : reply.status ≠ .getData ∧ reply.status ≠ .getUser ∧ reply.status ≠ .getPassword
  same : r = ⟨reply.status, reply.message, reply.data, reply.noEcho⟩
  passed : r.passed = true ↔ plain.head? = some 0x01

/-- The response to a request for authorization reports what is read as a reply from
a body. -/
structure ReportsAuthor (plain : Octets) (r : AuthorResponse) (reply : Authorization.Reply) :
    Prop where
  reads : Authorization.Reply.decode? plain = some reply
  same : r = ⟨reply.status, reply.message, reply.data, reply.arguments⟩
  passed : r.passed = true ↔ plain.head? = some 0x01 ∨ plain.head? = some 0x02

/-- The response to a call of this family reports what is read from a body. -/
def Reports (plain : Octets) : PacketType → Response → Prop
  | .authentication, .authentication r => ∃ reply, ReportsAuthen plain r reply
  | .authorization, .authorization r => ∃ reply, ReportsAuthor plain r reply
  | _, _ => False

/-- A packet of the server answers the request of a session to which this response
was given. -/
structure Answers (config : Config) (call : Call) (id : SessionId) (request : Packet) (f : Frame)
    (response : Response) : Prop where
  session : f.header.session = id
  type : f.header.type = call.type
  sequence : f.header.sequence.toNat = request.header.sequence.toNat + 1
  second : call.type = .authorization → f.header.sequence = 2
  flag : f.header.flags.unencrypted = config.unencrypted
  reports : Reports (Pad.toggle config.key f.header f.body) call.type response

/-- In the course of these moves a session was called that had not been called
before. -/
def Called (c : Connection) (ms : List Move) (n : Nat) (call : Call) : Prop :=
  ∃ opening rest s, ms = opening ++ .callSession n call :: rest ∧
    (c.after opening).sessions[n]? = some s ∧ s.phase = .idle

/-- How a session came to a response in the course of these moves. -/
structure Trail (c : Connection) (ms : List Move) (n : Nat) (response : Response) where
  before : List Move
  between : List Move
  rest : List Move
  call : Call
  id : SessionId
  request : Packet
  ticket : Ticket
  frame : Frame
  reply : Packet
  /-- A packet is routed, and later the session goes on. -/
  split : ms = before ++ .step .dispatcher :: between ++ .step (.session n) :: rest
  /-- The session had been called. -/
  called : Called c before n call
  /-- The packet is routed to this exchange, which is awaited until then. -/
  routes : Routes (c.after before) frame ticket reply
  /-- The exchange is that of the session's request, from the routing until the session
  goes on: this is its last request. -/
  kept : ∀ mid later, .step .dispatcher :: between = mid ++ later →
    InFlight (c.after (before ++ mid)) n id request ticket
  /-- When the session goes on, it returns the response. -/
  returns : .sessionOver n (.ok response) ∈
    ((c.after (before ++ .step .dispatcher :: between)).apply (.step (.session n))).2
  /-- The packet answers the request, and the response reports it. -/
  answers : Answers c.config call id request frame response

/-! ## What a reply has to be to end a session -/

theorem status_ofCode_eq_pass {code : UInt8} :
    Authentication.Status.ofCode code = .pass ↔ code = 0x01 := by
  constructor
  · intro h
    rw [← Authentication.Status.code_ofCode code, h]
    rfl
  · rintro rfl
    rfl

theorem isPass_ofCode {code : UInt8} :
    (Authorization.Status.ofCode code).isPass = true ↔ code = 0x01 ∨ code = 0x02 := by
  constructor
  · intro h
    rw [← Authorization.Status.code_ofCode code]
    cases hs : Authorization.Status.ofCode code with
    | passAdd => exact Or.inl rfl
    | passReplace => exact Or.inr rfl
    | fail => rw [hs] at h; cases h
    | error => rw [hs] at h; cases h
    | follow => rw [hs] at h; cases h
    | unknown _ => rw [hs] at h; cases h
  · rintro (rfl | rfl) <;> rfl

theorem head?_of_authenReply {plain : Octets} {reply : Authentication.Reply}
    (h : Authentication.Reply.decode? plain = some reply) :
    ∃ code, plain.head? = some code ∧ reply.status = .ofCode code := by
  unfold Authentication.Reply.decode? at h
  split at h
  · split at h
    · cases h
      exact ⟨_, rfl, rfl⟩
    · cases h
  · cases h

theorem head?_of_authorReply {plain : Octets} {reply : Authorization.Reply}
    (h : Authorization.Reply.decode? plain = some reply) :
    ∃ code, plain.head? = some code ∧ reply.status = .ofCode code := by
  unfold Authorization.Reply.decode? at h
  split at h
  · dsimp only at h
    split at h
    · cases h
    · split at h
      · cases h
        exact ⟨_, rfl, rfl⟩
      · cases h
  · cases h

/-- A packet that is read as a reply keeps its header, and its body is that of its
family. -/
theorem ofReceived_family {key : Octets} {h : Header} {body : Octets} {p : Packet}
    (hp : Packet.ofReceived .reply key h body = .ok p) :
    p.header = h ∧
      (h.type = .authentication ∧
          (∃ reply, Authentication.Reply.decode? (Pad.toggle key h body) = some reply ∧
            p.body = .authenReply reply) ∨
        h.type = .authorization ∧
          ∃ reply, Authorization.Reply.decode? (Pad.toggle key h body) = some reply ∧
            p.body = .authorReply reply) := by
  unfold Packet.ofReceived Packet.ofPlain Packet.bodyKind at hp
  cases htype : h.type with
  | authentication =>
    simp only [htype, Body.decode] at hp
    cases hd : Authentication.Reply.decode? (Pad.toggle key h body) with
    | none =>
      rw [hd] at hp
      cases hp
    | some reply =>
      rw [hd] at hp
      cases hp
      exact ⟨rfl, Or.inl ⟨rfl, reply, rfl, rfl⟩⟩
  | authorization =>
    simp only [htype, Body.decode] at hp
    cases hd : Authorization.Reply.decode? (Pad.toggle key h body) with
    | none =>
      rw [hd] at hp
      cases hp
    | some reply =>
      rw [hd] at hp
      cases hp
      exact ⟨rfl, Or.inr ⟨rfl, reply, rfl, rfl⟩⟩
  | accounting =>
    simp only [htype] at hp
    cases hp

theorem ofReceived_reply {key : Octets} {h : Header} {body : Octets} {p : Packet}
    (hp : Packet.ofReceived .reply key h body = .ok p) :
    p.header = h ∧
      ((∃ reply, Authentication.Reply.decode? (Pad.toggle key h body) = some reply ∧
          p.body = .authenReply reply) ∨
        ∃ reply, Authorization.Reply.decode? (Pad.toggle key h body) = some reply ∧
          p.body = .authorReply reply) := by
  obtain ⟨hheader, ⟨-, hread⟩ | ⟨-, hread⟩⟩ := ofReceived_family hp
  · exact ⟨hheader, Or.inl hread⟩
  · exact ⟨hheader, Or.inr hread⟩

theorem judge_asks {request reply : Packet} {message : String} {noEcho : Bool} {kind : PromptKind}
    (h : judge request reply = .asks message noEcho kind) :
    request.header.type = .authentication ∧ reply.header.type = .authentication := by
  unfold judge at h
  split at h
  · cases h
  · rename_i htype
    have htype := Classical.not_not.1 htype
    split at h
    · cases h
    · split at h
      · rename_i hq _
        exact ⟨hq, htype.trans hq⟩
      · cases h
      · cases h

/-- A reply that ends a session well is of the family of its request and follows it,
and the response says what it says. -/
theorem judge_ok {request reply : Packet} {response : Response}
    (h : judge request reply = .finished (.ok response)) :
    reply.header.type = request.header.type ∧
      reply.header.sequence = request.header.sequence + 1 ∧
      ((∃ r, request.header.type = .authentication ∧ reply.body = .authenReply r ∧
          PromptKind.ofStatus? r.status = none ∧
          response = .authentication ⟨r.status, r.message, r.data, r.noEcho⟩) ∨
        ∃ r, request.header.type = .authorization ∧ reply.body = .authorReply r ∧
          response = .authorization ⟨r.status, r.message, r.data, r.arguments⟩) := by
  unfold judge at h
  split at h
  · cases h
  · rename_i htype
    refine ⟨Classical.not_not.1 htype, ?_⟩
    split at h
    · cases h
    · rename_i hsequence
      refine ⟨Classical.not_not.1 hsequence, ?_⟩
      split at h
      · rename_i r hq hr
        split at h
        · cases h
        · rename_i hstatus
          cases h
          exact Or.inl ⟨r, hq, hr, hstatus, rfl⟩
      · rename_i r hq hr
        cases h
        exact Or.inr ⟨r, hq, hr, rfl⟩
      · cases h

/-- What a response reports is in the body that was received. -/
theorem reports_of_judge {key : Octets} {f : Frame} {request reply : Packet} {response : Response}
    (hread : Packet.ofReceived .reply key f.header f.body = .ok reply)
    (h : judge request reply = .finished (.ok response)) :
    Reports (Pad.toggle key f.header f.body) request.header.type response := by
  obtain ⟨-, hbody⟩ := ofReceived_reply hread
  obtain ⟨-, -, ⟨r, htype, hr, hstatus, rfl⟩ | ⟨r, htype, hr, rfl⟩⟩ := judge_ok h
  · rcases hbody with ⟨reply', hdecode, hb⟩ | ⟨reply', hdecode, hb⟩
    · obtain rfl : r = reply' := Body.authenReply.inj (hr.symm.trans hb)
      obtain ⟨code, hcode, hs⟩ := head?_of_authenReply hdecode
      rw [htype]
      refine ⟨r, hdecode, ?_, rfl, ?_⟩
      · refine ⟨?_, ?_, ?_⟩ <;>
        · intro he
          rw [he] at hstatus
          cases hstatus
      · rw [hcode, Option.some.injEq, ← status_ofCode_eq_pass, ← hs]
        exact beq_iff_eq
    · cases hr.symm.trans hb
  · rcases hbody with ⟨reply', hdecode, hb⟩ | ⟨reply', hdecode, hb⟩
    · cases hr.symm.trans hb
    · obtain rfl : r = reply' := Body.authorReply.inj (hr.symm.trans hb)
      obtain ⟨code, hcode, hs⟩ := head?_of_authorReply hdecode
      rw [htype]
      refine ⟨r, hdecode, rfl, ?_⟩
      rw [hcode, Option.some.injEq, Option.some.injEq, ← isPass_ofCode, ← hs]
      exact Iff.rfl

/-! ## What a session was called to do -/

theorem new?_eq {h : Header} {b : Body} {p : Packet} (hp : Packet.new? h b = some p) :
    p = ⟨h, b⟩ := by
  unfold Packet.new? at hp
  split at hp
  · cases hp
  · split at hp
    · split at hp
      · exact (Option.some.inj hp).symm
      · cases hp
    · exact (Option.some.inj hp).symm

theorem firstPacket?_header {s : SessionSettings} {identifier : UInt8} {call : Call} {q : Packet}
    (h : s.firstPacket? identifier call = some q) :
    q.header.type = call.type ∧ q.header.sequence = 1 := by
  have start : ∀ {type user data}, s.start? type user data = some q →
      q.header.type = .authentication ∧ q.header.sequence = 1 := by
    intro type user data h
    obtain ⟨minor, -, h⟩ := Option.bind_eq_some_iff.1 h
    obtain ⟨body, -, h⟩ := Option.bind_eq_some_iff.1 h
    rw [new?_eq h]
    exact ⟨rfl, rfl⟩
  cases call with
  | ascii => exact start h
  | pap user password => exact start h
  | chap user password challenge => exact start h
  | authorize user method type service arguments =>
    rw [new?_eq h]
    exact ⟨rfl, rfl⟩

theorem followUp_type {s : SessionSettings} {request reply next : Packet} {input : String}
    (h : s.followUp request reply input = .ok next) :
    next.header.type = reply.header.type := by
  unfold SessionSettings.followUp at h
  split at h
  · cases h
  · rename_i header hnext
    unfold Header.next? at hnext
    split at hnext
    · cases hnext
    · split at h
      · rename_i p hp
        cases h
        rw [new?_eq hp, ← Option.some.inj hnext]
      · cases h

theorem request_passage {c : Connection} {id : SessionId} {s s' : SessionPhase} {r : Registry}
    {q : Packet} (h : Passage c id s s' r) (hq : s'.request? = some q) :
    s.request? = some q ∨ q.header.type = .authentication ∧
      ∃ q₀, s.request? = some q₀ ∧ q₀.header.type = .authentication := by
  cases h with
  | asked _ hj hf =>
    obtain ⟨htype, hreply⟩ := judge_asks hj
    cases hq
    exact Or.inr ⟨(followUp_type hf).trans hreply, _, rfl, htype⟩
  | exhausted _ => cases hq
  | unwritable _ => cases hq
  | withdraws => cases hq
  | fails _ => cases hq
  | answered _ _ => cases hq
  | registers _ _ => exact Or.inl hq
  | refused _ => exact Or.inl hq
  | admitted _ => exact Or.inl hq
  | stands => exact Or.inl hq
  | takes => exact Or.inl hq
  | writes => exact Or.inl hq
  | written => exact Or.inl hq
  | breaks => exact Or.inl hq
  | spills => exact Or.inl hq
  | sent => exact Or.inl hq

/-- **A session that is busy was called, and keeps to the family of its call.** -/
theorem request_called {c : Connection} (hc : c.sessions = []) {ms : List Move} {n : Nat}
    {s : Session} {q : Packet} (hs : (c.after ms).sessions[n]? = some s)
    (hq : s.phase.request? = some q) :
    ∃ call, Called c ms n call ∧ q.header.type = call.type ∧
      (call.type = .authorization → q.header.sequence = 1) := by
  induction ms using List.reverseRecOn generalizing s q with
  | nil =>
    have hs : c.sessions[n]? = some s := hs
    rw [hc] at hs
    cases hs
  | append_singleton ms m ih =>
    have later : ∀ {call}, Called c ms n call → Called c (ms ++ [m]) n call := by
      rintro call ⟨opening, rest, s, rfl, hcalled⟩
      exact ⟨opening, rest ++ [m], s, by simp, hcalled⟩
    rw [after_concat] at hs
    cases hn : (c.after ms).sessions[n]? with
    | none =>
      rw [session_new hn hs] at hq
      cases hq
    | some s₀ =>
      obtain ⟨s', hs', -, hturn⟩ := session_apply hn m
      obtain rfl := Option.some.inj (hs.symm.trans hs')
      generalize s.phase = next at hturn hq
      cases hturn with
      | stays _ =>
        obtain ⟨call, hcalled, h⟩ := ih hn hq
        exact ⟨call, later hcalled, h⟩
      | @called call _ hidle hfirst =>
        cases hq
        obtain ⟨htype, hsequence⟩ := firstPacket?_header hfirst
        exact ⟨call, ⟨ms, [], s₀, rfl, hn, hidle⟩, htype, fun _ => hsequence⟩
      | refused _ => cases hq
      | dropped _ => cases hq
      | passes hp =>
        rcases request_passage hp hq with hq | ⟨htype, q₀, hq₀, htype₀⟩
        · obtain ⟨call, hcalled, h⟩ := ih hn hq
          exact ⟨call, later hcalled, h⟩
        · obtain ⟨call, hcalled, htype', -⟩ := ih hn hq₀
          have hcall : call.type = .authentication := htype'.symm.trans htype₀
          refine ⟨call, later hcalled, htype.trans hcall.symm, ?_⟩
          intro h
          cases hcall.symm.trans h

/-! ## No false success -/

theorem request?_of_inFlight? {s : SessionPhase} {q : Packet} {t : Ticket}
    (h : s.inFlight? = some (q, t)) : s.request? = some q := by
  cases s with
  | ready _ => cases h
  | _ => exact congrArg (Option.map Prod.fst) h

theorem passage_response {c : Connection} {id : SessionId} {s : SessionPhase} {r : Registry}
    {response : Response} (h : Passage c id s (.finished (.ok response)) r) :
    ∃ q t reply, s.inFlight? = some (q, t) ∧ c.registry.outcome? t = some (.ok reply) ∧
      judge q reply = .finished (.ok response) := by
  cases h with
  | answered houtcome hjudge => exact ⟨_, _, _, rfl, houtcome, hjudge⟩

/-- A session returns a response only by a step of its own, from a reply that its
request was judged by. -/
theorem response_apply {c : Connection} {m : Move} {n : Nat} {s : Session} {response : Response}
    (hn : c.sessions[n]? = some s) (h : .sessionOver n (.ok response) ∈ (c.apply m).2) :
    ∃ q t reply, m = .step (.session n) ∧ s.phase.inFlight? = some (q, t) ∧
      c.registry.outcome? t = some (.ok reply) ∧ judge q reply = .finished (.ok response) := by
  obtain ⟨s', hs', -, hturn⟩ := session_apply hn m
  obtain ⟨hne, heq⟩ := (sessionOver_apply _ hn hs').1 h
  generalize s'.phase = next at hturn heq
  cases hturn with
  | stays _ => exact absurd heq hne
  | called _ _ => cases heq
  | refused _ => cases heq
  | dropped _ => cases heq
  | passes hp =>
    subst heq
    obtain ⟨q, t, reply, h⟩ := passage_response hp
    exact ⟨q, t, reply, rfl, h⟩

/-- **No false success.**  When a session returns a response, the dispatcher had
routed a packet to the exchange of the request the session had in flight, then
and ever since; and that packet answers the request, with just this response. -/
theorem no_false_success {config : Config} {identifiers : Chap.IdentifierSequence} {ms : List Move}
    {n : Nat} {response : Response}
    (h : .sessionOver n (.ok response) ∈ ((fresh config identifiers).run ms).2) :
    Nonempty (Trail (fresh config identifiers) ms n response) := by
  obtain ⟨sooner, m, rest, rfl, hover⟩ := mem_effects_run.1 h
  obtain ⟨s, hn⟩ := sessionOver_session hover
  obtain ⟨q, t, reply, rfl, hf, houtcome, hjudge⟩ := response_apply hn hover
  have hflight : InFlight ((fresh config identifiers).after sooner) n s.id q t := ⟨s, hn, rfl, hf⟩
  obtain ⟨before, between, f, rfl, hroutes, hid, hkept⟩ := inFlight_reply hflight houtcome
  -- the call was made before the packet came: the request was in flight by then
  obtain ⟨s₀, hs₀, -, hf₀⟩ := hkept [] _ rfl
  rw [List.append_nil] at hs₀
  obtain ⟨call, hcalled, htype, hfirst⟩ := request_called rfl hs₀ (request?_of_inFlight? hf₀)
  refine ⟨⟨before, between, rest, call, s.id, q, t, f, reply, rfl, hcalled, hroutes, hkept, hover,
    ?_⟩⟩
  have hconfig : ((fresh config identifiers).after before).config = config := config_after _ before
  obtain ⟨hheader, -⟩ := ofReceived_reply hroutes.reads
  obtain ⟨hjtype, hjsequence, -⟩ := judge_ok hjudge
  rw [hheader] at hjtype hjsequence
  refine ⟨hid, hjtype.trans htype, ?_, ?_, hroutes.flag.trans (congrArg _ hconfig), ?_⟩
  · -- the number does not start over, because the request does not have the last one
    obtain ⟨h255, -⟩ := inFlight_sound hflight
    rw [hjsequence, UInt8.toNat_add]
    have hne : q.header.sequence.toNat ≠ 255 := fun he => h255 (UInt8.toNat_inj.1 he)
    have hlt := q.header.sequence.toNat_lt
    exact Nat.mod_eq_of_lt (by simp; omega)
  · intro hauthor
    rw [hjsequence, hfirst hauthor]
    rfl
  · rw [← htype, show (fresh config identifiers).config = config from rfl, ← hconfig]
    exact reports_of_judge hroutes.reads hjudge

/-- A login with a password under the secret "key", and the server's pass, hidden. -/
def hiddenPass : List Move :=
  [.openSession [7] {} none, .callSession 0 (.pap "alice" "sesame"), .startDispatcher]
    ++ List.replicate 5 (.step (.session 0))
    ++ [.arrive [.octets ([0xC1, 0x01, 2, 0, 0, 0, 0, 7, 0, 0, 0, 6]
          ++ Pad.toggle [0x6B, 0x65, 0x79] ⟨.one, .authentication, 2, ⟨0⟩, 7⟩ [1, 0, 0, 0, 0, 0])],
      .step .dispatcher, .step (.session 0)]

theorem hiddenPass_trail :
    .sessionOver 0 (.ok (.authentication ⟨.pass, "", [], false⟩))
        ∈ ((fresh { secret := some [0x6B, 0x65, 0x79] } ⟨0⟩).run hiddenPass).2 ∧
      Nonempty (Trail (fresh { secret := some [0x6B, 0x65, 0x79] } ⟨0⟩) hiddenPass 0
        (.authentication ⟨.pass, "", [], false⟩)) := by
  have h : .sessionOver 0 (.ok (.authentication ⟨.pass, "", [], false⟩))
      ∈ ((fresh { secret := some [0x6B, 0x65, 0x79] } ⟨0⟩).run hiddenPass).2 := by decide +kernel
  exact ⟨h, no_false_success h⟩

end Connection

end Tacacs
