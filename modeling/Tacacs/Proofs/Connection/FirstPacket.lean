/-
# `Tacacs.Proofs.Connection.FirstPacket` — the server reads what the caller asked for

Between the caller and the server stand five makers: the call becomes a body, the settings
become a header, the body is cut to what its lengths can tell, it is hidden, and at the other
end all of this is undone by a reader who knows the secret and nothing else.  What comes out is
said here in the caller's terms (`FirstRead`):

    call         version   body      user    data
    ASCII        default   start     empty   empty
    PAP          one       start     given   the password
    CHAP         one       start     given   identifier, challenge and response
    authorize    default   request   given   (arguments)

and everything else comes from the context and the settings.  A text that fits in its field is
read as it was given.  One that does not is read as it is left by the cut (`TextRead`).

That the packet read is the *first* one that the session writes is a matter of the run: what a
session has to send before it has registered anything is the first packet of its call
(`opens_after`).
-/
import Tacacs.Proofs.Connection.Requests

namespace Tacacs

/-! ## What is read of a call -/

/-- A text in a field with one length octet, as it was given and as it is read. -/
structure TextRead (given read : String) : Prop where
  whole : given.utf8ByteSize ≤ 255 → read = given
  cut : read = Text.Utf8.decode ((Text.Utf8.encode given).take 255)

/-- An argument as it was given and as it is read. -/
structure ArgumentRead (given read : Argument) : Prop where
  whole : given.text.utf8ByteSize ≤ 255 → read = given
  cut : read = .parse (Text.Utf8.decode ((Text.Utf8.encode given.text).take 255))

/-- The origin of a user's requests, as it is read. -/
structure OriginRead (context : Context) (user : String) (o : Origin) : Prop where
  user : TextRead user o.user
  port : TextRead context.port o.port
  remoteAddress : TextRead context.remoteAddress o.remoteAddress

/-- A start as it is read. -/
structure StartRead (context : Context) (type : AuthenType) (user : String) (data : Octets)
    (s : Authentication.Start) : Prop where
  action : s.action = .login
  access : s.access = ⟨context.privilege, type, context.service⟩
  origin : OriginRead context user s.origin
  whole : data.length ≤ 255 → s.data = data
  cut : s.data = data.take 255

/-- A request for authorization as it is read. -/
structure RequestRead (context : Context) (user : String) (method : AuthenMethod)
    (type : AuthenType) (service : AuthenService) (arguments : List Argument)
    (r : Authorization.Request) : Prop where
  method : r.method = method
  access : r.access = ⟨context.privilege, type, service⟩
  origin : OriginRead context user r.origin
  whole : arguments.length ≤ 255 → (∀ a ∈ arguments, a.text.utf8ByteSize ≤ 255) →
    r.arguments = arguments
  /-- The first 255 arguments are read, in their order and each for itself. -/
  cut : List.Forall₂ ArgumentRead (arguments.take 255) r.arguments

/-- The body of a call's first packet, as it is read. -/
def BodyRead (context : Context) (identifier : UInt8) : Call → Body → Prop
  | .ascii, .start s => StartRead context .ascii "" [] s
  | .pap user password, .start s => StartRead context .pap user (Text.Utf8.encode password) s
  | .chap user password challenge, .start s =>
    -- what a CHAP attempt sends has 33 octets, and is never cut
    StartRead context .chap user (Chap.data identifier (Text.Utf8.encode password) challenge) s ∧
      s.data = Chap.data identifier (Text.Utf8.encode password) challenge
  | .authorize user method type service arguments, .authorRequest r =>
    RequestRead context user method type service arguments r
  | _, _ => False

/-- The first packet of a call, as it is read. -/
structure FirstRead (settings : SessionSettings) (identifier : UInt8) (call : Call) (p : Packet) :
    Prop where
  sequence : p.header.sequence = 1
  session : p.header.session = settings.id
  type : p.header.type = call.type
  minor : p.header.minor = call.minor
  singleConnection : p.header.flags.singleConnection = settings.config.singleConnect
  unencrypted : p.header.flags.unencrypted = settings.config.unencrypted
  /-- No other flag is set. -/
  other : p.header.flags.bits &&& 0xFA = 0
  body : BodyRead settings.context identifier call p.body

theorem textRead_clip (text : String) : TextRead text (Text.Utf8.clip 255 text) :=
  ⟨Text.Utf8.clip_of_le, rfl⟩

theorem argumentRead_normal (a : Argument) : ArgumentRead a a.normal := by
  refine ⟨?_, rfl⟩
  intro hfits
  refine Argument.normal_of_fits ?_
  rwa [Argument.Fits, ← Argument.utf8ByteSize_text]

theorem originRead_normal (context : Context) (user : String) :
    OriginRead context user (context.origin user).normal :=
  ⟨textRead_clip _, textRead_clip _, textRead_clip _⟩

theorem startRead_normal {context : Context} {type : AuthenType} {user : String} {data : Octets}
    {s : Authentication.Start} (haction : s.action = .login)
    (haccess : s.access = ⟨context.privilege, type, context.service⟩)
    (horigin : s.origin = context.origin user) (hdata : s.data = data) :
    StartRead context type user data s.normal := by
  subst hdata
  refine ⟨haction, haccess, ?_, List.take_of_length_le, rfl⟩
  rw [Authentication.Start.normal, horigin]
  exact originRead_normal context user

theorem chapRead_of_startRead {context : Context} {user : String} {identifier : UInt8}
    {password : Octets} {challenge : Chap.Challenge} {s : Authentication.Start}
    (h : StartRead context .chap user (Chap.data identifier password challenge) s) :
    StartRead context .chap user (Chap.data identifier password challenge) s ∧
      s.data = Chap.data identifier password challenge :=
  ⟨h, h.whole (by rw [Chap.length_data]; decide)⟩

theorem argumentsRead_normal (arguments : List Argument) :
    List.Forall₂ ArgumentRead arguments (arguments.map Argument.normal) := by
  induction arguments with
  | nil => exact .nil
  | cons a as ih => exact .cons (argumentRead_normal a) ih

variable {settings : SessionSettings} {identifier : UInt8} {call : Call} {q : Packet}

theorem Config.flags_other (config : Config) : config.flags.bits &&& 0xFA = 0 := by
  unfold Config.flags Flags.make
  cases config.unencrypted <;> cases config.singleConnect <;> rfl

/-- **The first packet of a call goes to the server, and is read there as the call says.** -/
theorem firstPacket?_read (h : settings.firstPacket? identifier call = some q) :
    q.Travels .request ∧ FirstRead settings identifier call ⟨q.header, q.body.normal⟩ := by
  have reads {type : PacketType} {minor : MinorVersion} {body : Body}
      (htype : type = call.type) (hminor : minor = call.minor)
      (hbody : BodyRead settings.context identifier call body) :
      FirstRead settings identifier call ⟨settings.firstHeader type minor, body⟩ :=
    ⟨rfl, rfl, htype, hminor, Flags.singleConnection_make _ _, Flags.unencrypted_make _ _,
      settings.config.flags_other, hbody⟩
  cases call with
  | ascii =>
    cases h
    exact ⟨rfl, reads rfl rfl (startRead_normal rfl rfl rfl rfl)⟩
  | pap user password =>
    cases h
    exact ⟨rfl, reads rfl rfl (startRead_normal rfl rfl rfl rfl)⟩
  | chap user password challenge =>
    cases h
    exact ⟨rfl, reads rfl rfl (chapRead_of_startRead (startRead_normal rfl rfl rfl rfl))⟩
  | authorize user method type service arguments =>
    cases h
    refine ⟨trivial, reads rfl rfl ⟨rfl, rfl, originRead_normal _ _, ?_, argumentsRead_normal _⟩⟩
    intro hfew hfit
    refine Authorization.normalArguments_of_fits ⟨hfew, ?_⟩
    intro a ha
    rw [Argument.Fits, ← Argument.utf8ByteSize_text]
    exact hfit a ha

namespace Connection

variable {c : Connection} {m : Move} {n : Nat} {s s' : Session} {o : Sending} {config : Config}
  {identifiers : Chap.IdentifierSequence} {rs ws : List Sending} {out : Octets}
  {phase : SessionPhase} {opening : List Move}

/-! ## The first packet of a session -/

/-- What a session registers first is this packet, and if it has registered nothing it has no
other one to send. -/
structure Opens (config : Config) (q : Packet) (rs : List Sending) (phase : SessionPhase) :
    Prop where
  first : ∀ o, rs.head? = some o → o.request = q ∧ o.octets = q.octets config.key
  next : rs = [] → ∀ p, phase = .ready p → p = q

/-- A session that has a packet to send, and has registered nothing yet, had it before. -/
theorem ready_before {p : Packet} (hn : c.sessions[n]? = some s) (hidle : s.phase ≠ .idle)
    (hr : Recorded [] ws out s.phase) (hp : (c.apply m).1.phaseAt n = .ready p) :
    s.phase = .ready p := by
  rcases ready_origin hn hp with hs | hs | ⟨-, hpass⟩
  · exact hs
  · exact absurd hs hidle
  · obtain ⟨q, w, -, hs, -⟩ := passage_ready hpass
    rw [hs] at hr
    obtain ⟨done, o, hnil, -⟩ := hr
    cases (List.append_eq_nil_iff.1 hnil.symm).2

theorem opens_apply (hconfig : c.config = config) (hq : q.Accepted config)
    (hn : c.sessions[n]? = some s) (hidle : s.phase ≠ .idle) (hr : Recorded rs ws out s.phase)
    (h : Opens config q rs s.phase) (m : Move) :
    Opens config q (rs ++ (registers? n c m).toList) ((c.apply m).1.phaseAt n) := by
  subst hconfig
  cases hregisters : registers? n c m with
  | none =>
    rw [Option.toList_none, List.append_nil]
    refine ⟨h.first, ?_⟩
    rintro rfl p hp
    exact h.next rfl p (ready_before hn hidle hr hp)
  | some o =>
    obtain ⟨-, hready, -, hwire, hnext⟩ := registers?_eq_some hregisters
    rw [phaseAt_of_some hn] at hready
    have hsome : rs ++ [o] ≠ [] := List.append_ne_nil_of_right_ne_nil _ (List.cons_ne_nil _ _)
    refine ⟨?_, fun hnil => absurd hnil hsome⟩
    intro o' ho'
    cases rs with
    | cons o₀ rs => exact h.first o' ho'
    | nil =>
      obtain rfl : o = o' := Option.some.inj ho'
      obtain rfl := h.next rfl _ hready
      exact ⟨rfl, Except.ok.inj (hwire.symm.trans hq.wire)⟩

theorem opens_call (hn : c.sessions[n]? = some s) (hidle : s.phase = .idle)
    (hq : (c.settings s).firstPacket? (call.draw c.identifiers).1 call = some q)
    (hr : Recorded rs ws out (c.phaseAt n)) :
    Opens config q (rs ++ (registers? n c (.callSession n call)).toList)
      ((c.apply (.callSession n call)).1.phaseAt n) := by
  obtain ⟨s', hs', -, hready⟩ := ready_of_call hn hidle hq
  rw [phaseAt_of_some hn, hidle] at hr
  have hnone : registers? n c (.callSession n call) = none := by
    rw [registers?, phaseAt_of_some hn, hidle]
    rfl
  rw [phaseAt_of_some hs', hnone, hr.1]
  refine ⟨?_, fun _ p hp => SessionPhase.ready.inj (hp.symm.trans hready)⟩
  intro o ho
  cases ho

/-- **From its call on, a session has no other packet to begin with.** -/
theorem opens_after (hn : ((fresh config identifiers).after opening).sessions[n]? = some s)
    (hidle : s.phase = .idle)
    (hq : (((fresh config identifiers).after opening).settings s).firstPacket?
      (call.draw ((fresh config identifiers).after opening).identifiers).1 call = some q)
    (haccepted : q.Accepted config) (rest : List Move) :
    Opens config q
      (registered (fresh config identifiers) n (opening ++ .callSession n call :: rest))
      (((fresh config identifiers).after (opening ++ .callSession n call :: rest)).phaseAt n) := by
  induction rest using List.reverseRecOn with
  | nil =>
    rw [after_concat, registered, gather_concat]
    exact opens_call hn hidle hq (recorded_after config identifiers n opening)
  | append_singleton rest m ih =>
    have hsplit : opening ++ .callSession n call :: (rest ++ [m])
        = (opening ++ .callSession n call :: rest) ++ [m] := by
      rw [List.append_assoc, List.cons_append]
    have hbusy :
        ((fresh config identifiers).after (opening ++ .callSession n call :: rest)).phaseAt n
          ≠ .idle := by
      obtain ⟨s', hs', -, hready⟩ := ready_of_call hn hidle hq
      rw [after_append_cons]
      refine busy_after ?_ rest
      rw [after_concat, phaseAt_of_some hs', hready]
      exact SessionPhase.noConfusion
    obtain ⟨s', hs', hphase⟩ := session_of_phaseAt rfl hbusy
    have hr := recorded_after config identifiers n (opening ++ .callSession n call :: rest)
    rw [← hphase] at ih hr hbusy
    rw [hsplit, after_concat, registered, gather_concat]
    exact opens_apply (config_after _ _) haccepted hs' hbusy hr ih m

theorem sentBy_first (config : Config) (identifiers : Chap.IdentifierSequence) (ms : List Move)
    (ho : (written (fresh config identifiers) n ms).head? = some o) :
    o.octets <+: sentBy (fresh config identifiers) n ms ∨
      sentBy (fresh config identifiers) n ms <+: o.octets := by
  obtain ⟨-, -, hsent⟩ := recorded_any (recorded_after config identifiers n ms)
  exact hsent.first ho

/-- The packet that a session has begun to write first in a run. -/
structure BeginsWith (c : Connection) (n : Nat) (ms : List Move) (o : Sending) : Prop where
  written : (written c n ms).head? = some o
  /-- Nothing but this packet goes out before all of it is out. -/
  sent : o.octets <+: sentBy c n ms ∨ sentBy c n ms <+: o.octets

/-- **What the caller asked for is what the server reads.**  A session that is called has a
first packet, and begins with no other.  Whoever has the secret and the octets of that packet,
whatever stands behind them, reads what the call and the settings say. -/
theorem first_packet_read (config : Config) (identifiers : Chap.IdentifierSequence)
    {opening : List Move} {n : Nat} {s : Session} {call : Call}
    (hn : ((fresh config identifiers).after opening).sessions[n]? = some s)
    (hidle : s.phase = .idle) :
    ∃ q p, ((fresh config identifiers).after (opening ++ [.callSession n call])).phaseAt n
        = .ready q ∧
      FirstRead ⟨config, s.context, s.id⟩
        (call.draw ((fresh config identifiers).after opening).identifiers).1 call p ∧
      ∀ rest o,
        (written (fresh config identifiers) n (opening ++ .callSession n call :: rest)).head?
          = some o →
        BeginsWith (fresh config identifiers) n (opening ++ .callSession n call :: rest) o ∧
          o.request = q ∧
          ∀ more, (Packet.receive .request config.key (o.octets ++ more)).packet = .ok p := by
  obtain ⟨q, hq, hmade⟩ := firstPacket?_made (((fresh config identifiers).after opening).settings s)
    (call.draw ((fresh config identifiers).after opening).identifiers).1 call
  have hconfig := config_after (fresh config identifiers) opening
  have haccepted : q.Accepted config := by
    have haccepted := hmade.accepted
    rwa [settings, hconfig] at haccepted
  obtain ⟨htravels, hread⟩ := firstPacket?_read hq
  rw [settings, hconfig] at hread
  obtain ⟨s', hs', -, hready⟩ := ready_of_call hn hidle hq
  refine ⟨q, ⟨q.header, q.body.normal⟩, ?_, hread, ?_⟩
  · rw [after_concat, phaseAt_of_some hs', hready]
  · intro rest o ho
    obtain ⟨⟨later, hwritten⟩, -, -⟩ := recorded_any
      (recorded_after config identifiers n (opening ++ .callSession n call :: rest))
    have hregistered : (registered (fresh config identifiers) n
        (opening ++ .callSession n call :: rest)).head? = some o := by
      rw [← hwritten, List.head?_append, ho, Option.some_or]
    obtain ⟨rfl, hoctets⟩ := (opens_after hn hidle hq haccepted rest).first o hregistered
    refine ⟨⟨ho, sentBy_first config identifiers _ ho⟩, rfl, ?_⟩
    intro more
    rw [hoctets, Packet.receive_octets (Packet.type_of_new? haccepted.parts) htravels (.inr rfl)]

/-- A login with a password under the secret "key". -/
def askedHidden : List Move :=
  [.openSession [7] {} none]
    ++ .callSession 0 (.pap "alice" "sesame") :: List.replicate 4 (.step (.session 0))

theorem first_packet_read_askedHidden :
    ∃ o p,
      (written (fresh { secret := some [0x6B, 0x65, 0x79] } ⟨0⟩) 0 askedHidden).head? = some o ∧
      (Packet.receive .request [0x6B, 0x65, 0x79] o.octets).packet = .ok p ∧
      FirstRead ⟨{ secret := some [0x6B, 0x65, 0x79] }, {}, 7⟩ 0 (.pap "alice" "sesame") p := by
  have hn : ((fresh { secret := some [0x6B, 0x65, 0x79] } ⟨0⟩).after
      [.openSession [7] {} none]).sessions[0]? = some ⟨7, {}, none, .idle⟩ := rfl
  have hwritten : (written (fresh { secret := some [0x6B, 0x65, 0x79] } ⟨0⟩) 0
      askedHidden).head?.isSome = true := by decide +kernel
  obtain ⟨o, ho⟩ := Option.isSome_iff_exists.1 hwritten
  obtain ⟨q, p, -, hread, hfirst⟩ :=
    first_packet_read { secret := some [0x6B, 0x65, 0x79] } ⟨0⟩ hn rfl
  obtain ⟨-, -, hreceive⟩ := hfirst _ o ho
  have hp := hreceive []
  rw [List.append_nil] at hp
  exact ⟨o, p, ho, hp, hread⟩

end Connection

end Tacacs
