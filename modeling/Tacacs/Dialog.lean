/-
# `Tacacs.Dialog` — what a session says, and how it takes an answer

A session is called once (`Call`): to log a user in by one of three methods, or
to ask whether a user may do something.  The call makes the first packet.  From
there on each reply is judged against the request it answers (`judge`): it has
to be of the same family and to have the next sequence number.  A reply to a
login that asks for input goes on with a packet that carries the input
(`followUp`); every other reply ends the session, also one with a status that is
not assigned.

The header of a follow-up takes its sequence number from the reply.  Its flags
and its session come from the session itself, and its version from the packets
before, whatever the reply said.
-/
import Tacacs.Chap
import Tacacs.Config
import Tacacs.Failure

namespace Tacacs

/-! ## Calls and first packets -/

/-- What a session is called to do. -/
inductive Call
  /-- Log in as the server asks. -/
  | ascii
  /-- Log in with a password sent along. -/
  | pap (user password : String)
  /-- Log in with the answer to a challenge. -/
  | chap (user password : String) (challenge : Chap.Challenge)
  /-- Ask whether a user may do something. -/
  | authorize (user : String) (method : AuthenMethod) (type : AuthenType)
      (service : AuthenService) (arguments : List Argument)
deriving DecidableEq

/-- The settings of a session: those of its connection, its own, and its id. -/
structure SessionSettings where
  config : Config
  context : Context
  id : SessionId

namespace SessionSettings

/-- The header of a session's first packet. -/
def firstHeader (s : SessionSettings) (type : PacketType) (minor : MinorVersion) : Header :=
  ⟨minor, type, 1, s.config.flags, s.id⟩

/-- The packet that opens a login of the given type. -/
def start? (s : SessionSettings) (type : AuthenType) (user : String) (data : Octets) :
    Option Packet := do
  let minor ← type.requiredMinor?
  let start ← Authentication.Start.new? .login ⟨s.context.privilege, type, s.context.service⟩
    (s.context.origin user) data
  Packet.new? (s.firstHeader .authentication minor) (.start start)

/-- The first packet of a call.  A CHAP attempt has the given identifier. -/
def firstPacket? (s : SessionSettings) (identifier : UInt8) : Call → Option Packet
  | .ascii => s.start? .ascii "" []
  | .pap user password => s.start? .pap user (Text.Utf8.encode password)
  | .chap user password challenge =>
    s.start? .chap user (Chap.data identifier (Text.Utf8.encode password) challenge)
  | .authorize user method type service arguments =>
    Packet.new? (s.firstHeader .authorization .default)
      (.authorRequest ⟨method, ⟨s.context.privilege, type, service⟩, s.context.origin user,
        arguments⟩)

end SessionSettings

/-- The identifier a call draws from a sequence, and the sequence after it.  Only
a CHAP attempt draws one. -/
def Call.draw (call : Call) (s : Chap.IdentifierSequence) : UInt8 × Chap.IdentifierSequence :=
  match call with
  | .chap .. => s.draw
  | _ => (s.next, s)

/-- The octets in which a packet goes out: hidden under the secret, unless the
settings say that packets are sent open. -/
def Config.wire (c : Config) (p : Packet) : Except EncodeError Octets :=
  match c.secret with
  | some key => if c.unencrypted then p.encodeOpen else p.encodeHidden key
  | none => p.encodeOpen

/-! ## Responses -/

/-- What a login came to. -/
structure AuthenResponse where
  status : Authentication.Status
  message : String
  data : Octets
  noEcho : Bool
deriving DecidableEq

/-- The user is who they say.  Nothing but a pass says so. -/
def AuthenResponse.passed (r : AuthenResponse) : Bool :=
  r.status == .pass

/-- What a request for authorization came to. -/
structure AuthorResponse where
  status : Authorization.Status
  message : String
  data : Octets
  arguments : List Argument
deriving DecidableEq

/-- The user may do it. -/
def AuthorResponse.passed (r : AuthorResponse) : Bool :=
  r.status.isPass

/-- What a session came to. -/
inductive Response
  | authentication (r : AuthenResponse)
  | authorization (r : AuthorResponse)
deriving DecidableEq

/-! ## Replies -/

/-- What a server may ask a user for. -/
inductive PromptKind
  | data
  | user
  | password
deriving DecidableEq

/-- What a status asks for; nothing if it ends the session. -/
def PromptKind.ofStatus? : Authentication.Status → Option PromptKind
  | .getData => some .data
  | .getUser => some .user
  | .getPassword => some .password
  | _ => none

/-- What a session does next. -/
inductive Turn
  | finished (result : Except Failure Response)
  | asks (message : String) (noEcho : Bool) (kind : PromptKind)
deriving DecidableEq

/-- Judges the reply to a request. -/
def judge (request reply : Packet) : Turn :=
  if reply.header.type ≠ request.header.type then
    .finished (.error (.unexpectedType reply.header.type))
  else if reply.header.sequence ≠ request.header.sequence + 1 then
    .finished (.error (.sequenceMismatch (request.header.sequence + 1) reply.header.sequence))
  else
    match request.header.type, reply.body with
    | .authentication, .authenReply r =>
      match PromptKind.ofStatus? r.status with
      | some kind => .asks r.message r.noEcho kind
      | none => .finished (.ok (.authentication ⟨r.status, r.message, r.data, r.noEcho⟩))
    | .authorization, .authorReply r =>
      .finished (.ok (.authorization ⟨r.status, r.message, r.data, r.arguments⟩))
    | type, _ => .finished (.error (.unexpectedType type))

/-- The packet that carries the input a reply asked for. -/
def SessionSettings.followUp (s : SessionSettings) (request reply : Packet) (input : String) :
    Except Failure Packet :=
  match reply.header.next? request.header.minor with
  | none => .error .sequenceExhausted
  | some h =>
    match Packet.new? { h with flags := s.config.flags, session := s.id }
        (.continue ⟨input, [], 0⟩) with
    | some p => .ok p
    | none => .error .invalidContext

end Tacacs
