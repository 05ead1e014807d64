/-
# `Tacacs.Failure` — how an exchange or a connection fails

Everything that can go wrong for a client is one of the causes below, each with
its wording.  Two passages between causes matter:

* what is wrong with received octets becomes a failure (`ofDecodeError`).  A
  whole frame is always at hand by then, so octets that end too early are a
  corrupt packet like any other;
* when a connection fails, the exchanges that still wait learn of it
  (`forPending`).  They see the cause if it lies in what the server sent, and
  otherwise only that the connection is closed.
-/
import Tacacs.Duration
import Tacacs.Packet

namespace Tacacs

instance decidableEqExcept {ε α : Type} [DecidableEq ε] [DecidableEq α] :
    DecidableEq (Except ε α)
  | .ok a, .ok b => decidable_of_iff (a = b) (by rw [Except.ok.injEq])
  | .error a, .error b => decidable_of_iff (a = b) (by rw [Except.error.injEq])
  | .ok _, .error _ => .isFalse nofun
  | .error _, .ok _ => .isFalse nofun

/-- The kinds of trouble a stream reports. -/
inductive FaultKind
  | unexpectedEof
  | connectionReset
  | brokenPipe
  | interrupted
  | timedOut
  | writeZero
  | other
deriving DecidableEq

/-- Trouble with a stream, as the stream words it. -/
structure StreamFault where
  kind : FaultKind
  text : String
deriving DecidableEq

/-- The fault of a stream that takes nothing of what it is given. -/
def StreamFault.writeZero : StreamFault := ⟨.writeZero, "write zero"⟩

/-- Why an exchange, a session or a connection failed. -/
inductive Failure
  | stream (fault : StreamFault)
  /-- A header with an unknown version or type arrived. -/
  | malformedHeader
  /-- A packet did not add up, or it was hidden where it must not be. -/
  | corruptPacket
  | sequenceExhausted
  | timeout (limit : Duration)
  /-- The server asked for input and there was none. -/
  | noInput
  /-- A packet of a type nobody waits for arrived. -/
  | unexpectedType (type : PacketType)
  | sequenceMismatch (expected actual : UInt8)
  /-- Another request was registered for the same session. -/
  | replaced
  | closed
  | encode (error : EncodeError)
  /-- The parts of a request do not go together. -/
  | invalidContext
deriving DecidableEq

namespace Failure

/-- The wording of a failure. -/
def message : Failure → String
  | stream fault => fault.text
  | malformedHeader => "malformed packet header received from server"
  | corruptPacket => "corrupt packet or bad key"
  | sequenceExhausted => "session sequence numbers exhausted"
  | timeout limit => "no reply received within " ++ limit.text
  | noInput => "server requested input but none could be collected"
  | unexpectedType type => "unexpected " ++ type.name ++ " packet received from server"
  | sequenceMismatch expected actual =>
    "reply had sequence number " ++ toString actual.toNat
      ++ ", expected " ++ toString expected.toNat
  | replaced => "exchange replaced by another request in the same session"
  | closed => "connection closed"
  | encode error => error.message
  | invalidContext => "session context had invalid field(s)"

/-- The failure that faulty octets amount to. -/
def ofDecodeError : DecodeError → Failure
  | .malformedHeader => malformedHeader
  | .unsupportedType type => unexpectedType type
  | .corruptPacket | .unexpectedEnd => corruptPacket

/-- What the waiting exchanges are told when the connection fails. -/
def forPending : Failure → Failure
  | malformedHeader => malformedHeader
  | corruptPacket => corruptPacket
  | unexpectedType type => unexpectedType type
  | _ => closed

end Failure

end Tacacs
