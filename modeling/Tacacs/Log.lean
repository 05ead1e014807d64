/-
# `Tacacs.Log` — what a connection reports as it goes

Every event that is worth a line in a log, with its level and its wording.
-/
import Tacacs.Failure

namespace Tacacs

/-- How much an event matters. -/
inductive LogLevel
  | debug
  | info
  | warn
deriving DecidableEq

/-- An event on a connection. -/
inductive LogEvent
  /-- A packet is written and flushed; `length` is that of the whole packet. -/
  | sent (header : Header) (length : Nat)
  /-- A packet has come in; `length` is that of its body. -/
  | received (header : Header) (length : Nat)
  /-- A reply is hidden where packets are sent open, or the other way round. -/
  | obfuscationMismatch (session : SessionId) (unencrypted : Bool)
  | corrupt (session : SessionId)
  | singleConnect (session : SessionId)
  /-- Nobody waited for a reply. -/
  | unclaimed (session : SessionId)
  | serverClosed
  | connectionFailed (failure : Failure)
  | sessionFinished (session : SessionId) (status : Authentication.Status)
deriving DecidableEq

namespace LogEvent

/-- How much an event matters. -/
def level : LogEvent → LogLevel
  | obfuscationMismatch .. | corrupt _ | connectionFailed _ => .warn
  | singleConnect _ => .info
  | _ => .debug

/-- The wording of an event. -/
def message : LogEvent → String
  | sent .. => "sent packet"
  | received .. => "received packet"
  | obfuscationMismatch .. => "reply obfuscation doesn't match configuration"
  | corrupt _ => "corrupt packet received, possibly due to a mismatched secret"
  | singleConnect _ => "single-connect mode established"
  | unclaimed _ => "dropped reply with no pending exchange"
  | serverClosed => "server closed connection"
  | connectionFailed _ => "connection failed"
  | sessionFinished .. => "authentication session finished"

end LogEvent

end Tacacs
