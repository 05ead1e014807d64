/-
# `Tacacs.Reception` — what a received packet does

A packet that was cut out of the stream is looked at in this order.  If its body
is hidden where this connection's packets are open, or the other way round, the
exchange of its session fails, and nothing in the packet counts.  If its body
cannot be read, the exchange fails too; a wrong key looks just the same.  A
packet of a family that never comes this way ends the connection.  All others go
to the exchange of their session.

A readable reply may also say that the server keeps the connection.  Only the
first reply of a session can say so, and only if this was asked for.

Nothing here depends on who waits, on the stream or on time: it is a function of
the settings, the registry and what was established before.
-/
import Tacacs.Config
import Tacacs.Frame
import Tacacs.Log
import Tacacs.Registry

namespace Tacacs

/-- What a received packet leaves behind. -/
structure Reception where
  registry : Registry
  /-- The server keeps the connection for further sessions. -/
  established : Bool
  /-- The exchange that got an outcome somebody waits for. -/
  reached : Option Ticket := none
  /-- Why the connection cannot go on. -/
  fatal : Option Failure := none
  log : List LogEvent := []

namespace Reception

/-- Gives an outcome to the exchange of a session. -/
def route (registry : Registry) (established : Bool) (id : SessionId) (outcome : Outcome)
    (log : List LogEvent) : Reception :=
  let reached := registry.awaited? id
  { registry := (registry.resolve id outcome).2
    established
    reached
    log := log ++ if reached.isSome then [] else [.unclaimed id] }

/-- A reply with this header says that the server keeps the connection. -/
def agrees (config : Config) (h : Header) : Bool :=
  config.singleConnect && h.sequence == 2 && h.flags.singleConnection

/-- What a received packet does. -/
def ofFrame (config : Config) (registry : Registry) (established : Bool) (f : Frame) :
    Reception :=
  let id := f.header.session
  let log := [.received f.header f.body.length]
  if f.header.flags.unencrypted ≠ config.unencrypted then
    route registry established id (.error .corruptPacket)
      (log ++ [.obfuscationMismatch id f.header.flags.unencrypted])
  else
    match Packet.ofReceived .reply config.key f.header f.body with
    | .ok packet =>
      let agreed := agrees config f.header
      route registry (established || agreed) id (.ok packet)
        (log ++ if agreed && !established then [.singleConnect id] else [])
    | .error .corruptPacket =>
      route registry established id (.error .corruptPacket) (log ++ [.corrupt id])
    | .error e =>
      { registry, established, log, fatal := some (.ofDecodeError e) }

end Reception

end Tacacs
