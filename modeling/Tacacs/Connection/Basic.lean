/-
# `Tacacs.Connection.Basic` — the state of a connection

Many sessions share one stream.  Each session, each call to close and the
dispatcher that reads replies is an *agent*: it goes on by itself, one step after
the other, until it has to wait for something.  Where an agent stands is its
phase, and the phases say exactly what it does next, so that every interleaving
of agents is a sequence of steps.

A session sends a packet in six steps: it registers an exchange, looks whether
the connection is closed, takes the writing side of the stream, writes, flushes
and gives the writing side back, and waits.  Ending a connection takes three:
the closed mark is set, the exchanges that stand are collected, and they fail one
by one.
-/
import Tacacs.Dialog
import Tacacs.Line
import Tacacs.Outflow
import Tacacs.Reception
import Tacacs.Waiting

namespace Tacacs

/-- Who acts on a connection. -/
inductive Agent
  | dispatcher
  /-- A session, by its number. -/
  | session (n : Nat)
  /-- A call to close, by its number. -/
  | closing (n : Nat)
deriving DecidableEq

/-! ## Sessions -/

/-- A packet on its way out. -/
structure Sending where
  request : Packet
  octets : Octets
  ticket : Ticket
deriving DecidableEq

/-- Where a session stands. -/
inductive SessionPhase
  | idle
  /-- It has a packet to send. -/
  | ready (request : Packet)
  /-- The exchange is registered; now the session looks whether the connection is closed. -/
  | registered (s : Sending)
  /-- It wants the writing side of the stream. -/
  | queued (s : Sending)
  /-- It has the writing side, and these octets are still to be written. -/
  | writing (s : Sending) (rest : Octets)
  /-- It has the writing side, and everything is written. -/
  | flushing (s : Sending)
  /-- The packet is not going to be sent; the exchange is to be taken back. -/
  | unsent (s : Sending) (failure : Failure)
  | awaiting (request : Packet) (wait : Wait)
  | finished (result : Except Failure Response)
  | dropped

/-- The exchange a session is waiting for or about to wait for. -/
def SessionPhase.ticket? : SessionPhase → Option Ticket
  | .registered o | .queued o | .writing o _ | .flushing o | .unsent o _ => some o.ticket
  | .awaiting _ w => some w.ticket
  | .idle | .ready _ | .finished _ | .dropped => none

/-- A session over a connection. -/
structure Session where
  id : SessionId
  context : Context
  /-- The answers to prompts, in order; none where nobody can be prompted. -/
  answers : Option (List (Option String))
  phase : SessionPhase := .idle

/-- The session waits for the exchange with this ticket. -/
def Session.waitsFor (s : Session) (t : Ticket) : Bool :=
  match s.phase with
  | .awaiting _ w => w.ticket == t
  | _ => false

/-! ## Ending a connection -/

/-- How far the ending of a connection has come. -/
inductive EndStage
  /-- The closed mark is to be set. -/
  | mark
  /-- The exchanges that stand are to be collected. -/
  | collect
  /-- The exchanges of these sessions are to fail. -/
  | fail (ids : List SessionId)
deriving DecidableEq

/-- Where a call to close stands. -/
inductive ClosingPhase
  | ending (stage : EndStage)
  | queued
  /-- It has the writing side, and the stream is to be closed. -/
  | holding
  | finished (result : Except Failure Unit)
  | dropped

/-- Where the dispatcher stands. -/
inductive DispatcherPhase
  | idle
  | reading (reader : Reader)
  /-- It ends the connection: the exchanges are told one thing, its caller another. -/
  | ending (stage : EndStage) (told : Failure) (result : Except Failure Unit)
  | finished (result : Except Failure Unit)
  | dropped

/-! ## Connections -/

/-- A connection and everything that goes on over it. -/
structure Connection where
  config : Config
  /-- Where CHAP attempts draw their identifiers. -/
  identifiers : Chap.IdentifierSequence := ⟨0⟩
  registry : Registry := {}
  /-- No exchange can be carried any more. -/
  closed : Bool := false
  /-- The server keeps the connection for further sessions. -/
  established : Bool := false
  now : Instant := 0
  /-- What has arrived and was not read yet. -/
  arrivals : List Arrival := []
  rules : WriteRules := {}
  /-- How many times the stream was closed. -/
  closes : Nat := 0
  /-- Who has the writing side of the stream. -/
  writer : Option Agent := none
  /-- Who wants it. -/
  line : Line Agent := {}
  dispatcher : DispatcherPhase := .idle
  sessions : List Session := []
  closings : List ClosingPhase := []

/-- What can be seen of a step from outside. -/
inductive Effect
  /-- The stream took these octets. -/
  | sent (octets : Octets)
  | logged (event : LogEvent)
  | prompted (session : Nat) (message : String) (noEcho : Bool) (kind : PromptKind)
  | sessionOver (session : Nat) (result : Except Failure Response)
  | closingOver (closing : Nat) (result : Except Failure Unit)
  | dispatcherOver (result : Except Failure Unit)
  /-- An agent may be able to go on. -/
  | woke (agent : Agent)
deriving DecidableEq

namespace Connection

/-- A session in a new phase. -/
def setPhase (c : Connection) (n : Nat) (phase : SessionPhase) : Connection :=
  { c with sessions := c.sessions.modify n fun s => { s with phase } }

/-- A call to close in a new phase. -/
def setClosing (c : Connection) (n : Nat) (phase : ClosingPhase) : Connection :=
  { c with closings := c.closings.set n phase }

/-- The settings of a session. -/
def settings (c : Connection) (s : Session) : SessionSettings :=
  ⟨c.config, s.context, s.id⟩

/-- The session that waits for an exchange is woken when the exchange has an outcome. -/
def wake (c : Connection) (reached : Option Ticket) : List Effect :=
  match reached.bind fun t => c.sessions.findIdx? fun s => s.waitsFor t with
  | some n => [.woke (.session n)]
  | none => []

/-- Settles what stands under an id, and wakes whoever waits for it. -/
def settleExchange (c : Connection) (id : SessionId) (failure : Failure) :
    Connection × List Effect :=
  ({ c with registry := c.registry.settle id (.error failure) }, c.wake (c.registry.awaited? id))

end Connection

end Tacacs
