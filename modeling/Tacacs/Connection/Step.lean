/-
# `Tacacs.Connection.Step` — how agents go on

`step` takes one agent one step further and says what could be seen of it.
There is no step for an agent that has to wait: a session for its reply, an agent
in line for the writing side, a writer for a stream that stalls, the dispatcher
for something to arrive.

The writing side belongs to one agent at a time.  Giving it back calls the next
in line, but does not hand it over; whoever asks first has it.
-/
import Tacacs.Connection.Basic

namespace Tacacs.Connection

/-! ## The writing side -/

/-- Asks for the writing side on behalf of an agent: it has it now, or stands in
line for it, or was in line already and there is no step. -/
inductive Asked
  | taken (c : Connection)
  | inLine (c : Connection)
  | waits

/-- Asks for the writing side. -/
def askForWriter (c : Connection) (a : Agent) : Asked :=
  match c.writer with
  | none => .taken { c with writer := some a, line := c.line.leave a }
  | some _ =>
    match c.line.find? a with
    | none => .inLine { c with line := c.line.join a }
    | some spot => if spot.called then .inLine { c with line := c.line.wait a } else .waits

/-- Gives the writing side back. -/
def giveBackWriter (c : Connection) : Connection × List Effect :=
  let (called, line) := c.line.call
  ({ c with writer := none, line }, called.toList.map .woke)

/-! ## Ending -/

/-- What an end stage leads to: the next one, if there is one. -/
def endStep (c : Connection) (told : Failure) :
    EndStage → Option EndStage × Connection × List Effect
  | .mark => (some .collect, { c with closed := true }, [])
  | .collect => (some (.fail c.registry.ids), c, [])
  | .fail (id :: ids) => (some (.fail ids), c.settleExchange id told)
  | .fail [] => (none, c, [])

/-! ## Sessions -/

/-- Ends a session. -/
def endSession (c : Connection) (n : Nat) (result : Except Failure Response) :
    Connection × List Effect :=
  (c.setPhase n (.finished result), [.sessionOver n result])

/-- Registers the exchange of a packet to be sent. -/
def stepReady (c : Connection) (n : Nat) (s : Session) (request : Packet) :
    Connection × List Effect :=
  if request.header.sequence = 255 then c.endSession n (.error .sequenceExhausted)
  else
    match c.config.wire request with
    | .error e => c.endSession n (.error (.encode e))
    | .ok octets =>
      let (ticket, registry) := c.registry.register s.id
      (({ c with registry }).setPhase n (.registered ⟨request, octets, ticket⟩),
        c.wake (c.registry.awaited? s.id))

/-- Looks whether the connection is closed, after the exchange was registered. -/
def stepRegistered (c : Connection) (n : Nat) (o : Sending) : Connection × List Effect :=
  (c.setPhase n (if c.closed then .unsent o .closed else .queued o), [])

/-- Writes on. -/
def stepWriting (c : Connection) (n : Nat) (o : Sending) (rest : Octets) :
    Option (Connection × List Effect) :=
  match c.rules.write rest with
  | (.stalled, _) => none
  | (.fault f, rules) =>
    let (c, woken) := ({ c with rules }).giveBackWriter
    some (c.setPhase n (.unsent o (.stream f)), woken)
  | (.taken octets left, rules) =>
    let phase := if left.isEmpty then .flushing o else .writing o left
    some (({ c with rules }).setPhase n phase, [.sent octets])

/-- Flushes what was written. -/
def stepFlushing (c : Connection) (n : Nat) (o : Sending) : Connection × List Effect :=
  let (c, woken) := c.giveBackWriter
  match c.rules.flushFault with
  | some f => (c.setPhase n (.unsent o (.stream f)), woken)
  | none =>
    let limit := c.config.timeout
    (c.setPhase n (.awaiting o.request ⟨o.ticket, limit, c.now.later limit⟩),
      woken ++ [.logged (.sent o.request.header o.octets.length)])

/-- Takes back the exchange of a packet that is not going to be sent. -/
def stepUnsent (c : Connection) (n : Nat) (s : Session) (f : Failure) :
    Connection × List Effect :=
  let (c, woken) := c.settleExchange s.id .closed
  let (c, ended) := c.endSession n (.error f)
  (c, woken ++ ended)

/-- Goes on with input, or ends the session for want of it. -/
def stepAsked (c : Connection) (n : Nat) (s : Session) (request reply : Packet)
    (message : String) (noEcho : Bool) (kind : PromptKind) : Connection × List Effect :=
  match s.answers with
  | none => c.endSession n (.error .noInput)
  | some answers =>
    let prompt := .prompted n message noEcho kind
    let c := { c with
      sessions := c.sessions.modify n fun s => { s with answers := some answers.tail } }
    match answers.head?.join with
    | none =>
      let (c, ended) := c.endSession n (.error .noInput)
      (c, prompt :: ended)
    | some input =>
      match (c.settings s).followUp request reply input with
      | .error e =>
        let (c, ended) := c.endSession n (.error e)
        (c, prompt :: ended)
      | .ok next => (c.setPhase n (.ready next), [prompt])

/-- Takes the outcome of an exchange. -/
def stepOutcome (c : Connection) (n : Nat) (s : Session) (request : Packet) :
    Outcome → Connection × List Effect
  | .error e => c.endSession n (.error e)
  | .ok reply =>
    match judge request reply with
    | .asks message noEcho kind => c.stepAsked n s request reply message noEcho kind
    | .finished result =>
      let log :=
        match result with
        | .ok (.authentication r) => [.logged (.sessionFinished s.id r.status)]
        | _ => []
      let (c, ended) := c.endSession n result
      (c, log ++ ended)

/-- Takes a session one step further. -/
def stepSession (c : Connection) (n : Nat) (s : Session) : Option (Connection × List Effect) :=
  match s.phase with
  | .idle | .finished _ | .dropped => none
  | .ready request => some (c.stepReady n s request)
  | .registered o => some (c.stepRegistered n o)
  | .queued o =>
    match c.askForWriter (.session n) with
    | .taken c => some (c.setPhase n (.writing o o.octets), [])
    | .inLine c => some (c, [])
    | .waits => none
  | .writing o rest => c.stepWriting n o rest
  | .flushing o => some (c.stepFlushing n o)
  | .unsent _ f => some (c.stepUnsent n s f)
  | .awaiting request w =>
    match w.result? c.registry c.now with
    | none => none
    | some outcome =>
      some (({ c with registry := c.registry.giveUp w.ticket }).stepOutcome n s request outcome)

/-! ## Closing -/

/-- Takes a call to close one step further. -/
def stepClosing (c : Connection) (n : Nat) : ClosingPhase → Option (Connection × List Effect)
  | .ending stage =>
    match c.endStep .closed stage with
    | (some stage, c, woken) => some (c.setClosing n (.ending stage), woken)
    | (none, c, woken) => some (c.setClosing n .queued, woken)
  | .queued =>
    match c.askForWriter (.closing n) with
    | .taken c => some (c.setClosing n .holding, [])
    | .inLine c => some (c, [])
    | .waits => none
  | .holding =>
    let result :=
      match c.rules.closeFault with
      | some f => .error (.stream f)
      | none => .ok ()
    let (c, woken) := ({ c with closes := c.closes + 1 }).giveBackWriter
    some (c.setClosing n (.finished result), woken ++ [.closingOver n result])
  | .finished _ | .dropped => none

/-! ## The dispatcher -/

/-- Takes a packet that came in. -/
def stepFrame (c : Connection) (f : Frame) : Connection × List Effect :=
  let r := Reception.ofFrame c.config c.registry c.established f
  let log := r.log.map .logged
  let c := { c with registry := r.registry, established := r.established }
  match r.fatal with
  | none => ({ c with dispatcher := .reading .start }, log ++ c.wake r.reached)
  | some e =>
    ({ c with dispatcher := .ending .mark e.forPending (.error e) },
      log ++ [.logged (.connectionFailed e)])

/-- Takes the dispatcher one step further. -/
def stepDispatcher (c : Connection) : Option (Connection × List Effect) :=
  match c.dispatcher with
  | .idle | .finished _ | .dropped => none
  | .reading reader =>
    if c.arrivals.isEmpty then none
    else
      let (progress, arrivals) := reader.nextFrame c.config.maxBodyLength c.arrivals
      let c := { c with arrivals }
      match progress with
      | .waiting reader => some ({ c with dispatcher := .reading reader }, [])
      | .frame f => some (c.stepFrame f)
      | .ended =>
        some ({ c with dispatcher := .ending .mark .closed (.ok ()) }, [.logged .serverClosed])
      | .failed e =>
        some ({ c with dispatcher := .ending .mark e.forPending (.error e) },
          [.logged (.connectionFailed e)])
  | .ending stage told result =>
    match c.endStep told stage with
    | (some stage, c, woken) => some ({ c with dispatcher := .ending stage told result }, woken)
    | (none, c, woken) =>
      some ({ c with dispatcher := .finished result }, woken ++ [.dispatcherOver result])

/-- Takes an agent one step further; nothing if it has to wait. -/
def step (c : Connection) : Agent → Option (Connection × List Effect)
  | .dispatcher => c.stepDispatcher
  | .session n => (c.sessions[n]?).bind (c.stepSession n)
  | .closing n => (c.closings[n]?).bind (c.stepClosing n)

end Tacacs.Connection
