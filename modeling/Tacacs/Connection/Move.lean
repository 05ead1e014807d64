/-
# `Tacacs.Connection.Move` — everything that can happen to a connection

A run of a connection is a list of moves.  A move is a step of an agent, or
something from outside: a session is opened, called or called off, octets arrive,
the stream changes its ways, time passes.  `apply` says what a move does; a move
that is not possible does nothing.

Moves from outside wake the agents that may be able to go on.
-/
import Tacacs.Connection.Step

namespace Tacacs

/-- Something that happens to a connection. -/
inductive Move
  /-- A session is opened, under the first of these ids that is free, or of those that follow. -/
  | openSession (candidates : List SessionId) (context : Context)
      (answers : Option (List (Option String)))
  | callSession (n : Nat) (call : Call)
  | startClosing
  | startDispatcher
  /-- An agent is called off, where it waits or before it has begun. -/
  | drop (agent : Agent)
  | arrive (arrivals : List Arrival)
  /-- The stream takes what is written in another way. -/
  | changeRules (rules : WriteRules)
  | advance (span : Duration)
  | step (agent : Agent)

namespace Connection

/-- The id drawn last, which is that of the youngest session; zero before the first. -/
def lastId (c : Connection) : SessionId :=
  (c.sessions.getLast?.map Session.id).getD 0

/-- The id of a new session: the first candidate under which no exchange stands.
After the last candidate, the ids that follow it are tried; without candidates,
those that follow the id drawn last. -/
def freshId (c : Connection) (candidates : List SessionId) : SessionId :=
  let last := candidates.getLast?.getD c.lastId
  let more := (List.range (c.registry.size + 1)).map fun i => last + UInt32.ofNat (i + 1)
  ((candidates ++ more).find? fun id => !c.registry.contains id).getD last

/-- Calls a session that was not called yet. -/
def startCall (c : Connection) (n : Nat) (call : Call) : Connection × List Effect :=
  match c.sessions[n]? with
  | some s@{ phase := .idle, .. } =>
    let (identifier, identifiers) := call.draw c.identifiers
    let c := { c with identifiers }
    match (c.settings s).firstPacket? identifier call with
    | none => c.endSession n (.error .invalidContext)
    | some request => (c.setPhase n (.ready request), [.woke (.session n)])
  | _ => (c, [])

/-! ## Calling off -/

/-- Gives up the place in line or the writing side of an agent that is called off. -/
def leaveWriter (c : Connection) (a : Agent) : Connection × List Effect :=
  if c.writer = some a then c.giveBackWriter
  else
    let (called, line) := c.line.quit a
    ({ c with line }, called.toList.map .woke)

/-- An agent was started and not called off yet. -/
def started (c : Connection) : Agent → Bool
  | .dispatcher =>
    match c.dispatcher with
    | .idle | .dropped => false
    | _ => true
  | .session n =>
    match c.sessions[n]?.map Session.phase with
    | none | some .idle | some .dropped => false
    | _ => true
  | .closing n =>
    match c.closings[n]? with
    | none | some .dropped => false
    | _ => true

/-- An agent stands where it can be called off: it has not begun, or it waits, or
it is over.  Between registering an exchange and looking whether the connection is
closed nobody waits, nor before taking an exchange back, nor in the middle of ending
a connection. -/
def canStop (c : Connection) : Agent → Bool
  | .dispatcher =>
    match c.dispatcher with
    | .ending .. => false
    | _ => true
  | .session n =>
    match c.sessions[n]?.map Session.phase with
    | some (.registered _) | some (.unsent ..) => false
    | _ => true
  | .closing n =>
    match c.closings[n]? with
    | some (.ending .collect) | some (.ending (.fail _)) => false
    | _ => true

/-- Calls off an agent.  What it has registered stands, and what it has written
stays written. -/
def dropAgent (c : Connection) (a : Agent) : Connection × List Effect :=
  if !c.started a || !c.canStop a then (c, [])
  else
    match a with
    | .dispatcher => ({ c with dispatcher := .dropped }, [])
    | .closing n => (c.setClosing n .dropped).leaveWriter a
    | .session n =>
      let ticket := (c.sessions[n]?.map Session.phase).bind SessionPhase.ticket?
      let registry := ticket.elim c.registry c.registry.giveUp
      (({ c with registry }).setPhase n .dropped).leaveWriter a

/-! ## Moves -/

/-- The agent that a stalled stream holds up. -/
def stalledWriter? (c : Connection) : Option Agent :=
  match c.writer with
  | some (.session n) =>
    match c.sessions[n]?.map Session.phase with
    | some (.writing ..) => some (.session n)
    | _ => none
  | _ => none

/-- The sessions whose wait has lasted too long. -/
def overdue (c : Connection) : List Agent :=
  (List.range c.sessions.length).filterMap fun n =>
    match c.sessions[n]?.map Session.phase with
    | some (.awaiting _ w) => if w.deadline ≤ c.now then some (.session n) else none
    | _ => none

/-- What a move does. -/
def apply (c : Connection) : Move → Connection × List Effect
  | .openSession candidates context answers =>
    let s := { id := c.freshId candidates, context, answers }
    ({ c with sessions := c.sessions ++ [s] }, [])
  | .callSession n call => c.startCall n call
  | .startClosing =>
    ({ c with closings := c.closings ++ [.ending .mark] }, [.woke (.closing c.closings.length)])
  | .startDispatcher =>
    match c.dispatcher with
    | .idle => ({ c with dispatcher := .reading .start }, [.woke .dispatcher])
    | _ => (c, [])
  | .drop agent => c.dropAgent agent
  | .arrive arrivals => ({ c with arrivals := c.arrivals ++ arrivals }, [.woke .dispatcher])
  | .changeRules rules => ({ c with rules }, c.stalledWriter?.toList.map .woke)
  | .advance span =>
    let c := { c with now := c.now.later span }
    (c, c.overdue.map .woke)
  | .step agent => (c.step agent).getD (c, [])

/-- A run: what a list of moves does, and everything that could be seen of it. -/
def run (c : Connection) : List Move → Connection × List Effect
  | [] => (c, [])
  | m :: ms =>
    let (c, effects) := c.apply m
    let (c, more) := c.run ms
    (c, effects ++ more)

end Connection

end Tacacs
