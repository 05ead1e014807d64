/-
# `Tacacs.Waiting` — waiting for exchanges, with a limit

Beside the registry stand those who hold tickets.  A ticket is first held, and
then its holder waits for the exchange, no longer than a limit.  A wait is over
when the exchange has an outcome or the limit has passed; an outcome that is
there counts even when the limit has passed too.  Whoever has waited too long
gives the exchange up.
-/
import Tacacs.Clock
import Tacacs.Registry

namespace Tacacs

/-- A wait for an exchange. -/
structure Wait where
  ticket : Ticket
  limit : Duration
  deadline : Instant

/-- What a wait comes to at an instant; nothing if it goes on. -/
def Wait.result? (w : Wait) (r : Registry) (now : Instant) : Option Outcome :=
  match r.outcome? w.ticket with
  | some outcome => some outcome
  | none => if w.deadline ≤ now then some (.error (.timeout w.limit)) else none

/-- A registry, the time, the tickets that are held and the waits that go on. -/
structure Waiting where
  registry : Registry := {}
  now : Instant := 0
  held : List Ticket := []
  waits : List Wait := []

namespace Waiting

/-- Registers an exchange and holds its ticket. -/
def register (s : Waiting) (id : SessionId) : Ticket × Waiting :=
  let (ticket, registry) := s.registry.register id
  (ticket, { s with registry, held := s.held ++ [ticket] })

def resolve (s : Waiting) (id : SessionId) (outcome : Outcome) : Bool × Waiting :=
  let (reached, registry) := s.registry.resolve id outcome
  (reached, { s with registry })

def withdraw (s : Waiting) (id : SessionId) : Waiting :=
  { s with registry := s.registry.withdraw id }

def failAll (s : Waiting) (failure : Failure) : Waiting :=
  { s with registry := s.registry.failAll failure }

/-- Begins to wait for an exchange.  Its ticket has to be held: nobody waits twice. -/
def wait (s : Waiting) (t : Ticket) (limit : Duration) : Waiting :=
  if s.held.contains t then
    { s with
      held := s.held.erase t
      waits := s.waits ++ [⟨t, limit, s.now.later limit⟩] }
  else s

/-- Discards a ticket, held or waited for.  Says whether it was held. -/
def discard (s : Waiting) (t : Ticket) : Bool × Waiting :=
  (s.held.contains t,
    { s with
      registry := s.registry.giveUp t
      held := s.held.erase t
      waits := s.waits.filter fun w => w.ticket != t })

/-- Lets time pass. -/
def advance (s : Waiting) (span : Duration) : Waiting :=
  { s with now := s.now.later span }

/-- Looks whether the wait for an exchange is over.  If it is, it ends, and this is
what it came to. -/
def poll (s : Waiting) (t : Ticket) : Option Outcome × Waiting :=
  match (s.waits.find? fun w => w.ticket == t).bind fun w => w.result? s.registry s.now with
  | none => (none, s)
  | some outcome =>
    (some outcome,
      { s with
        registry := s.registry.giveUp t
        waits := s.waits.filter fun w => w.ticket != t })

/-- Ends the waits that are over, one after the other, and says what they came to. -/
def finish (s : Waiting) : List (Ticket × Outcome) × Waiting :=
  s.waits.foldl (fun (results, s) w =>
    match s.poll w.ticket with
    | (none, s) => (results, s)
    | (some outcome, s) => (results ++ [(w.ticket, outcome)], s)) ([], s)

end Waiting

end Tacacs
