/-
# `Tacacs.Connection.Settle` — until nothing more can happen

Between two moves from outside, the agents that were woken go on in the order in
which they were woken, each until it has to wait.  An agent that another one
wakes comes last.  `perform` is a move from outside and all that follows from it.

The number of steps is bounded by what there is to read, to write and to fail
(`patience`): a packet has fewer than `2 ^ 17` octets, and a session sends no
second packet before its dispatcher has read on.
-/
import Tacacs.Connection.Move

namespace Tacacs.Connection

/-- The agents that effects wake. -/
def woken (effects : List Effect) : List Agent :=
  effects.filterMap fun
    | .woke a => some a
    | _ => none

/-- A queue of agents after further ones were woken; nobody stands in it twice. -/
def enqueue (queue woken : List Agent) : List Agent :=
  woken.foldl (fun q a => if q.contains a then q else q ++ [a]) queue

/-- Lets agents go on, the first one until it has to wait, and so on; the effects
are gathered in front of earlier ones, the last one first. -/
def drain : Nat → List Agent → Connection → List Effect → Connection × List Effect
  | 0, _, c, seen => (c, seen)
  | _ + 1, [], c, seen => (c, seen)
  | fuel + 1, a :: queue, c, seen =>
    match c.step a with
    | none => drain fuel queue c seen
    | some (c, effects) =>
      drain fuel (a :: enqueue queue (woken effects)) c (effects.reverse ++ seen)

/-- More steps than the agents can take before something comes from outside. -/
def patience (c : Connection) : Nat :=
  let unread := c.arrivals.foldr (fun
    | .octets s, n => s.length + 2 + n
    | _, n => 2 + n) 0
  0x80000 * (c.sessions.length + 1) + 2 * unread
    + (c.closings.length + 2) * (c.registry.exchanges.length + 16)

/-- Lets agents go on until nothing more can happen. -/
def settle (c : Connection) (queue : List Agent) : Connection × List Effect :=
  let (c, seen) := drain c.patience queue c []
  (c, seen.reverse)

/-- A move from outside, and all that follows from it. -/
def perform (c : Connection) (m : Move) : Connection × List Effect :=
  let (c, effects) := c.apply m
  let (c, more) := c.settle (enqueue [] (woken effects))
  (c, effects ++ more)

end Tacacs.Connection
