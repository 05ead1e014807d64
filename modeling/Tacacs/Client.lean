/-
# `Tacacs.Client` — connections that share a source of identifiers

The source of CHAP identifiers belongs to the settings of a connection, and the settings of
many connections may name the same one.  A `Client` is such a source with all connections that
draw from it.

The source exists once.  A connection has a place for it in its own record; there it is lent
to the connection for each of its moves (`connection?`), and taken back after the move
(`apply`).  So what stands in that place between two moves of a connection does not matter, and
what one connection has drawn no other draws again.
-/
import Tacacs.Connection.Move

namespace Tacacs

/-- The connections that draw from one source. -/
structure Client where
  identifiers : Chap.IdentifierSequence
  connections : List Connection := []

/-- Something that happens to a client. -/
inductive ClientMove
  /-- A connection with these settings is there, and has the next number. -/
  | connect (config : Config)
  /-- Something happens to the connection with this number. -/
  | move (k : Nat) (m : Move)

namespace Client

/-- A connection, with the source as it is now. -/
def connection? (c : Client) (k : Nat) : Option Connection :=
  (c.connections[k]?).map fun x => { x with identifiers := c.identifiers }

/-- What a move does.  A move of a connection that is not there does nothing. -/
def apply (c : Client) : ClientMove → Client
  | .connect config =>
    { c with connections := c.connections ++ [{ config, identifiers := c.identifiers }] }
  | .move k m =>
    match c.connection? k with
    | none => c
    | some x => ⟨(x.apply m).1.identifiers, c.connections.set k (x.apply m).1⟩

end Client

end Tacacs
