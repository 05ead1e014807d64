/-
# `Tacacs.Buffer` — writing into a buffer, in place

A form can be written into a buffer that somebody else provides.  It goes in part by
part, each part at a place of its own, and the work (`Filling`) changes the buffer as
it goes: what has been written stays written, also where the work is stopped.

Two things stop it, and they are of different kinds (`Fault`).  The work asks at its
beginning whether there is room for the whole form (`room`); a buffer that is too short
is refused, and nothing has happened to it.  But a part can also be meant for a place
that the buffer does not have, and then the work itself is wrong.  That no form of this
library goes wrong is proved, not checked.

A part can be left to other work, which sees no more of the buffer than a slice
(`within`, `behind`) and counts its places from where the slice begins.
-/
import Tacacs.Octets

namespace Tacacs

/-- What stops the work on a buffer. -/
inductive Fault
  | notEnoughSpace
  | outOfBounds
deriving DecidableEq

/-- Work on a buffer, which gives the buffer back as it was left, and a result unless it
was stopped. -/
abbrev Filling (α : Type) := EStateM Fault Octets α

namespace Filling

variable {α : Type}

/-- Goes on only if the buffer has so many octets. -/
def room (size : Nat) : Filling Unit := fun buffer =>
  if size ≤ buffer.length then .ok () buffer else .error .notEnoughSpace buffer

/-- Puts octets at a place. -/
def put (place : Nat) (octets : Octets) : Filling Unit := fun buffer =>
  if place + octets.length ≤ buffer.length then
    .ok () (buffer.take place ++ octets ++ buffer.drop (place + octets.length))
  else .error .outOfBounds buffer

/-- Puts octets at the front, as many as the buffer can take. -/
def cover (octets : Octets) : Filling Unit := fun buffer =>
  .ok () (Octets.overwrite (octets.take buffer.length) buffer)

/-- Puts pieces one behind the other, the first of them at a place, and tells where the
last one ends. -/
def putEach : Nat → List Octets → Filling Nat
  | place, [] => return place
  | place, piece :: pieces => do
    put place piece
    putEach (place + piece.length) pieces

/-- Leaves so many octets from a place on to other work. -/
def within (place length : Nat) (work : Filling α) : Filling α := fun buffer =>
  if place + length ≤ buffer.length then
    let back (slice : Octets) := buffer.take place ++ slice ++ buffer.drop (place + length)
    match work ((buffer.drop place).take length) with
    | .ok a slice => .ok a (back slice)
    | .error e slice => .error e (back slice)
  else .error .outOfBounds buffer

/-- Leaves everything from a place on to other work. -/
def behind (place : Nat) (work : Filling α) : Filling α := fun buffer =>
  within place (buffer.length - place) work buffer

/-- The buffer after the work, if there was room. -/
def run? (work : Filling Nat) (buffer : Octets) : Option Octets :=
  match work buffer with
  | .ok _ buffer => some buffer
  | .error _ _ => none

end Filling

/-- The wording for a buffer that is too short. -/
def shortBufferMessage : String :=
  "not enough space in buffer"

end Tacacs
