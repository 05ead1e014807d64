/-
# `Tacacs.Outflow` — how a stream takes what is written to it

A stream may take all it is given, a part of it, or nothing for now; it may fail
at writing, flushing or closing.  `WriteRules` says which.  The rules stand until
they are replaced, but for the limit, which goes down with every octet taken.

Of several rules the first of these decides a writing: it fails; nothing is ever
taken; nothing is taken for now.  To take nothing of something, not even for now,
is a fault like the others.
-/
import Tacacs.Failure

namespace Tacacs

/-- How a stream takes what is written to it. -/
structure WriteRules where
  /-- How many octets are taken before writing stalls. -/
  limit : Option Nat := none
  /-- How many octets are taken at a time. -/
  chunk : Option Nat := none
  /-- Nothing is ever taken. -/
  zero : Bool := false
  writeFault : Option StreamFault := none
  flushFault : Option StreamFault := none
  closeFault : Option StreamFault := none
deriving DecidableEq

/-- What becomes of octets that are written. -/
inductive Written
  | taken (octets rest : Octets)
  | stalled
  | fault (fault : StreamFault)
deriving DecidableEq

namespace WriteRules

/-- How many octets may be taken at most of one writing. -/
def most (r : WriteRules) : Option Nat :=
  match r.limit, r.chunk with
  | some limit, some chunk => some (min limit chunk)
  | some limit, none => some limit
  | none, chunk => chunk

/-- Writes octets, and says by what rules the stream goes on. -/
def write (r : WriteRules) (octets : Octets) : Written × WriteRules :=
  match r.writeFault with
  | some f => (.fault f, r)
  | none =>
    if r.zero then (.fault .writeZero, r)
    else if r.limit = some 0 then (.stalled, r)
    else
      let taken :=
        match r.most with
        | some n => octets.take n
        | none => octets
      if taken.isEmpty then (.fault .writeZero, r)
      else
        (.taken taken (octets.drop taken.length),
          { r with limit := r.limit.map (· - taken.length) })

end WriteRules

end Tacacs
