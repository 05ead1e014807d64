/-
# `Tacacs.Line` — standing in line for something only one can have

Those who wait stand on numbered places.  A newcomer takes the place that was
left last, or a new one behind all others.  When the thing is given back, the one
on the lowest place is called.  It is not handed over: whoever comes first takes
it, and one who was called in vain waits again.

One who leaves after being called, without taking the thing, passes the call on.
-/
namespace Tacacs

/-- One who stands in line. -/
structure Line.Spot (α : Type) where
  place : Nat
  who : α
  /-- It is called and has not answered yet. -/
  called : Bool
deriving DecidableEq

/-- A line, by rising places, and the places that were left, the last one first. -/
structure Line (α : Type) where
  spots : List (Line.Spot α) := []
  left : List Nat := []
deriving DecidableEq

namespace Line

variable {α : Type} [DecidableEq α]

/-- Somebody's spot. -/
def find? (l : Line α) (who : α) : Option (Spot α) :=
  l.spots.find? fun s => s.who == who

/-- Puts a newcomer in line. -/
def join (l : Line α) (who : α) : Line α :=
  let place := l.left.headD l.spots.length
  { spots := l.spots.takeWhile (·.place < place) ++ ⟨place, who, false⟩
      :: l.spots.dropWhile (·.place < place)
    left := l.left.tail }

/-- Takes somebody out of the line. -/
def leave (l : Line α) (who : α) : Line α :=
  match l.find? who with
  | none => l
  | some s => { spots := l.spots.filter (·.who != who), left := s.place :: l.left }

/-- Calls the one on the lowest place, and says who it is; nobody is called twice. -/
def call (l : Line α) : Option α × Line α :=
  match l.spots with
  | [] => (none, l)
  | s :: rest =>
    if s.called then (none, l)
    else (some s.who, { l with spots := { s with called := true } :: rest })

/-- Has somebody who was called in vain wait again. -/
def wait (l : Line α) (who : α) : Line α :=
  { l with spots := l.spots.map fun s => if s.who = who then { s with called := false } else s }

/-- Takes somebody out of the line who does not want the thing any more. -/
def quit (l : Line α) (who : α) : Option α × Line α :=
  match l.find? who with
  | some s => if s.called then (l.leave who).call else (none, l.leave who)
  | none => (none, l)

end Line

end Tacacs
