/-
# `Tacacs.Duration` — spans of time and their text

A span of time is a number of nanoseconds.  Its text is exact: it names the
greatest of the units second, millisecond, microsecond and nanosecond that the
span reaches, and after the point it has as many digits as it needs and no
trailing zero.
-/
namespace Tacacs

/-- A span of time. -/
structure Duration where
  nanoseconds : Nat
deriving DecidableEq

namespace Duration

/-- A whole number of milliseconds. -/
def ofMilliseconds (n : Nat) : Duration := ⟨n * 1000000⟩

/-- Seconds, and nanoseconds besides. -/
def ofParts (seconds nanoseconds : Nat) : Duration := ⟨seconds * 1000000000 + nanoseconds⟩

/-- The whole seconds of a span. -/
def seconds (d : Duration) : Nat := d.nanoseconds / 1000000000

/-- The nanoseconds beside the whole seconds. -/
def subsecond (d : Duration) : Nat := d.nanoseconds % 1000000000

/-! ## Text -/

/-- A unit of time: how many nanoseconds it has, how many digits a nanosecond is
behind the point, and its name. -/
structure Measure where
  nanoseconds : Nat
  places : Nat
  name : String

/-- The units, the greatest first. -/
def measures : List Measure :=
  [⟨1000000000, 9, "s"⟩, ⟨1000000, 6, "ms"⟩, ⟨1000, 3, "µs"⟩]

/-- The unit of what is shorter than all others. -/
def smallest : Measure := ⟨1, 0, "ns"⟩

/-- The greatest unit a span reaches. -/
def measure (d : Duration) : Measure :=
  (measures.find? fun m => m.nanoseconds ≤ d.nanoseconds).getD smallest

/-- The digits after the point for what is left beside whole units, with the
point in front and without trailing zeros; nothing if nothing is left. -/
def fraction (left places : Nat) : List Char :=
  let digits := Nat.toDigits 10 left
  let padded := List.replicate (places - digits.length) '0' ++ digits
  match (padded.reverse.dropWhile (· == '0')).reverse with
  | [] => []
  | digits => '.' :: digits

/-- The text of a span. -/
def text (d : Duration) : String :=
  let m := d.measure
  String.ofList (Nat.toDigits 10 (d.nanoseconds / m.nanoseconds)
    ++ fraction (d.nanoseconds % m.nanoseconds) m.places) ++ m.name

end Duration

end Tacacs
