/-
# `Tacacs.Clock` — instants and deadlines

An instant is a number of nanoseconds since the clock started.  The clock has no
end, so every wait has a deadline, however long its limit: no limit is too long
to be added, and none is cut short.
-/
import Tacacs.Duration

namespace Tacacs

/-- A point in time: nanoseconds since the clock started. -/
abbrev Instant := Nat

namespace Instant

/-- The instant that lies a span after another: the time once the span has
passed, and the deadline of a wait that the span limits. -/
def later (now : Instant) (span : Duration) : Instant :=
  now + span.nanoseconds

end Instant

end Tacacs
