/-!
# The monotonic clock

Records, blocks and ticks carry instants of one monotonic clock. The origin of the clock is
arbitrary, so instants before it are ordinary instants. Lengths of time are counted in the same
unit, the nanosecond.

## Main definitions

* `Instant`, `Span`: points on the clock and lengths of time
* `Span.ofSeconds`, `Span.ofMillis`, `Span.add`: lengths of time, the sum saturating at
  `Span.longest`
* `Span.wholeSeconds`, `Span.wholeMillis`: lengths of time rounded down
-/

namespace SourceGuard

/-- A point on the monotonic clock, in nanoseconds from its origin. -/
abbrev Instant := Int

/-- A length of time, in nanoseconds. -/
abbrev Span := Nat

namespace Span

/-- A length of whole seconds. -/
def ofSeconds (seconds : Nat) : Span := seconds * 1000000000

/-- A length of whole milliseconds. -/
def ofMillis (millis : Nat) : Span := millis * 1000000

/-- The longest length of time: one nanosecond less than `2 ^ 64` seconds. -/
def longest : Span := UInt64.size * 1000000000 - 1

/-- The sum of two lengths of time, at most `longest`. -/
def add (a b : Span) : Span := min (a + b) longest

/-- The seconds of a length of time, rounded down. -/
def wholeSeconds (d : Span) : Nat := d / 1000000000

/-- The milliseconds of a length of time, rounded down. -/
def wholeMillis (d : Span) : Nat := d / 1000000

@[simp] theorem wholeSeconds_ofSeconds (s : Nat) : wholeSeconds (ofSeconds s) = s := by
  simp [wholeSeconds, ofSeconds]

@[simp] theorem wholeMillis_ofMillis (ms : Nat) : wholeMillis (ofMillis ms) = ms := by
  simp [wholeMillis, ofMillis]

end Span

/-- The length of time from `now` to `deadline`, zero once the deadline has passed. -/
def Instant.until (now deadline : Instant) : Span := (deadline - now).toNat

end SourceGuard
