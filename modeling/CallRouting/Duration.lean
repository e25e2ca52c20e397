/-!
# Spans and points of time

A duration is a whole number of nanoseconds that fits a 64-bit count of seconds
with a nanosecond remainder. The bound is part of the type, so an operation that
would leave the range says what it does there: here every one of them stops at
the longest duration.

A point of time is the number of nanoseconds since the clock started. Points are
plain natural numbers; a clock never runs backwards in this library, because the
time of every event is handed to it.
-/

namespace CallRouting

/-- Nanoseconds since the clock started. -/
abbrev Instant := Nat

/-- The longest duration: `2 ^ 64 - 1` seconds and `999 999 999` nanoseconds. -/
def longestNanos : Nat := 18446744073709551615999999999

/-- A span of time, exact to the nanosecond. -/
structure Duration where
  nanos : Nat
  bounded : nanos ≤ longestNanos
  deriving DecidableEq

namespace Duration

/-- Durations are the same if their nanoseconds are. -/
theorem ext_nanos {a b : Duration} (same : a.nanos = b.nanos) : a = b := by
  cases a; cases b; cases same; rfl

/-- A number of nanoseconds, or the longest duration if that is shorter. -/
def ofNanos (n : Nat) : Duration := ⟨min n longestNanos, Nat.min_le_right _ _⟩

/-- A number of nanoseconds is kept up to the longest duration. -/
theorem nanos_ofNanos (n : Nat) : (ofNanos n).nanos = min n longestNanos := rfl

/-- Each duration is given back by its nanoseconds. -/
theorem ofNanos_nanos (d : Duration) : ofNanos d.nanos = d :=
  ext_nanos (Nat.min_eq_left d.bounded)

/-- A number of milliseconds. -/
def ofMillis (n : Nat) : Duration := ofNanos (n * 1000000)

/-- A number of seconds. -/
def ofSeconds (n : Nat) : Duration := ofNanos (n * 1000000000)

/-- Whole seconds and further nanoseconds, of which a thousand million or more
carry over into the seconds. -/
def ofParts (seconds nanos : Nat) : Duration := ofNanos (seconds * 1000000000 + nanos)

/-- No time at all. -/
def zero : Duration := ⟨0, Nat.zero_le _⟩

/-- The longest duration. -/
def longest : Duration := ⟨longestNanos, Nat.le_refl _⟩

/-- Whole seconds. -/
def seconds (d : Duration) : Nat := d.nanos / 1000000000

/-- The nanoseconds beyond the whole seconds. -/
def subsecond (d : Duration) : Nat := d.nanos % 1000000000

/-- Whole milliseconds. -/
def millis (d : Duration) : Nat := d.nanos / 1000000

/-- Each duration is given back by its seconds and further nanoseconds. -/
theorem ofParts_parts (d : Duration) : ofParts d.seconds d.subsecond = d := by
  have whole : d.nanos / 1000000000 * 1000000000 + d.nanos % 1000000000 = d.nanos := by omega
  simpa [ofParts, seconds, subsecond, whole] using ofNanos_nanos d

/-- Whether a duration is no time at all. -/
def isZero (d : Duration) : Bool := d.nanos == 0

/-- A multiple of a duration, or the longest duration if that is shorter. -/
def scale (d : Duration) (factor : Nat) : Duration := ofNanos (d.nanos * factor)

/-- A multiple of a duration, up to the longest one. -/
theorem nanos_scale (d : Duration) (factor : Nat) :
    (d.scale factor).nanos = min (d.nanos * factor) longestNanos := rfl

/-- The shorter of two durations. -/
def shorter (a b : Duration) : Duration := if a.nanos ≤ b.nanos then a else b

/-- The shorter one of two durations has the fewer nanoseconds. -/
theorem nanos_shorter (a b : Duration) : (a.shorter b).nanos = min a.nanos b.nanos := by
  unfold shorter
  split <;> omega

/-- The 64-bit count of milliseconds of a duration keeps the low bits only. -/
def millisWord (d : Duration) : UInt64 := UInt64.ofNat d.millis

end Duration

end CallRouting
