import CallRouting.Duration

/-!
# Durations as text

A duration is shown in the largest unit of which it has at least one: seconds,
milliseconds, microseconds or nanoseconds. What is left over stands behind a
decimal point, with no more digits than it needs.
-/

namespace CallRouting.Duration

/-- The fraction `fraction / 10 ^ width` as a decimal point and its digits, without
zeros at the end; nothing for zero. -/
def fractionChars (fraction width : Nat) : List Char :=
  if fraction = 0 then []
  else
    let digits := Nat.toDigits 10 fraction
    let padded := List.replicate (width - digits.length) '0' ++ digits
    '.' :: (padded.reverse.dropWhile (· = '0')).reverse

/-- The duration in a unit of `size` nanoseconds, a power of ten with so many zeros. -/
def inUnit (d : Duration) (size zeros : Nat) (unit : String) : String :=
  toString (d.nanos / size) ++ String.ofList (fractionChars (d.nanos % size) zeros) ++ unit

/-- A duration in the largest unit that fits, with the decimals that it needs. -/
def text (d : Duration) : String :=
  if 1000000000 ≤ d.nanos then d.inUnit 1000000000 9 "s"
  else if 1000000 ≤ d.nanos then d.inUnit 1000000 6 "ms"
  else if 1000 ≤ d.nanos then d.inUnit 1000 3 "µs"
  else d.inUnit 1 0 "ns"

end CallRouting.Duration
