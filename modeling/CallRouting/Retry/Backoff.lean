import CallRouting.Duration

/-!
# Waiting between attempts

A backoff says how long to wait after the `n`-th failed attempt. A fixed backoff
waits the same time every time. An exponential one doubles its wait with every
failure and stops at a ceiling; the doubling itself stops after ten times.
-/

namespace CallRouting

/-- How long to wait before a further attempt. -/
inductive Backoff
  | fixed (wait : Duration)
  | exponential (base ceiling : Duration)
  deriving DecidableEq

namespace Backoff

/-- How often an exponential wait doubles at most. -/
def mostDoublings : Nat := 10

/-- The wait after so many failed attempts, counted from one. -/
def delay : Backoff → Nat → Duration
  | .fixed wait, _ => wait
  | .exponential base ceiling, failures =>
    (base.scale (Nat.pow 2 (min (failures - 1) mostDoublings))).shorter ceiling

/-- A backoff that nobody chose waits one second. -/
def standard : Backoff := .fixed (.ofMillis 1000)

/-- A fixed wait does not depend on the failures. -/
theorem delay_fixed (wait : Duration) (failures : Nat) : (fixed wait).delay failures = wait := rfl

/-- A growing wait never exceeds its ceiling. -/
theorem delay_le_ceiling (base ceiling : Duration) (failures : Nat) :
    ((exponential base ceiling).delay failures).nanos ≤ ceiling.nanos := by
  simp only [delay, Duration.nanos_shorter]
  omega

end Backoff

end CallRouting
