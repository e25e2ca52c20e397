import CallRouting.Duration

/-!
# Call statistics of one instance

A tally counts the calls to one instance: how many are running, how many were
started, how many failed, and how many milliseconds they took in all. Calls of
many callers end in any order, so the count of running calls stops at zero; the
other counters are 64-bit words and wrap around.

Average latencies are the numbers that weights are made of. They are computed in
any type of numbers that has the operations of `Weight`; at run time these are
floating-point numbers.
-/

namespace CallRouting

/-- The numbers in which averages and weights are computed. -/
class Weight (ω : Type) extends Zero ω, Add ω, Sub ω, LE ω, LT ω where
  /-- The quotient of two counters. -/
  quotient : UInt64 → UInt64 → ω
  decideLE : (a b : ω) → Decidable (a ≤ b)
  decideLT : (a b : ω) → Decidable (a < b)

instance Weight.decidableLE {ω : Type} [Weight ω] (a b : ω) : Decidable (a ≤ b) :=
  Weight.decideLE a b

instance Weight.decidableLT {ω : Type} [Weight ω] (a b : ω) : Decidable (a < b) :=
  Weight.decideLT a b

instance : Weight Float where
  zero := 0.0
  quotient a b := a.toFloat / b.toFloat
  decideLE _ _ := inferInstance
  decideLT _ _ := inferInstance

/-- What is counted about the calls to one instance. -/
structure Tally where
  active : UInt64
  total : UInt64
  failed : UInt64
  /-- The sum of all latencies in milliseconds. -/
  latency : UInt64
  createdAt : Instant
  deriving DecidableEq

namespace Tally

/-- A tally that has counted nothing yet. -/
def fresh (now : Instant) : Tally := ⟨0, 0, 0, 0, now⟩

/-- A tally is expired from the moment on at which it has reached its lifetime. -/
def isExpired (tally : Tally) (lifetime : Duration) (now : Instant) : Bool :=
  lifetime.nanos ≤ now - tally.createdAt

/-- A call starts. -/
def started (tally : Tally) : Tally :=
  { tally with active := tally.active + 1, total := tally.total + 1 }

/-- A call ends after so many milliseconds. -/
def ended (tally : Tally) (ms : UInt64) : Tally :=
  { tally with
    active := if tally.active = 0 then 0 else tally.active - 1
    latency := tally.latency + ms }

/-- The count of running calls goes down by one and stops at zero. -/
theorem active_ended (tally : Tally) (ms : UInt64) :
    (tally.ended ms).active.toNat = tally.active.toNat - 1 := by
  unfold ended
  by_cases idle : tally.active = 0
  · simp [idle]
  · have busy : 1 ≤ tally.active.toNat := by
      have differs : tally.active.toNat ≠ 0 := fun zero => idle (UInt64.toNat_inj.mp zero)
      omega
    have step : (1 : UInt64) ≤ tally.active := UInt64.le_iff_toNat_le.mpr busy
    simp [idle, UInt64.toNat_sub_of_le _ _ step]

/-- A call succeeds after so many milliseconds. -/
def succeeded (tally : Tally) (ms : UInt64) : Tally := tally.ended ms

/-- A call fails after so many milliseconds. -/
def failedAfter (tally : Tally) (ms : UInt64) : Tally :=
  let tally := tally.ended ms
  { tally with failed := tally.failed + 1 }

/-- The average latency in milliseconds, and zero before the first call. -/
def average {ω : Type} [Weight ω] (tally : Tally) : ω :=
  if tally.total = 0 then 0 else Weight.quotient tally.latency tally.total

end Tally

end CallRouting
