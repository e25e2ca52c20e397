import CallRouting.Retry.Backoff
import Mathlib.Algebra.Group.Nat.Defs

/-!
# Waits that double

An exponential backoff is to double its wait with every failed attempt until it reaches its
ceiling. But the doubling has an end of its own, after ten times. So the first eleven waits
are those of an endless doubling, and every later wait is as long as the eleventh. A ceiling
above 1024 times the base is never reached.

Products stop at the longest duration. That never shows, for a wait stops at its ceiling
first, which is a duration itself.
-/

namespace CallRouting

namespace Backoff

/-- The wait after so many failed attempts if only the ceiling ends the doubling. -/
def endless (base ceiling : Duration) (failures : Nat) : Duration :=
  (base.scale (2 ^ (failures - 1))).shorter ceiling

/-- A multiple that is cut at the ceiling is exact up to there. -/
theorem nanos_scale_shorter (base ceiling : Duration) (factor : Nat) :
    ((base.scale factor).shorter ceiling).nanos = min (base.nanos * factor) ceiling.nanos := by
  have bounded : ceiling.nanos ≤ longestNanos := ceiling.bounded
  rw [Duration.nanos_shorter, Duration.nanos_scale]
  omega

/-- An endless doubling, in nanoseconds: it is cut at the ceiling and nowhere else. -/
theorem nanos_endless (base ceiling : Duration) (failures : Nat) :
    (endless base ceiling failures).nanos =
      min (base.nanos * 2 ^ (failures - 1)) ceiling.nanos :=
  nanos_scale_shorter base ceiling _

/-- The wait after so many failures, in nanoseconds: the doubling ends after ten times, and the
product is cut at the ceiling. -/
theorem nanos_delay (base ceiling : Duration) (failures : Nat) :
    ((exponential base ceiling).delay failures).nanos =
      min (base.nanos * 2 ^ min (failures - 1) mostDoublings) ceiling.nanos :=
  nanos_scale_shorter base ceiling _

/-- One more failure doubles the wait up to the ceiling, ten times; after that the wait stays
as it is. -/
theorem nanos_delay_succ (base ceiling : Duration) (failures : Nat) :
    ((exponential base ceiling).delay (failures + 2)).nanos =
      if failures < mostDoublings then
        min (2 * ((exponential base ceiling).delay (failures + 1)).nanos) ceiling.nanos
      else ((exponential base ceiling).delay (failures + 1)).nanos := by
  rw [nanos_delay, nanos_delay]
  split
  · rename_i early
    have before : min (failures + 1 - 1) mostDoublings = failures := by omega
    have after : min (failures + 2 - 1) mostDoublings = failures + 1 := by omega
    rw [before, after, Nat.pow_succ, ← Nat.mul_assoc]
    omega
  · rename_i late
    have before : min (failures + 1 - 1) mostDoublings = mostDoublings := by omega
    have after : min (failures + 2 - 1) mostDoublings = mostDoublings := by omega
    rw [before, after]

/-- No wait is longer than the base doubled ten times. -/
theorem nanos_delay_le (base ceiling : Duration) (failures : Nat) :
    ((exponential base ceiling).delay failures).nanos ≤ base.nanos * 2 ^ mostDoublings := by
  have factor : 2 ^ min (failures - 1) mostDoublings ≤ 2 ^ mostDoublings :=
    Nat.pow_le_pow_right (by decide) (Nat.min_le_right _ _)
  rw [nanos_delay]
  exact Nat.le_trans (Nat.min_le_left _ _) (Nat.mul_le_mul_left base.nanos factor)

/-- A wait falls short of an endless doubling exactly if it is beyond the eleventh, there is
something to double, and the ceiling has not been reached by then.

If none of these stands in the way, one more doubling would make the endless wait longer, and the
actual one is no longer than after ten of them. -/
theorem delay_eq_endless_iff (base ceiling : Duration) (failures : Nat) :
    (exponential base ceiling).delay failures = endless base ceiling failures ↔
      failures ≤ mostDoublings + 1 ∨ base.nanos = 0 ∨
        ceiling.nanos ≤ base.nanos * 2 ^ mostDoublings := by
  constructor
  · intro same
    refine Decidable.byContradiction fun none => ?_
    obtain ⟨many, doubles, high⟩ : mostDoublings + 1 < failures ∧ 0 < base.nanos ∧
        base.nanos * 2 ^ mostDoublings < ceiling.nanos := by omega
    have factor : 2 ^ mostDoublings < 2 ^ (failures - 1) :=
      Nat.pow_lt_pow_right (by decide) (by omega)
    have further : base.nanos * 2 ^ mostDoublings < base.nanos * 2 ^ (failures - 1) :=
      Nat.mul_lt_mul_of_pos_left factor doubles
    have short := nanos_delay_le base ceiling failures
    rw [same, nanos_endless] at short
    omega
  · intro reached
    apply Duration.ext_nanos
    rw [nanos_delay, nanos_endless]
    rcases reached with few | idle | low
    · rw [Nat.min_eq_left (by omega : failures - 1 ≤ mostDoublings)]
    · rw [idle, Nat.zero_mul, Nat.zero_mul]
    · -- Once the exponents differ, the ceiling cuts both products.
      by_cases few : failures - 1 ≤ mostDoublings
      · rw [Nat.min_eq_left few]
      · have factor : 2 ^ mostDoublings ≤ 2 ^ (failures - 1) :=
          Nat.pow_le_pow_right (by decide) (by omega)
        have further := Nat.mul_le_mul_left base.nanos factor
        rw [Nat.min_eq_right (by omega : mostDoublings ≤ failures - 1)]
        omega

/-- The waits come up to the ceiling just if the eleventh does. -/
theorem exists_delay_eq_ceiling_iff (base ceiling : Duration) :
    (∃ failures, (exponential base ceiling).delay failures = ceiling) ↔
      ceiling.nanos ≤ base.nanos * 2 ^ mostDoublings := by
  constructor
  · rintro ⟨failures, reached⟩
    have short := nanos_delay_le base ceiling failures
    rwa [reached] at short
  · intro low
    refine ⟨mostDoublings + 1, Duration.ext_nanos ?_⟩
    rw [nanos_delay, Nat.add_sub_cancel, Nat.min_self]
    exact Nat.min_eq_right low

/-- The waits of an exponential backoff, for every base, every ceiling and any number of
failed attempts. Each wait is the product that is cut at the ceiling, with at most ten
doublings. With one more failure it doubles up to the ceiling, or stays as it is from the
eleventh on. It is the wait of an endless doubling just if it is among the first eleven, or
there is nothing to double, or the eleventh is as long as the ceiling; and only in the last
case do the waits ever come up to the ceiling.

Everything follows from the first equation: products stop at the longest duration, but a
ceiling is a duration, so that never shows. -/
theorem doubling_exact (base ceiling : Duration) :
    let wait := (exponential base ceiling).delay
    (∀ failures, (wait failures).nanos =
        min (base.nanos * 2 ^ min (failures - 1) 10) ceiling.nanos) ∧
      (∀ failures, (wait (failures + 2)).nanos =
        if failures < 10 then min (2 * (wait (failures + 1)).nanos) ceiling.nanos
        else (wait (failures + 1)).nanos) ∧
      (∀ failures, wait failures = endless base ceiling failures ↔
        failures ≤ 11 ∨ base.nanos = 0 ∨ ceiling.nanos ≤ base.nanos * 1024) ∧
      ((∃ failures, wait failures = ceiling) ↔ ceiling.nanos ≤ base.nanos * 1024) := by
  intro wait
  exact ⟨nanos_delay base ceiling, nanos_delay_succ base ceiling,
    delay_eq_endless_iff base ceiling, exists_delay_eq_ceiling_iff base ceiling⟩

/-- With a base of one millisecond and a ceiling of one hour the twelfth wait is as long as
the eleventh, and half as long as it should be. -/
theorem exists_undoubled :
    (exponential (.ofMillis 1) (.ofMillis 3600000)).delay 11 = .ofMillis 1024 ∧
      (exponential (.ofMillis 1) (.ofMillis 3600000)).delay 12 = .ofMillis 1024 ∧
      endless (.ofMillis 1) (.ofMillis 3600000) 12 = .ofMillis 2048 ∧
      (exponential (.ofMillis 1) (.ofMillis 3600000)).delay 12 ≠
        endless (.ofMillis 1) (.ofMillis 3600000) 12 := by
  decide

end Backoff

end CallRouting
