import CallRouting.Registry
import CallRouting.Retry.Policy

/-!
# Policies by name

Callers declare their policies at every call. The first policy declared under a
name is kept, and later declarations of that name stand for it. Only so many
names are kept; when there is no room, a new name stands for the default policy.
-/

namespace CallRouting

/-- The policies that were declared, by their names, up to a number of them. -/
structure PolicyCache where
  standard : RetryPolicy
  capacity : Nat
  kept : Registry String RetryPolicy
  size_le_capacity : kept.size ≤ capacity

namespace PolicyCache

/-- Which of the shared policies a declaration stands for. -/
inductive Resolved
  | standard
  | kept (name : String)
  deriving DecidableEq

/-- No policy was declared yet. -/
def empty (standard : RetryPolicy) (capacity : Nat) : PolicyCache :=
  { standard, capacity, kept := ∅, size_le_capacity := Nat.zero_le capacity }

/-- The shared policy itself. -/
def policy (cache : PolicyCache) : Resolved → RetryPolicy
  | .standard => cache.standard
  | .kept name => (cache.kept.find? name).getD cache.standard

/-- Keep a policy under its name. -/
def keep (cache : PolicyCache) (declared : RetryPolicy) (room : cache.kept.size < cache.capacity) :
    PolicyCache :=
  { cache with
    kept := cache.kept.put declared.name declared
    size_le_capacity := by
      rw [Registry.size_put]
      split <;> omega }

/-- What a call's declaration stands for. A call without one gets the default. -/
def resolve (cache : PolicyCache) : Option RetryPolicy → PolicyCache × Resolved
  | none => (cache, .standard)
  | some declared =>
    if cache.kept.contains declared.name then (cache, .kept declared.name)
    else if room : cache.kept.size < cache.capacity then
      (cache.keep declared room, .kept declared.name)
    else (cache, .standard)

/-- How many names are kept. -/
def size (cache : PolicyCache) : Nat := cache.kept.size

end PolicyCache

end CallRouting
