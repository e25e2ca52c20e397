import CallRouting.Registry

/-!
# Taking turns

A rotation counts the turns taken for every service and goes through the places
of a list one after the other. The counters are 64-bit words and wrap around.
-/

namespace CallRouting

/-- How many turns each service has had. -/
structure Rotation where
  turns : Registry String UInt64

namespace Rotation

/-- No service has had a turn yet. -/
def empty : Rotation := ⟨∅⟩

/-- How many turns were taken for a service. -/
def count (rotation : Rotation) (service : String) : UInt64 :=
  (rotation.turns.find? service).getD 0

/-- Take a turn: the place in a list of some length, if it has one. The turn counts
in any case. -/
def next (rotation : Rotation) (service : String) (length : Nat) : Rotation × Option Nat :=
  let turn := rotation.count service
  (⟨rotation.turns.put service (turn + 1)⟩,
    if length = 0 then none else some (turn.toNat % length))

/-- A turn is counted for its own service. -/
theorem count_next (rotation : Rotation) (service other : String) (length : Nat) :
    (rotation.next service length).1.count other =
      if service = other then rotation.count other + 1 else rotation.count other := by
  unfold next count
  rw [Registry.find?_put]
  by_cases same : service = other
  · subst same
    simp
  · simp [same]

end Rotation

end CallRouting
