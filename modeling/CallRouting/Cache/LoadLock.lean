/-!
# The load lock

Tasks that want to load the same list stand in one line. The first in line holds
the lock, and hands it to the next one when it is done; a task that goes away
leaves the line wherever it stands. The holder is thus no separate fact that could
disagree with the line.

Asking for the lock never takes it from its holder, and a free lock is held by the
first task that asks.
-/

namespace CallRouting

/-- Names a task in the line for a load lock. -/
abbrev Ticket := Nat

/-- A lock that is handed over in the order of the requests. -/
structure LoadLock where
  /-- Those who have asked for the lock and are not done, the holder first. -/
  line : List Ticket
  deriving DecidableEq

namespace LoadLock

/-- A lock for which nobody waits. -/
def free : LoadLock := ⟨[]⟩

/-- Whoever holds the lock: the first one in line. -/
def holder? (lock : LoadLock) : Option Ticket := lock.line.head?

/-- Stand in line. -/
def request (lock : LoadLock) (ticket : Ticket) : LoadLock := ⟨lock.line ++ [ticket]⟩

/-- The holder is done. -/
def release (lock : LoadLock) : LoadLock := ⟨lock.line.tail⟩

/-- Give up the lock or the place in line. -/
def withdraw (lock : LoadLock) (ticket : Ticket) : LoadLock := ⟨lock.line.filter (· ≠ ticket)⟩

/-- Whoever stands in line leaves the lock to its holder, and gets it if it is free. -/
theorem holder?_request (lock : LoadLock) (ticket : Ticket) :
    (lock.request ticket).holder? = some (lock.holder?.getD ticket) := by
  obtain ⟨line⟩ := lock
  cases line <;> rfl

/-- Nobody is lost when the lock is handed over: the holder alone leaves the line. -/
theorem line_release (lock : LoadLock) (ticket : Ticket) (held : lock.holder? = some ticket) :
    lock.line = ticket :: lock.release.line := by
  obtain ⟨line⟩ := lock
  cases line with
  | nil => simp [holder?] at held
  | cons first rest =>
    have same : first = ticket := Option.some.inj held
    exact same ▸ rfl

/-- A task that never asked for the lock leaves nothing behind. -/
theorem withdraw_of_notMem (lock : LoadLock) (ticket : Ticket) (absent : ticket ∉ lock.line) :
    lock.withdraw ticket = lock := by
  have kept : lock.line.filter (· ≠ ticket) = lock.line := by
    refine List.filter_eq_self.mpr fun waiting member => ?_
    exact decide_eq_true fun same => absent (same ▸ member)
  exact congrArg LoadLock.mk kept

end LoadLock

end CallRouting
