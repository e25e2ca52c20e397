import CallRouting.Proofs.Tables

/-!
# Calls that are left

A call is closed by its invocation, when that goes on after the work. Whoever leaves the
invocation in between, or takes it down with work that breaks off, drops the handle of the
tally and closes nothing. So a tally counts as running, beside the calls that are, each call
that was ever left on it: the count comes back to zero only if nobody has gone away.

A strategy that looks for the instance with the fewest running calls keeps away from an
instance with such calls for as long as the tally lasts.
-/

namespace CallRouting

namespace World

variable {ω : Type} [Weight ω]

/-- What was left in a part of a run was left in the run. -/
theorem callsLeft_le (world : World ω) (earlier later : List (Event ω)) (handle : Handle) :
    (callsLeft (world.observed entries earlier)).countP (·.on handle) ≤
      (callsLeft (world.observed entries (earlier ++ later))).countP (·.on handle) := by
  rw [observed_append, callsLeft_append, List.countP_append]
  exact Nat.le_add_right _ _

/-- In each run of a client that begins with empty statistics, callers may go away at any
wait. As long as each tally has fewer than 2^64 calls that have begun and not ended, its
count of running calls is that of the calls which are running and of those which were left
while they ran. So it is exact just if no call on the tally was left; what was left is
counted for good, whatever happens later; and when no task waits any more, nothing else is.

Each call that has begun has ended, is running, or was left, and the count follows what has
begun and not ended. -/
theorem active_counts_left (client : Client ω) (now : Instant) (lifetime : Duration)
    (fresh : client.router.balance.ledger = .empty lifetime) (events : List (Event ω))
    (few : ∀ handle earlier later,
      (around client now).observed entries events = earlier ++ later →
        (callsBegun earlier).countP (·.on handle) <
          (callsEnded earlier).countP (·.call.on handle) + 2 ^ 64) :
    let left := callsLeft ((around client now).observed entries events)
    let world := (around client now).run events
    ∀ handle,
      (world.ledger.tally handle).active.toNat =
          world.running.countP (·.on handle) + left.countP (·.on handle) ∧
        ((world.ledger.tally handle).active.toNat = world.running.countP (·.on handle) ↔
          ∀ call ∈ left, call.attempt.handle ≠ handle) ∧
        (∀ earlier later, events = earlier ++ later →
          (callsLeft ((around client now).observed entries earlier)).countP (·.on handle) ≤
            (world.ledger.tally handle).active.toNat) ∧
        ((∀ entry ∈ world.tasks, entry.2.await? = none) →
          (world.ledger.tally handle).active.toNat = left.countP (·.on handle)) := by
  intro left world handle
  have accounted : Accounted ((around client now).observed entries events) world :=
    run_accounted client now lifetime fresh events
  have counts : (world.ledger.tally handle).active.toNat =
      world.running.countP (·.on handle) + left.countP (·.on handle) := by
    have active := Tally.active_foldl handle 0 _ (accounted.ordered handle) (few handle)
    have balanced : _ = _ + left.countP (·.on handle) := accounted.balanced_on handle
    rw [← accounted.counts handle] at active
    simp only [Tally.undated] at active
    omega
  refine ⟨counts, ?_, ?_, ?_⟩
  · rw [counts, Nat.add_eq_left, List.countP_eq_zero]
    simp only [Call.on, decide_eq_true_eq, ne_eq]
  · rintro earlier later rfl
    rw [counts]
    exact Nat.le_trans (callsLeft_le _ earlier later handle) (Nat.le_add_left _ _)
  · intro finished
    rw [counts, running_eq_nil world finished, List.countP_nil, Nat.zero_add]

/-- A client that looks for the fewest running calls. -/
def leastBusy : Client Int where
  settings := { balancer := "BestAvailable" }
  router := { byWeight.router with configured := "BestAvailable" }
  jobs := []
  stopped := []
  nextTicket := 0

/-- A call to the first of two instances is left while it runs. -/
def leftCall : List (Event Int) :=
  [.request (.invoke "orders" (.named "once")), .answer 0 frontDraw .turn,
    .answer 0 frontDraw .lock, .answer 0 frontDraw (.listing (.ok firstThenSecond)),
    .pass 10000000, .leave 0]

/-- A call to the second instance follows, and ends. -/
def leftThenAnswered : List (Event Int) :=
  leftCall ++ [.request (.invoke "orders" (.named "once")), .answer 0 frontDraw .turn,
    .answer 0 frontDraw (.work (.ok (.integer 7)))]

/-- The tally of the first instance counts the call that was left, that of the second one
counts none. -/
theorem active_counts_left_thenAnswered :
    leastBusy.router.balance.ledger = .empty (.ofSeconds 3600) ∧
      (∀ entry ∈ ((around leastBusy 0).run leftThenAnswered).tasks, entry.2.await? = none) ∧
      (((around leastBusy 0).run leftThenAnswered).ledger.tally 0).active.toNat = 1 ∧
      (((around leastBusy 0).run leftThenAnswered).ledger.tally 1).active.toNat = 0 := by
  have finished :
      ∀ entry ∈ ((around leastBusy 0).run leftThenAnswered).tasks, entry.2.await? = none := by
    intro entry member
    obtain rfl := List.mem_singleton.mp member
    rfl
  have length : ((around leastBusy 0).observed entries leftThenAnswered).length = 4 := by rfl
  have counted := active_counts_left leastBusy 0 (.ofSeconds 3600) rfl leftThenAnswered (by
    intro handle earlier later split
    have few : (callsBegun earlier).countP (·.on handle) ≤ earlier.length :=
      Nat.le_trans List.countP_le_length (List.length_filterMap_le _ _)
    rw [split, List.length_append] at length
    omega)
  obtain ⟨_, _, _, onFirst⟩ := counted 0
  obtain ⟨_, _, _, onSecond⟩ := counted 1
  exact ⟨rfl, finished, onFirst finished, onSecond finished⟩

/-- A tally can count a running call when no call runs: the first instance is idle after
its caller has gone away, and the next call goes to the second one all the same. -/
theorem exists_left_open :
    Client.create { balancer := "BestAvailable" } = .ok leastBusy ∧
      ((around leastBusy 0).run leftCall).tasks.length = 0 ∧
      ((around leastBusy 0).run leftCall).running.countP (·.on 0) = 0 ∧
      (((around leastBusy 0).run leftCall).ledger.tally 0).active ≠ 0 ∧
      ((around leastBusy 0).run (leftCall ++ [.request (.invoke "orders" (.named "once")),
        .answer 0 frontDraw .turn])).tasks.map (·.2.bound?) =
          [some (.ofAddress "orders" "10.0.0.2" 80)] := by
  refine ⟨rfl, rfl, rfl, ?_, rfl⟩
  decide

end World

end CallRouting
