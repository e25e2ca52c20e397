import CallRouting.Cache
import CallRouting.Retry.Policy
import CallRouting.Balancer.Strategy

/-!
# Waiting tasks

A task runs until it has to wait for something, and goes on when that has come. The
things it can wait for are listed here, each with the answer that ends the wait.
Everything a task learns about the world outside comes in such an answer or in the
moment at which it goes on; so what a task does is a function, and any order of
answers to any number of tasks is a possible run.
-/

namespace CallRouting

/-- What a task waits for. -/
inductive Await
  /-- Only its turn to run. -/
  | turn
  /-- The load lock of a service. -/
  | lock (service : String)
  /-- The directory's list for a service. -/
  | listing (service : String)
  /-- The directory's answer to a call. -/
  | call (call : DirectoryCall)
  /-- The end of the caller's work. -/
  | work
  /-- A point of time. -/
  | time (due : Instant)

/-- What ends a wait. -/
inductive Answer
  | turn
  | lock
  | listing (answer : Except DirectoryFault (List Instance))
  | call (answer : Except DirectoryFault Unit)
  | work (outcome : Except Failure Reply)
  | time

/-- Whether an answer is of the kind that is waited for. -/
def Answer.fits : Answer → Await → Bool
  | .turn, .turn | .lock, .lock _ | .listing _, .listing _ | .call _, .call _ | .work _, .work
  | .time, .time _ => true
  | _, _ => false

/-- When a task goes on, which task it is, and the randomness at hand. -/
structure Moment (ω : Type) where
  now : Instant
  ticket : Ticket
  draw : Draw ω

end CallRouting
