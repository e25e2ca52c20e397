import CallRouting.Retry.Backoff
import CallRouting.Duration.Text
import CallRouting.Failure
import CallRouting.Text.Quoted

/-!
# Retry policies

A policy decides what happens after an attempt: which failures and which replies
call for another attempt, how many attempts there may be in all, and how long to
wait between two of them. Failures are judged by one test and replies by another;
neither can stretch the number of attempts, which is at least one.
-/

namespace CallRouting

/-- What a caller's work gives back when it does not fail. -/
inductive Reply
  | integer (value : Int)
  | text (value : String)
  deriving DecidableEq

/-- Which failures and which replies are worth another attempt, how many attempts there are, and
how long to wait in between. One attempt is always allowed. -/
structure RetryPolicy where
  name : String
  maxAttempts : Nat
  backoff : Backoff
  retriesError : Failure → Bool
  retriesReply : Reply → Bool
  maxAttempts_pos : 0 < maxAttempts

namespace RetryPolicy

/-- Three attempts a second apart; transport failures are tried again, and every
reply is accepted. -/
def named (name : String) : RetryPolicy :=
  { name, maxAttempts := 3, backoff := .standard, retriesError := Failure.isTransport,
    retriesReply := fun _ => false, maxAttempts_pos := by decide }

/-- So many attempts, and at least one. -/
def withMaxAttempts (policy : RetryPolicy) (attempts : Nat) : RetryPolicy :=
  { policy with maxAttempts := max attempts 1, maxAttempts_pos := by omega }

/-- The policy with other waits. -/
def withBackoff (policy : RetryPolicy) (backoff : Backoff) : RetryPolicy :=
  { policy with backoff }

/-- The policy with a fixed wait. -/
def withWait (policy : RetryPolicy) (wait : Duration) : RetryPolicy :=
  policy.withBackoff (.fixed wait)

/-- The policy with another test of failures. -/
def retryingOn (policy : RetryPolicy) (test : Failure → Bool) : RetryPolicy :=
  { policy with retriesError := test }

/-- Failures of a type, or with one of that type below them, are tried again. -/
def retryingOnType (policy : RetryPolicy) (ofType : Failure → Bool) : RetryPolicy :=
  policy.retryingOn (·.hasType ofType)

/-- Failures of a kind, or with one of that kind below them, are tried again. -/
def retryingOnKind (policy : RetryPolicy) (kind : Failure.Kind) : RetryPolicy :=
  policy.retryingOnType (·.kind == kind)

/-- Whole numbers that pass a test are not accepted; other replies are. -/
def retryingOnInteger (policy : RetryPolicy) (test : Int → Bool) : RetryPolicy :=
  { policy with
    retriesReply := fun
      | .integer value => test value
      | .text _ => false }

/-- Texts that pass a test are not accepted; other replies are. -/
def retryingOnText (policy : RetryPolicy) (test : String → Bool) : RetryPolicy :=
  { policy with
    retriesReply := fun
      | .text value => test value
      | .integer _ => false }

/-- The wait after so many failed attempts. -/
def delay (policy : RetryPolicy) (failures : Nat) : Duration := policy.backoff.delay failures

end RetryPolicy

/-- The waits in words. -/
def Backoff.text : Backoff → String
  | .fixed wait => "Fixed(" ++ wait.text ++ ")"
  | .exponential base ceiling =>
    "Exponential \x7b base: " ++ base.text ++ ", max: " ++ ceiling.text ++ " \x7d"

/-- The policy on one line. The tests have no text. -/
def RetryPolicy.text (policy : RetryPolicy) : String :=
  "RetryPolicy \x7b name: " ++ Text.quoted policy.name ++ ", max_attempts: " ++
    toString policy.maxAttempts ++ ", backoff: " ++ policy.backoff.text ++ ", .. \x7d"

end CallRouting
