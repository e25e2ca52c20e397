import CallRouting.Routing.Selection

/-!
# Invocations

An invocation runs the work of a caller against one instance after another until
an attempt is good enough or no further one is allowed:

1. select an instance: by the configured strategy for the first attempt, by turns
   and away from what has failed for the others; without one the invocation ends;
2. open the statistics of the attempt and let the work run;
3. close the statistics on the handle with which they were opened. A reply that the
   policy accepts ends the invocation, and so does any reply at the last attempt;
   a failure ends it if the policy does not retry it, or at the last attempt;
4. wait as long as the policy wants, and select again.
-/

namespace CallRouting

/-- An attempt that is running. -/
structure Attempt where
  target : Instance
  handle : Handle
  startedAt : Instant

/-- How far an invocation has come. -/
inductive InvocationPhase
  | selecting (selection : Selection)
  | working (attempt : Attempt)
  | resting (due : Instant)
  | done (result : Except RoutingError Reply)

/-- A call of a service with all its attempts. -/
structure Invocation where
  service : String
  policy : RetryPolicy
  /-- How many attempts have ended. -/
  ended : Nat
  /-- The identities on which attempts have failed, in order. -/
  failed : List Identity
  phase : InvocationPhase

/-- What comes after an attempt. -/
inductive Verdict
  | finish (result : Except RoutingError Reply)
  | again
  deriving Inhabited

/-- What comes after the `n`-th attempt. -/
def RetryPolicy.judge (policy : RetryPolicy) (service : String) (n : Nat) (x : Instance) :
    Except Failure Reply → Verdict
  | .ok reply =>
    if policy.retriesReply reply && n < policy.maxAttempts then .again else .finish (.ok reply)
  | .error failure =>
    if !policy.retriesError failure then .finish (.error (.notRetryable service n failure))
    else if n < policy.maxAttempts then .again
    else .finish (.error (.exhausted service n x.identity.text failure))

/-- Whether an attempt counts as a success. -/
def RetryPolicy.accepts (policy : RetryPolicy) : Except Failure Reply → Bool
  | .ok reply => !policy.retriesReply reply
  | .error _ => false

/-- Whole milliseconds between two points of time, at most the greatest 64-bit
count. -/
def elapsedMillis (start now : Instant) : UInt64 :=
  UInt64.ofNat (min ((now - start) / 1000000) 18446744073709551615)

namespace Invocation

variable {ω : Type} [Weight ω]

/-- An invocation that begins with its first selection. -/
def start (service : String) (policy : RetryPolicy) : Invocation :=
  ⟨service, policy, 0, [], .selecting (.first service)⟩

/-- What an invocation waits for; nothing when it is done. -/
def await? (invocation : Invocation) : Option Await :=
  match invocation.phase with
  | .selecting selection => selection.await?
  | .working _ => some .work
  | .resting due => some (.time due)
  | .done _ => none

/-- What an invocation has come to, if it is done. -/
def result? (invocation : Invocation) : Option (Except RoutingError Reply) :=
  match invocation.phase with
  | .done result => some result
  | _ => none

/-- Start the work, if an instance was chosen. -/
def engage (invocation : Invocation) (router : Router ω) (moment : Moment ω)
    (selection : Selection) : Router ω × Invocation :=
  match selection.phase with
  | .chosen none =>
    (router, { invocation with phase := .done (.error (.noInstance invocation.service)) })
  | .chosen (some x) =>
    let (ledger, handle) := router.balance.ledger.beforeCall moment.now x
    ({ router with balance := { router.balance with ledger } },
      { invocation with phase := .working ⟨x, handle, moment.now⟩ })
  | _ => (router, { invocation with phase := .selecting selection })

/-- Begin a further selection. -/
def reselect (invocation : Invocation) (router : Router ω) (moment : Moment ω) :
    Router ω × Invocation :=
  let (router, selection) :=
    (Selection.retry invocation.service invocation.failed).resume router moment .turn
  invocation.engage router moment selection

/-- Close the statistics of an attempt. -/
def account (router : Router ω) (policy : RetryPolicy) (attempt : Attempt) (now : Instant)
    (outcome : Except Failure Reply) : Router ω :=
  let ms := elapsedMillis attempt.startedAt now
  let ledger := router.balance.ledger
  let ledger :=
    if policy.accepts outcome then ledger.afterSuccess attempt.handle ms
    else ledger.afterFailure attempt.handle ms
  { router with balance := { router.balance with ledger } }

/-- Go on after an attempt has ended. -/
def conclude (invocation : Invocation) (router : Router ω) (moment : Moment ω) (attempt : Attempt)
    (outcome : Except Failure Reply) : Router ω × Invocation :=
  let router := account router invocation.policy attempt moment.now outcome
  let n := invocation.ended + 1
  match invocation.policy.judge invocation.service n attempt.target outcome with
  | .finish result => (router, { invocation with ended := n, phase := .done result })
  | .again =>
    let invocation :=
      { invocation with ended := n, failed := invocation.failed ++ [attempt.target.identity] }
    let wait := invocation.policy.delay n
    if wait.isZero then invocation.reselect router moment
    else (router, { invocation with phase := .resting (moment.now + wait.nanos) })

/-- Go on at an answer. -/
def resume (invocation : Invocation) (router : Router ω) (moment : Moment ω) (answer : Answer) :
    Router ω × Invocation :=
  match invocation.phase, answer with
  | .selecting selection, answer =>
    let (router, selection) := selection.resume router moment answer
    invocation.engage router moment selection
  | .working attempt, .work outcome => invocation.conclude router moment attempt outcome
  | .resting _, .time => invocation.reselect router moment
  | _, _ => (router, invocation)

/-- Go away before the end. The statistics of a running attempt stay open. -/
def abandon (invocation : Invocation) (cache : Cache) (ticket : Ticket) : Cache :=
  match invocation.phase with
  | .selecting selection => selection.abandon cache ticket
  | .working _ | .resting _ | .done _ => cache

end Invocation

end CallRouting
