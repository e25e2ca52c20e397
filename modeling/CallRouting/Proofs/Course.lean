import CallRouting.Proofs.Waits
import CallRouting.Routing.Invocation

/-!
# The course of an invocation

An invocation goes on at one answer after the other. Between two of them anything may
happen to the router: other calls, reloads, new filters. So a run is a list of
encounters, each with a router of its own, about which nothing is assumed.

An observer notes when a selection begins, what it chose from and with what result,
and how each attempt ended. `Step` lists everything that an invocation can do at an
answer for which it waits, together with what is noted; all further statements about
runs rest on it alone.
-/

namespace CallRouting

/-- What an observer notes about an invocation. -/
inductive Note
  /-- A selection begins now, and when it was due. -/
  | selecting (due now : Instant)
  /-- An attempt of this number begins. Its target was chosen from the candidates. -/
  | engaged (candidates : List Instance) (number : Nat) (attempt : Attempt)
  /-- Nothing was chosen from the candidates. -/
  | refused (candidates : List Instance)
  /-- The work of an attempt ends now. -/
  | ended (attempt : Attempt) (outcome : Except Failure Reply) (now : Instant)

/-- A selection that has not begun begins at its turn. -/
def Selection.opening (selection : Selection) (now : Instant) : List Note :=
  match selection.phase with
  | .asked => [.selecting now now]
  | .looking .. | .chosen _ => []

/-- What calls for a further attempt: a failure that is retried, or a reply that is not
accepted. -/
def RetryPolicy.Retries (policy : RetryPolicy) : Except Failure Reply → Prop
  | .ok reply => policy.retriesReply reply = true
  | .error failure => policy.retriesError failure = true

/-- A further attempt follows exactly if the outcome calls for it and one is left. -/
theorem RetryPolicy.judge_again_iff (policy : RetryPolicy) (service : String) (n : Nat)
    (x : Instance) (outcome : Except Failure Reply) :
    policy.judge service n x outcome = .again ↔
      policy.Retries outcome ∧ n < policy.maxAttempts := by
  cases outcome with
  | ok reply =>
    cases rejected : policy.retriesReply reply <;>
      by_cases left : n < policy.maxAttempts <;> simp [judge, Retries, rejected, left]
  | error failure =>
    cases retried : policy.retriesError failure <;>
      by_cases left : n < policy.maxAttempts <;> simp [judge, Retries, retried, left]

namespace Invocation

variable {ω : Type} [Weight ω]

/-- The selection of an invocation goes on. -/
def advance (invocation : Invocation) (router : Router ω) (moment : Moment ω)
    (selection : Selection) (answer : Answer) : Router ω × Invocation :=
  invocation.engage (selection.resume router moment answer).1 moment
    (selection.resume router moment answer).2

/-- An invocation that has an attempt after a choice has begun it. -/
def conclusion (after : Invocation) (candidates : List Instance) : Note :=
  match after.phase with
  | .working attempt => .engaged candidates (after.ended + 1) attempt
  | _ => .refused candidates

/-- What is noted when the selection of an invocation goes on. -/
def advanceNotes (invocation : Invocation) (router : Router ω) (moment : Moment ω)
    (selection : Selection) (answer : Answer) : List Note :=
  (selection.offered? router moment answer).toList.map
    (invocation.advance router moment selection answer).2.conclusion

/-- The selection for a further attempt. -/
def retrySelection (invocation : Invocation) : Selection :=
  .retry invocation.service invocation.failed

/-- An invocation after an attempt that is to be followed by another one. -/
def afterFailure (invocation : Invocation) (attempt : Attempt) : Invocation :=
  { invocation with
    ended := invocation.ended + 1
    failed := invocation.failed ++ [attempt.target.identity] }

/-- What is noted after the end of an attempt. -/
def concludeNotes (invocation : Invocation) (router : Router ω) (moment : Moment ω)
    (attempt : Attempt) (outcome : Except Failure Reply) : List Note :=
  let n := invocation.ended + 1
  match invocation.policy.judge invocation.service n attempt.target outcome with
  | .finish _ => []
  | .again =>
    if (invocation.policy.delay n).isZero then
      let router := account router invocation.policy attempt moment.now outcome
      let next := invocation.afterFailure attempt
      .selecting moment.now moment.now :: next.advanceNotes router moment next.retrySelection .turn
    else []

/-- What is noted when an invocation goes on at an answer. -/
def notes (invocation : Invocation) (router : Router ω) (moment : Moment ω) (answer : Answer) :
    List Note :=
  match invocation.phase, answer with
  | .selecting selection, answer =>
    selection.opening moment.now ++ invocation.advanceNotes router moment selection answer
  | .working attempt, .work outcome =>
    .ended attempt outcome moment.now :: invocation.concludeNotes router moment attempt outcome
  | .resting due, .time =>
    .selecting due moment.now ::
      invocation.advanceNotes router moment invocation.retrySelection .turn
  | _, _ => []

/-- What can come of a selection that goes on for an invocation, and what is noted. -/
inductive Advanced (invocation : Invocation) (router : Router ω) (moment : Moment ω)
    (selection : Selection) : Router ω × Invocation → List Note → Prop
  | looking (cache : Cache) (lookup : Lookup) (waits : lookup.await?.isSome = true)
      (nearer : lookup.stepsLeft < selection.stepsLeft) :
      Advanced invocation router moment selection
        ({ router with cache },
          { invocation with
            phase := .selecting
              { selection with phase := .looking (selection.settled router) lookup } })
        []
  | refused (cache : Cache) (instances : List Instance) (balance : Balance ω)
      (choice : router.balance.choose (selection.settled router) moment.draw moment.now
        selection.service (avoiding (router.candidates instances) selection.failed) =
          (balance, none)) :
      Advanced invocation router moment selection
        ({ router with cache, balance },
          { invocation with phase := .done (.error (.noInstance invocation.service)) })
        [.refused (router.candidates instances)]
  | engaged (cache : Cache) (instances : List Instance) (balance : Balance ω) (x : Instance)
      (choice : router.balance.choose (selection.settled router) moment.draw moment.now
        selection.service (avoiding (router.candidates instances) selection.failed) =
          (balance, some x))
      (ledger : Ledger ω) (handle : Handle)
      (opened : balance.ledger.beforeCall moment.now x = (ledger, handle)) :
      Advanced invocation router moment selection
        ({ router with cache, balance := { balance with ledger } },
          { invocation with phase := .working ⟨x, handle, moment.now⟩ })
        [.engaged (router.candidates instances) (invocation.ended + 1) ⟨x, handle, moment.now⟩]

/-- A selection that waits goes on for its invocation in one of these ways. -/
theorem advance_advanced (invocation : Invocation) (router : Router ω) (moment : Moment ω)
    (selection : Selection) (answer : Answer) (await : Await)
    (waits : selection.await? = some await) (fits : answer.fits await = true) :
    invocation.Advanced router moment selection
      (invocation.advance router moment selection answer)
      (invocation.advanceNotes router moment selection answer) := by
  have progress := selection.resume_progress router moment answer await waits fits
  unfold advanceNotes advance
  generalize selection.resume router moment answer = after at progress
  generalize selection.offered? router moment answer = offered at progress
  cases progress with
  | looking cache lookup waits nearer => exact .looking cache lookup waits nearer
  | chosen cache instances balance picked choice =>
    cases picked with
    | none => exact .refused cache instances balance choice
    | some x => exact .engaged cache instances balance x choice _ _ rfl

/-- Everything that an invocation can do when it goes on at an answer, and what is
noted. -/
inductive Step (invocation : Invocation) (router : Router ω) (moment : Moment ω) :
    Answer → Router ω × Invocation → List Note → Prop
  | select (selection : Selection) (answer : Answer) (after : Router ω × Invocation)
      (noted : List Note) (phase : invocation.phase = .selecting selection)
      (advanced : invocation.Advanced router moment selection after noted) :
      Step invocation router moment answer after (selection.opening moment.now ++ noted)
  | finish (attempt : Attempt) (outcome : Except Failure Reply)
      (result : Except RoutingError Reply) (phase : invocation.phase = .working attempt)
      (verdict : invocation.policy.judge invocation.service (invocation.ended + 1) attempt.target
        outcome = .finish result) :
      Step invocation router moment (.work outcome)
        (account router invocation.policy attempt moment.now outcome,
          { invocation with ended := invocation.ended + 1, phase := .done result })
        [.ended attempt outcome moment.now]
  | rest (attempt : Attempt) (outcome : Except Failure Reply)
      (phase : invocation.phase = .working attempt)
      (verdict : invocation.policy.judge invocation.service (invocation.ended + 1) attempt.target
        outcome = .again)
      (positive : (invocation.policy.delay (invocation.ended + 1)).isZero = false) :
      Step invocation router moment (.work outcome)
        (account router invocation.policy attempt moment.now outcome,
          { invocation.afterFailure attempt with
            phase := .resting
              (moment.now + (invocation.policy.delay (invocation.ended + 1)).nanos) })
        [.ended attempt outcome moment.now]
  | again (attempt : Attempt) (outcome : Except Failure Reply) (after : Router ω × Invocation)
      (noted : List Note) (phase : invocation.phase = .working attempt)
      (verdict : invocation.policy.judge invocation.service (invocation.ended + 1) attempt.target
        outcome = .again)
      (zero : (invocation.policy.delay (invocation.ended + 1)).isZero = true)
      (advanced : (invocation.afterFailure attempt).Advanced
        (account router invocation.policy attempt moment.now outcome) moment
        (invocation.afterFailure attempt).retrySelection after noted) :
      Step invocation router moment (.work outcome) after
        (.ended attempt outcome moment.now :: .selecting moment.now moment.now :: noted)
  | wake (due : Instant) (after : Router ω × Invocation) (noted : List Note)
      (phase : invocation.phase = .resting due)
      (advanced : invocation.Advanced router moment invocation.retrySelection after noted) :
      Step invocation router moment .time after (.selecting due moment.now :: noted)

/-- An invocation keeps its policy while its selection goes on. -/
theorem Advanced.policy_eq {invocation : Invocation} {router : Router ω} {moment : Moment ω}
    {selection : Selection} {after : Router ω × Invocation} {noted : List Note}
    (advanced : invocation.Advanced router moment selection after noted) :
    after.2.policy = invocation.policy := by
  cases advanced <;> rfl

/-- An invocation keeps its policy at each step. -/
theorem Step.policy_eq {invocation : Invocation} {router : Router ω} {moment : Moment ω}
    {answer : Answer} {after : Router ω × Invocation} {noted : List Note}
    (step : invocation.Step router moment answer after noted) :
    after.2.policy = invocation.policy := by
  cases step with
  | select selection answer after noted phase advanced => exact advanced.policy_eq
  | finish => rfl
  | rest => rfl
  | again attempt outcome after noted phase verdict zero advanced => exact advanced.policy_eq
  | wake due after noted phase advanced => exact advanced.policy_eq

/-- An invocation that waits does one of these things at each answer that fits.

The cases follow the phase of the invocation, and for a running attempt the verdict and the
wait. -/
theorem resume_step (invocation : Invocation) (router : Router ω) (moment : Moment ω)
    (answer : Answer) (await : Await) (waits : invocation.await? = some await)
    (fits : answer.fits await = true) :
    invocation.Step router moment answer (invocation.resume router moment answer)
      (invocation.notes router moment answer) := by
  cases phase : invocation.phase with
  | selecting selection =>
    have waiting : selection.await? = some await := by simpa only [await?, phase] using waits
    have advanced := invocation.advance_advanced router moment selection answer await waiting fits
    simp only [resume, notes, phase]
    exact .select selection answer _ _ phase advanced
  | working attempt =>
    have waiting : Await.work = await := by
      simpa only [await?, phase, Option.some.injEq] using waits
    subst waiting
    cases answer <;> simp only [Answer.fits, Bool.false_eq_true] at fits
    rename_i outcome
    simp only [resume, notes, phase, conclude, concludeNotes]
    cases verdict : invocation.policy.judge invocation.service (invocation.ended + 1)
        attempt.target outcome with
    | finish result => exact .finish attempt outcome result phase verdict
    | again =>
      cases zero : (invocation.policy.delay (invocation.ended + 1)).isZero with
      | false => exact .rest attempt outcome phase verdict zero
      | true =>
        have advanced := (invocation.afterFailure attempt).advance_advanced
          (account router invocation.policy attempt moment.now outcome) moment
          (invocation.afterFailure attempt).retrySelection .turn .turn rfl rfl
        exact .again attempt outcome _ _ phase verdict zero advanced
  | resting due =>
    have waiting : Await.time due = await := by
      simpa only [await?, phase, Option.some.injEq] using waits
    subst waiting
    cases answer <;> simp only [Answer.fits, Bool.false_eq_true] at fits
    have advanced := invocation.advance_advanced router moment invocation.retrySelection .turn
      .turn rfl rfl
    simp only [resume, notes, phase]
    exact .wake due _ _ phase advanced
  | done result => simp [await?, phase] at waits

end Invocation

/-- What an invocation meets when it goes on: the router as all others have left it,
the moment, and the answer to its wait. -/
structure Encounter (ω : Type) where
  router : Router ω
  moment : Moment ω
  answer : Answer

/-- A router that holds one fresh list and has seen nothing else. -/
def Router.plain (service : String) (known : List Instance) (now : Instant) : Router Float where
  cache := (Cache.empty .longest).setSlot service ⟨some ⟨known, now⟩, 1, .free⟩
  balance := .empty .longest
  filters := []
  strategies := ⟨∅⟩
  configured := ""
  policies := .empty (.named "default") 0

/-- An encounter with such a router. -/
def Encounter.plain (service : String) (known : List Instance) (now : Instant) (answer : Answer) :
    Encounter Float :=
  ⟨.plain service known now, ⟨now, 0, ⟨fun _ => 0, id⟩⟩, answer⟩

namespace Invocation

variable {ω : Type} [Weight ω]

/-- The invocation after an encounter. -/
def meet (invocation : Invocation) (encounter : Encounter ω) : Invocation :=
  (invocation.resume encounter.router encounter.moment encounter.answer).2

/-- The invocation after a run. -/
def follow (invocation : Invocation) (encounters : List (Encounter ω)) : Invocation :=
  encounters.foldl meet invocation

/-- Everything that is noted in a run. -/
def chronicle (invocation : Invocation) : List (Encounter ω) → List Note
  | [] => []
  | encounter :: rest =>
    invocation.notes encounter.router encounter.moment encounter.answer ++
      (invocation.meet encounter).chronicle rest

/-- Whether an encounter ends the wait of an invocation: its answer is of the kind that
is waited for, and no timer rings before it is due. -/
def Awaits (invocation : Invocation) (encounter : Encounter ω) : Prop :=
  ∃ await, invocation.await? = some await ∧ encounter.answer.fits await = true ∧
    ∀ due, await = .time due → due ≤ encounter.moment.now

/-- A run in which every encounter ends a wait. -/
def Attended (invocation : Invocation) : List (Encounter ω) → Prop
  | [] => True
  | encounter :: rest =>
    invocation.Awaits encounter ∧ (invocation.meet encounter).Attended rest

/-- What a run keeps. If each step of an attended run carries a relation between what
was noted and the invocation on to the next state, then so does the run. The encounters
may be of a usual kind on which the step relies. -/
theorem chronicle_induction (Holds : List Note → Invocation → Prop) (usual : Encounter ω → Prop)
    (step : ∀ noted invocation (encounter : Encounter ω), Holds noted invocation →
      usual encounter → invocation.Awaits encounter →
      Holds (noted ++ invocation.notes encounter.router encounter.moment encounter.answer)
        (invocation.meet encounter))
    (noted : List Note) (invocation : Invocation) (encounters : List (Encounter ω))
    (all : ∀ encounter ∈ encounters, usual encounter) (start : Holds noted invocation)
    (attended : invocation.Attended encounters) :
    Holds (noted ++ invocation.chronicle encounters) (invocation.follow encounters) := by
  induction encounters generalizing noted invocation with
  | nil => simpa only [chronicle, follow, List.append_nil, List.foldl_nil] using start
  | cons encounter rest inductionHypothesis =>
    have next := step noted invocation encounter start (all encounter List.mem_cons_self) attended.1
    have onwards := inductionHypothesis _ _
      (fun later member => all later (List.mem_cons_of_mem _ member)) next attended.2
    simpa only [chronicle, follow, List.append_assoc, List.foldl_cons] using onwards

end Invocation

end CallRouting
