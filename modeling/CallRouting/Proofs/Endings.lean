import CallRouting.Proofs.Rounds

/-!
# How an invocation ends

An invocation needs at most four answers for each attempt that its policy allows: for
the load lock, for the directory, for the work, and for the wait before the attempt or
its first turn. While it has no result it waits for something, so it ends whenever its
waits do.

The result is fixed by the rounds. Which of the four kinds of result it is, and what it
carries, is stated here as a condition on the last round or on the selection after it.
A selection by a strategy of the library finds nothing only in an empty list.
-/

namespace CallRouting

variable {ω : Type}

/-- A selection that waits has answers to come. -/
theorem Selection.stepsLeft_pos (selection : Selection) (waits : selection.await?.isSome = true) :
    0 < selection.stepsLeft := by
  obtain ⟨service, wanted, failed, phase⟩ := selection
  cases phase with
  | asked => exact Nat.succ_pos 2
  | looking strategy lookup =>
    obtain ⟨about, inner⟩ := lookup
    cases inner <;> simp [await?, Lookup.await?, stepsLeft, Lookup.stepsLeft] at waits ⊢
  | chosen result => cases waits

namespace Invocation

/-- How many answers the attempts after the current one can need. -/
def furtherSteps (invocation : Invocation) : Nat :=
  4 * (invocation.policy.maxAttempts - invocation.ended - 1)

/-- How many answers an invocation can still need. -/
def stepsLeft (invocation : Invocation) : Nat :=
  match invocation.phase with
  | .selecting selection => invocation.furtherSteps + 1 + selection.stepsLeft
  | .working _ => invocation.furtherSteps + 1
  | .resting _ => invocation.furtherSteps + 4
  | .done _ => 0

/-- An invocation without a result has an attempt left. -/
def Unspent (invocation : Invocation) : Prop :=
  invocation.result? = none → invocation.ended < invocation.policy.maxAttempts

variable [Weight ω]

/-- A selection that goes on brings its invocation nearer to its end. -/
theorem Advanced.stepsLeft_lt {invocation : Invocation} {router : Router ω} {moment : Moment ω}
    {selection : Selection} {after : Router ω × Invocation} {noted : List Note}
    (advanced : invocation.Advanced router moment selection after noted)
    (waits : selection.await?.isSome = true)
    (left : invocation.ended < invocation.policy.maxAttempts) :
    after.2.stepsLeft < invocation.furtherSteps + 1 + selection.stepsLeft ∧ after.2.Unspent := by
  have positive : 0 < selection.stepsLeft := selection.stepsLeft_pos waits
  cases advanced with
  | looking cache lookup waiting nearer => exact ⟨Nat.add_lt_add_left nearer _, fun _ => left⟩
  | refused cache instances balance choice =>
    exact ⟨Nat.add_pos_right _ positive, fun open' => by cases open'⟩
  | engaged cache instances balance x choice ledger handle opened =>
    exact ⟨Nat.lt_add_of_pos_right positive, fun _ => left⟩

/-- Each step brings an invocation nearer to its end, and leaves an attempt if it leaves the
invocation without a result.

After a failure one attempt less is left, and a new selection takes no more steps than were set
aside for it. That another attempt is left after a verdict to try again is part of the verdict. -/
theorem Step.stepsLeft_lt {invocation : Invocation} {router : Router ω} {moment : Moment ω}
    {answer : Answer} {after : Router ω × Invocation} {noted : List Note}
    (step : invocation.Step router moment answer after noted)
    (waits : invocation.await?.isSome = true) (unspent : invocation.Unspent) :
    after.2.stepsLeft < invocation.stepsLeft ∧ after.2.Unspent := by
  cases step with
  | select selection answer after noted phase advanced =>
    have waiting : selection.await?.isSome = true := by simpa only [await?, phase] using waits
    have left := unspent (by simp only [result?, phase])
    simpa only [stepsLeft, phase] using advanced.stepsLeft_lt waiting left
  | finish attempt outcome result phase verdict =>
    refine ⟨?_, fun open' => by cases open'⟩
    simp only [stepsLeft, phase]
    exact Nat.succ_pos _
  | rest attempt outcome phase verdict positive =>
    have left := ((invocation.policy.judge_again_iff _ _ _ _).mp verdict).2
    refine ⟨?_, fun _ => left⟩
    simp only [stepsLeft, phase, furtherSteps, afterFailure]
    omega
  | again attempt outcome after noted phase verdict zero advanced =>
    have left := ((invocation.policy.judge_again_iff _ _ _ _).mp verdict).2
    obtain ⟨nearer, unspent'⟩ := advanced.stepsLeft_lt rfl left
    refine ⟨?_, unspent'⟩
    have bound := (invocation.afterFailure attempt).retrySelection.stepsLeft_le
    simp only [stepsLeft, phase, furtherSteps, afterFailure] at nearer bound ⊢
    omega
  | wake due after noted phase advanced =>
    have left := unspent (by simp only [result?, phase])
    obtain ⟨nearer, unspent'⟩ := advanced.stepsLeft_lt rfl left
    refine ⟨?_, unspent'⟩
    have bound := invocation.retrySelection.stepsLeft_le
    simp only [stepsLeft, phase] at nearer ⊢
    omega

/-- A run is no longer than the number of answers that an invocation can need. -/
theorem length_add_stepsLeft_le (invocation : Invocation) (encounters : List (Encounter ω))
    (unspent : invocation.Unspent) (attended : invocation.Attended encounters) :
    encounters.length + (invocation.follow encounters).stepsLeft ≤ invocation.stepsLeft := by
  induction encounters generalizing invocation with
  | nil => simp [follow]
  | cons encounter rest inductionHypothesis =>
    obtain ⟨⟨await, waits, fits, _⟩, attendedRest⟩ := attended
    have step := invocation.resume_step encounter.router encounter.moment encounter.answer await
      waits fits
    obtain ⟨nearer, unspent'⟩ := step.stepsLeft_lt (by simp [waits]) unspent
    have onwards := inductionHypothesis (invocation.meet encounter) unspent' attendedRest
    simp only [List.length_cons, follow, List.foldl_cons] at onwards ⊢
    change (invocation.meet encounter).stepsLeft < _ at nearer
    omega

/-- A fresh invocation has its first attempt before it, and needs at most four answers
for each. -/
theorem stepsLeft_start (service : String) (policy : RetryPolicy) :
    (start service policy).Unspent ∧ (start service policy).stepsLeft = 4 * policy.maxAttempts := by
  have positive := policy.maxAttempts_pos
  refine ⟨fun _ => positive, ?_⟩
  simp only [stepsLeft, start, Selection.first, furtherSteps, Selection.stepsLeft]
  omega

/-- An invocation on its course has a result if it waits for nothing. -/
theorem result?_of_await?_none {service : String} {policy : RetryPolicy} {noted : List Note}
    {invocation : Invocation} (course : Course service policy noted invocation) :
    invocation.await? = none ↔ invocation.result? ≠ none := by
  obtain ⟨past, current, behind, stage, _⟩ := course
  cases stage with
  | fresh first => simp [await?, result?, start, Selection.first, Selection.await?]
  | selecting due now led left selection waits begun =>
    have waiting : selection.await? ≠ none := Option.isSome_iff_ne_none.mp waits
    simp [await?, result?, waiting]
  | working => simp [await?, result?]
  | resting => simp [await?, result?]
  | refused => simp [await?, result?]
  | judged => simp [await?, result?]

end Invocation

/-- A usual encounter: the configured strategy comes with the library, and draws are
answered as they are asked. -/
structure Encounter.Usual (encounter : Encounter ω) : Prop where
  builtIn : encounter.router.strategy.BuiltIn
  lawful : encounter.moment.draw.Lawful

/-- An encounter with a router that holds one fresh list is usual. -/
theorem Encounter.Usual.plain (service : String) (known : List Instance) (now : Instant)
    (answer : Answer) : (Encounter.plain service known now answer).Usual :=
  ⟨trivial, fun _ positive => positive⟩

/-- A selection that goes by a strategy of the library, if it goes by one already. -/
def Selection.Standard (selection : Selection) : Prop :=
  match selection.phase with
  | .looking strategy _ => strategy.BuiltIn
  | .asked | .chosen _ => ∀ strategy, selection.wanted = some strategy → strategy.BuiltIn

/-- A selection settles on a strategy of the library if the configured one is such, and none of
the caller's own is wanted. -/
theorem Selection.settled_builtIn (selection : Selection) (router : Router ω)
    (standard : selection.Standard) (builtIn : router.strategy.BuiltIn) :
    (selection.settled router).BuiltIn := by
  obtain ⟨service, wanted, failed, phase⟩ := selection
  cases phase with
  | looking strategy lookup => exact standard
  | asked =>
    cases wanted with
    | none => exact builtIn
    | some strategy => exact standard strategy rfl
  | chosen result =>
    cases wanted with
    | none => exact builtIn
    | some strategy => exact standard strategy rfl

namespace Invocation

variable [Weight ω]

/-- Nothing was refused but empty lists, and the selection that is going on goes by a
strategy of the library. -/
structure RefusedOnlyEmpty (noted : List Note) (invocation : Invocation) : Prop where
  empty : ∀ candidates, .refused candidates ∈ noted → candidates = []
  standard : ∀ selection, invocation.phase = .selecting selection → selection.Standard

/-- A selection by a strategy of the library refuses nothing but an empty list.

What is left of some candidates without the failed ones is not empty either, and from that every
strategy of the library chooses. -/
theorem Advanced.refusedOnlyEmpty {invocation : Invocation} {router : Router ω}
    {moment : Moment ω} {selection : Selection} {after : Router ω × Invocation}
    {noted : List Note} (advanced : invocation.Advanced router moment selection after noted)
    (standard : selection.Standard) (builtIn : router.strategy.BuiltIn)
    (lawful : moment.draw.Lawful) : RefusedOnlyEmpty noted after.2 := by
  have settled := selection.settled_builtIn router standard builtIn
  cases advanced with
  | looking cache lookup waits nearer =>
    refine ⟨by simp, ?_⟩
    intro current phase
    cases phase
    exact settled
  | refused cache instances balance choice =>
    refine ⟨?_, fun _ phase => by cases phase⟩
    intro candidates member
    obtain rfl : candidates = router.candidates instances := by simpa using member
    apply Decidable.byContradiction
    intro nonempty
    obtain ⟨x, _, chosen⟩ := router.balance.choose_mem (selection.settled router) moment.draw
      moment.now selection.service (avoiding (router.candidates instances) selection.failed)
      (fun none => nonempty ((avoiding_eq_nil_iff _ _).mp none)) settled (fun _ => lawful)
    simp [choice] at chosen
  | engaged cache instances balance x choice ledger handle opened =>
    exact ⟨by simp, fun _ phase => by cases phase⟩

/-- Each step of a usual run refuses nothing but an empty list.

A selection by a built-in strategy refuses a list only if it is empty, and every selection of a
usual run goes by one. -/
theorem meet_refusedOnlyEmpty (noted : List Note) (invocation : Invocation)
    (encounter : Encounter ω) (holds : RefusedOnlyEmpty noted invocation)
    (usual : encounter.Usual) (awaits : invocation.Awaits encounter) :
    RefusedOnlyEmpty
      (noted ++ invocation.notes encounter.router encounter.moment encounter.answer)
      (invocation.meet encounter) := by
  obtain ⟨await, waits, fits, _⟩ := awaits
  have step := invocation.resume_step encounter.router encounter.moment encounter.answer await
    waits fits
  have retry (invocation : Invocation) : invocation.retrySelection.Standard := by
    intro strategy wanted
    cases wanted
    trivial
  suffices added : RefusedOnlyEmpty
      (invocation.notes encounter.router encounter.moment encounter.answer)
      (invocation.meet encounter) by
    refine ⟨?_, added.standard⟩
    intro candidates member
    exact (List.mem_append.mp member).elim (holds.empty candidates) (added.empty candidates)
  unfold meet
  generalize invocation.resume encounter.router encounter.moment encounter.answer = after at step ⊢
  generalize invocation.notes encounter.router encounter.moment encounter.answer = added at step ⊢
  generalize encounter.answer = answer at step
  cases step with
  | select selection answer after noted phase advanced =>
    have inner := advanced.refusedOnlyEmpty (holds.standard selection phase) usual.builtIn
      usual.lawful
    refine ⟨?_, inner.standard⟩
    intro candidates member
    rcases List.mem_append.mp member with opened | later
    · unfold Selection.opening at opened
      split at opened <;> simp at opened
    · exact inner.empty candidates later
  | finish => exact ⟨by simp, fun _ phase => by cases phase⟩
  | rest => exact ⟨by simp, fun _ phase => by cases phase⟩
  | again attempt outcome after noted phase verdict zero advanced =>
    have inner := advanced.refusedOnlyEmpty (retry _) usual.builtIn usual.lawful
    exact ⟨fun candidates member => inner.empty candidates (by simpa using member), inner.standard⟩
  | wake due after noted phase advanced =>
    have inner := advanced.refusedOnlyEmpty (retry _) usual.builtIn usual.lawful
    exact ⟨fun candidates member => inner.empty candidates (by simpa using member), inner.standard⟩

/-- A usual run refuses nothing but empty lists. -/
theorem refused_eq_nil (service : String) (policy : RetryPolicy) (encounters : List (Encounter ω))
    (usual : ∀ encounter ∈ encounters, encounter.Usual)
    (attended : (start service policy).Attended encounters) (candidates : List Instance)
    (refused : .refused candidates ∈ (start service policy).chronicle encounters) :
    candidates = [] := by
  have first : RefusedOnlyEmpty [] (start service policy) := by
    refine ⟨by simp, ?_⟩
    intro selection phase
    cases phase
    intro strategy wanted
    cases wanted
  have holds := chronicle_induction RefusedOnlyEmpty Encounter.Usual meet_refusedOnlyEmpty []
    (start service policy) encounters usual first attended
  exact holds.empty candidates (by simpa using refused)

end Invocation

end CallRouting
