import CallRouting.Proofs.Course
import Mathlib.Data.List.Chain

/-!
# The rounds of an invocation

A round is one attempt from its selection to its end. What is noted of an invocation
is round after round, and then the part of the round that is going on, or the end:
`Stage` lists the possible states together with that part, and every step leads from
one of them to another one. The rounds that are over all called for a further attempt
and carry the numbers from one on; each selection is due exactly one wait after the end
of the attempt before it.
-/

namespace CallRouting

/-- One attempt from its selection to its end. -/
structure Round where
  due : Instant
  selectedAt : Instant
  candidates : List Instance
  number : Nat
  attempt : Attempt
  outcome : Except Failure Reply
  endedAt : Instant

namespace Round

/-- What is noted of a round. -/
def notes (round : Round) : List Note :=
  [.selecting round.due round.selectedAt,
    .engaged round.candidates round.number round.attempt,
    .ended round.attempt round.outcome round.endedAt]

/-- A selection that follows a round: it is due after exactly the wait that the policy
wants, does not begin before, and begins at once if the policy wants no wait. -/
structure Leads (policy : RetryPolicy) (round : Round) (due now : Instant) : Prop where
  due_eq : due = round.endedAt + (policy.delay round.number).nanos
  due_le : due ≤ now
  at_once : (policy.delay round.number).isZero = true → now = due

end Round

/-- Rounds in the order in which an invocation goes through them. -/
structure Series (policy : RetryPolicy) (rounds : List Round) : Prop where
  numbered : rounds.map Round.number = List.range' 1 rounds.length
  offered : ∀ round ∈ rounds, round.candidates ≠ []
  linked : rounds.IsChain fun earlier later => earlier.Leads policy later.due later.selectedAt

/-- A selection that follows the last of some rounds, if there is one. -/
def Led (policy : RetryPolicy) (past : List Round) (due now : Instant) : Prop :=
  ∀ last, past.getLast? = some last → last.Leads policy due now

namespace Series

variable {policy : RetryPolicy} {rounds : List Round}

/-- Before the first round nothing has to be numbered, offered or led. -/
theorem nil : Series policy [] := ⟨rfl, by simp, .nil⟩

/-- A series goes on with a round that has the next number and some candidates, and that the
rounds before have led to. -/
theorem snoc (series : Series policy rounds) (round : Round)
    (number : round.number = rounds.length + 1) (offered : round.candidates ≠ [])
    (led : Led policy rounds round.due round.selectedAt) : Series policy (rounds ++ [round]) where
  numbered := by
    simp only [List.map_append, series.numbered, List.map_cons, List.map_nil, number,
      List.length_append, List.length_singleton, List.range'_concat]
    simp [Nat.add_comm]
  offered := by
    intro other member
    rcases List.mem_append.mp member with earlier | last
    · exact series.offered other earlier
    · exact List.mem_singleton.mp last ▸ offered
  linked := by
    refine List.isChain_append.mpr ⟨series.linked, .singleton round, ?_⟩
    intro last latest next first
    rw [List.head?_cons, Option.mem_some_iff] at first
    exact first ▸ led last latest

end Series

/-- Rounds that are over and each called for a further attempt. -/
structure Past (policy : RetryPolicy) (rounds : List Round) : Prop where
  series : Series policy rounds
  retried : ∀ round ∈ rounds, policy.Retries round.outcome

/-- No round has passed before the first one. -/
theorem Past.nil (policy : RetryPolicy) : Past policy [] := ⟨.nil, by simp⟩

/-- A round after which another attempt is wanted joins the past, and the attempt is
left. -/
theorem Past.snoc {policy : RetryPolicy} {rounds : List Round} (past : Past policy rounds)
    (service : String) (round : Round) (number : round.number = rounds.length + 1)
    (offered : round.candidates ≠ []) (led : Led policy rounds round.due round.selectedAt)
    (again : policy.judge service round.number round.attempt.target round.outcome = .again) :
    Past policy (rounds ++ [round]) ∧ (rounds ++ [round]).length < policy.maxAttempts := by
  obtain ⟨retries, more⟩ := (policy.judge_again_iff _ _ _ _).mp again
  refine ⟨⟨past.series.snoc round number offered led, ?_⟩, by simpa [number] using more⟩
  intro other member
  rcases List.mem_append.mp member with earlier | last
  · exact past.retried other earlier
  · exact (List.mem_singleton.mp last).symm ▸ retries

/-- The identities on which the attempts of some rounds were made. -/
def targets (rounds : List Round) : List Identity := rounds.map (·.attempt.target.identity)

/-- How an invocation can stand after the rounds that are over, and what was noted of
the round that is going on. -/
inductive Stage (service : String) (policy : RetryPolicy) (past : List Round) :
    List Note → Invocation → Prop
  | fresh (first : past = []) : Stage service policy past [] (.start service policy)
  | selecting (due now : Instant) (led : Led policy past due now)
      (left : past.length < policy.maxAttempts) (selection : Selection)
      (waits : selection.await?.isSome = true) (begun : ∀ later, selection.opening later = []) :
      Stage service policy past [.selecting due now]
        ⟨service, policy, past.length, targets past, .selecting selection⟩
  | working (due now : Instant) (led : Led policy past due now)
      (left : past.length < policy.maxAttempts) (candidates : List Instance)
      (offered : candidates ≠ []) (attempt : Attempt) :
      Stage service policy past
        [.selecting due now, .engaged candidates (past.length + 1) attempt]
        ⟨service, policy, past.length, targets past, .working attempt⟩
  | resting (last : Round) (latest : past.getLast? = some last)
      (left : past.length < policy.maxAttempts)
      (positive : (policy.delay last.number).isZero = false) :
      Stage service policy past []
        ⟨service, policy, past.length, targets past,
          .resting (last.endedAt + (policy.delay last.number).nanos)⟩
  | refused (due now : Instant) (led : Led policy past due now)
      (left : past.length < policy.maxAttempts) (candidates : List Instance) :
      Stage service policy past [.selecting due now, .refused candidates]
        ⟨service, policy, past.length, targets past, .done (.error (.noInstance service))⟩
  | judged (round : Round) (number : round.number = past.length + 1)
      (offered : round.candidates ≠ []) (led : Led policy past round.due round.selectedAt)
      (left : past.length < policy.maxAttempts) (result : Except RoutingError Reply)
      (verdict : policy.judge service round.number round.attempt.target round.outcome =
        .finish result) :
      Stage service policy past round.notes
        ⟨service, policy, past.length + 1, targets past, .done result⟩

/-- What was noted of an invocation and how it stands: rounds that are over, each of
which called for a further attempt, and a stage. -/
def Course (service : String) (policy : RetryPolicy) (noted : List Note)
    (invocation : Invocation) : Prop :=
  ∃ past current, Past policy past ∧ Stage service policy past current invocation ∧
    noted = past.flatMap Round.notes ++ current

namespace Invocation

variable {ω : Type} [Weight ω] {service : String} {policy : RetryPolicy}

/-- Candidates from which an instance was chosen are not empty. -/
theorem offered_of_choice (balance after : Balance ω) (strategy : Strategy) (draw : Draw ω)
    (now : Instant) (about : String) (candidates : List Instance) (failed : List Identity)
    (x : Instance)
    (choice : balance.choose strategy draw now about (avoiding candidates failed) =
      (after, some x)) : candidates ≠ [] := by
  intro empty
  rw [(avoiding_eq_nil_iff candidates failed).mpr empty, Balance.choose_nil] at choice
  cases choice

/-- A selection that goes on after some rounds leads to a stage: it still looks for its list, it
is refused, or it has its attempt at work. -/
theorem Advanced.stage {past : List Round} {router : Router ω} {moment : Moment ω}
    {selection : Selection} {after : Router ω × Invocation} {noted : List Note}
    {phase : InvocationPhase}
    (advanced : Advanced ⟨service, policy, past.length, targets past, phase⟩ router moment
      selection after noted)
    (due now : Instant) (led : Led policy past due now)
    (left : past.length < policy.maxAttempts) :
    Stage service policy past (.selecting due now :: noted) after.2 := by
  cases advanced with
  | looking cache lookup waits nearer =>
    exact .selecting due now led left _ waits fun _ => rfl
  | refused cache instances balance choice => exact .refused due now led left _
  | engaged cache instances balance x choice ledger handle opened =>
    exact .working due now led left _
      (offered_of_choice router.balance balance _ _ _ _ _ _ x choice) _

variable {past : List Round} {router : Router ω} {moment : Moment ω} {answer : Answer}
  {after : Router ω × Invocation} {added : List Note}

/-- The first step begins the first selection. -/
theorem Step.course_of_start (step : (Invocation.start service policy).Step router moment answer
    after added) : Course service policy added after.2 := by
  cases step with
  | select selection answer after noted phase advanced =>
    cases phase
    have stage : Stage service policy [] (.selecting moment.now moment.now :: noted) after.2 :=
      advanced.stage _ _ (fun _ latest => by cases latest) policy.maxAttempts_pos
    exact ⟨[], _, .nil policy, stage, rfl⟩
  | finish _ _ _ phase => cases phase
  | rest _ _ phase => cases phase
  | again _ _ _ _ phase => cases phase
  | wake _ _ _ phase => cases phase

/-- From a selection that goes on a step leads to a stage of the same round. -/
theorem Step.course_of_selecting (behind : Past policy past) (due now : Instant)
    (led : Led policy past due now) (left : past.length < policy.maxAttempts)
    (selection : Selection) (begun : ∀ later, selection.opening later = [])
    (step : Step ⟨service, policy, past.length, targets past, .selecting selection⟩ router moment
      answer after added) :
    Course service policy (past.flatMap Round.notes ++ [.selecting due now] ++ added) after.2 := by
  cases step with
  | select current answer after noted phase advanced =>
    cases phase
    exact ⟨past, _, behind, advanced.stage due now led left, by simp [begun]⟩
  | finish _ _ _ phase => cases phase
  | rest _ _ phase => cases phase
  | again _ _ _ _ phase => cases phase
  | wake _ _ _ phase => cases phase

/-- From a running attempt a step leads to the verdict on it, or completes the round and
begins to wait or to select.

The answer completes the round. The verdict on it says whether the run is judged, rests, or
goes on to the next selection at once, which is the case of a wait of zero. -/
theorem Step.course_of_working (behind : Past policy past) (due now : Instant)
    (led : Led policy past due now) (left : past.length < policy.maxAttempts)
    (candidates : List Instance) (offered : candidates ≠ []) (attempt : Attempt)
    (step : Step ⟨service, policy, past.length, targets past, .working attempt⟩ router moment
      answer after added) :
    Course service policy
      (past.flatMap Round.notes ++
        [.selecting due now, .engaged candidates (past.length + 1) attempt] ++ added) after.2 := by
  cases step with
  | select _ _ _ _ phase => cases phase
  | finish current outcome result phase verdict =>
    cases phase
    let round : Round := ⟨due, now, candidates, past.length + 1, attempt, outcome, moment.now⟩
    exact ⟨past, round.notes, behind, .judged round rfl offered led left result verdict,
      by simp [round, Round.notes]⟩
  | rest current outcome phase verdict positive =>
    cases phase
    let round : Round := ⟨due, now, candidates, past.length + 1, attempt, outcome, moment.now⟩
    obtain ⟨behind', left'⟩ := behind.snoc service round rfl offered led verdict
    have stage : Stage service policy (past ++ [round]) [] _ :=
      .resting round List.getLast?_concat left' positive
    refine ⟨past ++ [round], [], behind', ?_, by simp [round, Round.notes]⟩
    simpa [round, afterFailure, targets] using stage
  | again current outcome after noted phase verdict zero advanced =>
    cases phase
    let round : Round := ⟨due, now, candidates, past.length + 1, attempt, outcome, moment.now⟩
    obtain ⟨behind', left'⟩ := behind.snoc service round rfl offered led verdict
    have noWait : (policy.delay (past.length + 1)).nanos = 0 := by
      simpa [Duration.isZero] using zero
    have led' : Led policy (past ++ [round]) moment.now moment.now := by
      intro last latest
      rw [List.getLast?_concat, Option.some.injEq] at latest
      exact latest ▸ ⟨by simp [round, noWait], Nat.le_refl _, fun _ => rfl⟩
    have next :
        afterFailure ⟨service, policy, past.length, targets past, .working attempt⟩ attempt =
        ⟨service, policy, (past ++ [round]).length, targets (past ++ [round]),
          .working attempt⟩ := by
      simp [round, afterFailure, targets]
    rw [next] at advanced
    exact ⟨past ++ [round], _, behind', advanced.stage moment.now moment.now led' left',
      by simp [round, Round.notes]⟩
  | wake _ _ _ phase => cases phase

/-- From a wait a step leads to the selection that follows the last round.

The wait is over at the time that was due, so the selection begins no earlier than the delay after
the last attempt. -/
theorem Step.course_of_resting (behind : Past policy past) (last : Round)
    (latest : past.getLast? = some last) (left : past.length < policy.maxAttempts)
    (positive : (policy.delay last.number).isZero = false)
    (timely : last.endedAt + (policy.delay last.number).nanos ≤ moment.now)
    (step : Step ⟨service, policy, past.length, targets past,
      .resting (last.endedAt + (policy.delay last.number).nanos)⟩ router moment answer after
      added) :
    Course service policy (past.flatMap Round.notes ++ added) after.2 := by
  cases step with
  | select _ _ _ _ phase => cases phase
  | finish _ _ _ phase => cases phase
  | rest _ _ phase => cases phase
  | again _ _ _ _ phase => cases phase
  | wake due after noted phase advanced =>
    cases phase
    have led : Led policy past (last.endedAt + (policy.delay last.number).nanos) moment.now := by
      intro other same
      obtain rfl : last = other := Option.some.inj (latest.symm.trans same)
      exact ⟨rfl, timely, fun zero => by simp [positive] at zero⟩
    exact ⟨past, _, behind, advanced.stage _ _ led left, rfl⟩

/-- Each step at a due answer leads from one stage to another one. A step at which an attempt is
to be followed by another one completes a round; all other steps add to the part that is noted of
the current one.

An invocation that was refused or has been judged waits for nothing, so it meets no due answer. -/
theorem meet_course (noted : List Note) (invocation : Invocation) (encounter : Encounter ω)
    (course : Course service policy noted invocation) (awaits : invocation.Awaits encounter) :
    Course service policy
      (noted ++ invocation.notes encounter.router encounter.moment encounter.answer)
      (invocation.meet encounter) := by
  obtain ⟨await, waits, fits, timely⟩ := awaits
  obtain ⟨past, current, behind, stage, rfl⟩ := course
  have step := invocation.resume_step encounter.router encounter.moment encounter.answer await
    waits fits
  cases stage with
  | fresh first =>
    subst first
    exact step.course_of_start
  | selecting due now led left selection waiting begun =>
    exact step.course_of_selecting behind due now led left selection begun
  | working due now led left candidates offered attempt =>
    exact step.course_of_working behind due now led left candidates offered attempt
  | resting last latest left positive =>
    have reached := timely _ (Option.some.inj waits).symm
    rw [List.append_nil]
    exact step.course_of_resting behind last latest left positive reached
  | refused due now led left candidates => cases waits
  | judged round number offered led left result verdict => cases waits

/-- Every attended run of an invocation keeps to its course. -/
theorem follow_course (encounters : List (Encounter ω))
    (attended : (Invocation.start service policy).Attended encounters) :
    Course service policy ((Invocation.start service policy).chronicle encounters)
      ((Invocation.start service policy).follow encounters) := by
  have start : Course service policy [] (Invocation.start service policy) :=
    ⟨[], [], .nil policy, .fresh rfl, rfl⟩
  simpa only [List.nil_append] using
    chronicle_induction (Course service policy) (fun _ => True)
      (fun noted invocation encounter course _ awaits =>
        meet_course noted invocation encounter course awaits)
      [] (Invocation.start service policy) encounters (fun _ _ => trivial) start attended

end Invocation

end CallRouting
