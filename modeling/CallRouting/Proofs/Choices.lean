import CallRouting.Proofs.Course
import CallRouting.Proofs.World

/-!
# How a task comes to its instance

A task is bound to an instance while its attempt on it is running, or once it has
chosen it. It can only come to that when it goes on at an answer: a selection goes on
then, whose lookup gives a list, and the instance is what the strategy chooses from the
candidates in that list. Everything else that happens leaves the binding as it is, so
each binding in a run goes back to one such moment.

What a selection and an invocation can do at an answer is listed once, in their `GoesOn`; what
they keep in the router follows from its cases. A task changes nothing of the router that it
uses but the cached lists and what the strategies write; filters come in only when a caller
adds one.
-/

namespace CallRouting

variable {ω : Type}

/-- The list that the cache gives a selection that goes on, if it is there then. -/
def Selection.listed? (selection : Selection) (encounter : Encounter ω) :
    Option (List Instance) := do
  let (_, lookup) ← selection.lookedUp? encounter.router encounter.moment encounter.answer
  lookup.result?

/-- The instance that a task is bound to. -/
def Task.bound? : Task → Option Instance
  | .choosing { phase := .chosen result, .. } => result
  | .invoking { phase := .working attempt, .. } => some attempt.target
  | _ => none

/-- The selection that a task waits for. -/
def Task.selection? : Task → Option Selection
  | .choosing selection => some selection
  | .invoking { phase := .selecting selection, .. } => some selection
  | _ => none

/-- A task that manages the client waits for no selection. -/
theorem Task.Managing.selection?_eq_none {task : Task} (managing : task.Managing) :
    task.selection? = none := by
  cases task <;> first
    | rfl
    | exact managing.elim

/-- A selection that a request becomes has not begun. -/
theorem Request.asked_of_selection? (request : Request) (selection : Selection)
    (found : request.task.selection? = some selection) : selection.phase = .asked := by
  cases request <;> cases found <;> rfl

/-- A request is bound to no instance. -/
theorem Request.bound?_task (request : Request) : request.task.bound? = none := by
  cases request <;> rfl

/-- A task that manages the client is bound to no instance. -/
theorem Task.Managing.bound?_eq_none {task : Task} (managing : task.Managing) :
    task.bound? = none := by
  cases task <;> first
    | rfl
    | exact managing.elim

/-- The selection of an invocation that goes on, and what it meets. After an attempt it
begins at once if there is nothing to wait for, and meets the closed statistics. -/
def Invocation.selecting? (invocation : Invocation) (encounter : Encounter ω) :
    Option (Selection × Encounter ω) :=
  match invocation.phase, encounter.answer with
  | .selecting selection, _ => some (selection, encounter)
  | .working attempt, .work outcome =>
    let n := invocation.ended + 1
    match invocation.policy.judge invocation.service n attempt.target outcome with
    | .finish _ => none
    | .again =>
      if (invocation.policy.delay n).isZero then
        let now := encounter.moment.now
        let router := account encounter.router invocation.policy attempt now outcome
        some ((invocation.afterFailure attempt).retrySelection, ⟨router, encounter.moment, .turn⟩)
      else none
  | .resting _, .time =>
    some (invocation.retrySelection, ⟨encounter.router, encounter.moment, .turn⟩)
  | _, _ => none

/-- The selection of a task that goes on, and what it meets. -/
def Task.selecting? (task : Task) (encounter : Encounter ω) : Option (Selection × Encounter ω) :=
  match task with
  | .choosing selection => some (selection, encounter)
  | .invoking invocation => invocation.selecting? encounter
  | _ => none

/-- A selection that waits has not chosen yet. -/
theorem Selection.not_chosen_of_await? (selection : Selection)
    (waits : selection.await?.isSome = true) (result : Option Instance) :
    selection.phase ≠ .chosen result := by
  intro chosen
  simp [await?, chosen] at waits

/-- A selection meets the router as it is, up to the statistics that were closed. -/
def Encounter.Meets (met encounter : Encounter ω) : Prop :=
  met.moment = encounter.moment ∧
    ∃ ledger, met.router =
      { encounter.router with balance := { encounter.router.balance with ledger } }

namespace Invocation

/-- The router in which an invocation goes on: the statistics of its attempt are closed there,
if it had one. -/
inductive Closing (invocation : Invocation) (encounter : Encounter ω) : Router ω → Prop
  | nothing : Closing invocation encounter encounter.router
  | attempt (attempt : Attempt) (outcome : Except Failure Reply)
      (phase : invocation.phase = .working attempt) :
      Closing invocation encounter
        (account encounter.router invocation.policy attempt encounter.moment.now outcome)

/-- A selection begins for a further attempt of an invocation. -/
structure Begins (invocation : Invocation) (encounter : Encounter ω) (further : Invocation)
    (selection : Selection) (met : Encounter ω) : Prop where
  service : further.service = invocation.service
  selection : selection = further.retrySelection
  closing : invocation.Closing encounter met.router
  moment : met.moment = encounter.moment
  answer : met.answer = .turn

/-- A selection that goes on with its invocation was under way and meets what the invocation
meets, or it begins.

It begins after an attempt that has failed, if there is no time to wait, or when the time to wait
is over. -/
theorem selecting?_eq (invocation : Invocation) (encounter : Encounter ω)
    (selection : Selection) (met : Encounter ω)
    (selecting : invocation.selecting? encounter = some (selection, met)) :
    (invocation.phase = .selecting selection ∧ met = encounter) ∨
      ∃ further, invocation.Begins encounter further selection met := by
  obtain ⟨service, policy, ended, failed, phase⟩ := invocation
  cases phase with
  | selecting current =>
    cases selecting
    exact .inl ⟨rfl, rfl⟩
  | working attempt =>
    cases answer : encounter.answer <;> simp only [selecting?, answer] at selecting
    case work outcome =>
      split at selecting
      · cases selecting
      · split at selecting
        · cases selecting
          exact .inr ⟨afterFailure ⟨service, policy, ended, failed, .working attempt⟩ attempt, rfl,
            rfl, .attempt attempt outcome rfl, rfl, rfl⟩
        · cases selecting
    all_goals cases selecting
  | resting due =>
    cases answer : encounter.answer <;> simp only [selecting?, answer] at selecting
    case time =>
      cases selecting
      exact .inr ⟨⟨service, policy, ended, failed, .resting due⟩, rfl, rfl, .nothing, rfl, rfl⟩
    all_goals cases selecting
  | done result => simp [selecting?] at selecting

/-- The selection of an invocation that goes on is open, and nothing but the statistics has
changed before it begins. -/
theorem selecting?_open (invocation : Invocation) (encounter : Encounter ω)
    (waits : invocation.await?.isSome = true) (selection : Selection) (met : Encounter ω)
    (selecting : invocation.selecting? encounter = some (selection, met)) :
    (∀ result, selection.phase ≠ .chosen result) ∧ met.Meets encounter := by
  rcases invocation.selecting?_eq encounter selection met selecting with
    ⟨phase, rfl⟩ | ⟨further, begins⟩
  · rw [await?, phase] at waits
    exact ⟨selection.not_chosen_of_await? waits, rfl, _, rfl⟩
  · obtain ⟨-, rfl, closing, moment, -⟩ := begins
    refine ⟨fun result chosen => ?_, moment, ?_⟩
    · cases chosen
    · generalize met.router = router at closing ⊢
      cases closing <;> exact ⟨_, rfl⟩

end Invocation

section Steps

variable [Weight ω]

namespace Selection

omit [Weight ω] in
/-- Whatever a selection meets, it goes on with one and the same lookup, which has begun before
or begins for its service, or not at all. -/
theorem exists_lookup (selection : Selection) (answer : Answer) (Apt : Lookup → Prop)
    (begins : Apt (.get selection.service))
    (begun : ∀ strategy lookup, selection.phase = .looking strategy lookup → Apt lookup) :
    (∀ (router : Router ω) (moment : Moment ω),
        selection.lookedUp? router moment answer = none) ∨
      ∃ current : Lookup, Apt current ∧ current.await? = selection.await? ∧
        ∀ (router : Router ω) (moment : Moment ω), selection.lookedUp? router moment answer =
          some (current.resume router.cache moment.now moment.ticket answer) := by
  obtain ⟨service, wanted, failed, phase⟩ := selection
  cases phase with
  | asked =>
    cases answer with
    | turn => exact .inr ⟨.get service, begins, rfl, fun _ _ => rfl⟩
    | _ => exact .inl fun _ _ => rfl
  | looking strategy current =>
    exact .inr ⟨current, begun strategy current rfl, rfl, fun _ _ => rfl⟩
  | chosen result => exact .inl fun _ _ => rfl

/-- Without a lookup a selection stays as it is. -/
theorem resume_of_lookedUp?_eq_none (selection : Selection) (router : Router ω) (moment : Moment ω)
    (answer : Answer) (nothing : selection.lookedUp? router moment answer = none) :
    selection.resume router moment answer = (router, selection) := by
  obtain ⟨service, wanted, failed, phase⟩ := selection
  cases phase with
  | asked => cases answer <;> simp [lookedUp?] at nothing ⊢ <;> rfl
  | looking strategy lookup => simp [lookedUp?] at nothing
  | chosen earlier => rfl

/-- What a selection can do at an answer, by the list that it gets: without a lookup it stays,
without a list it waits for one, and from a list it chooses. -/
inductive GoesOn (selection : Selection) (encounter : Encounter ω) :
    Option (List Instance) → Router ω × Selection → Prop
  | stays : GoesOn selection encounter none (encounter.router, selection)
  | waits (cache : Cache) (lookup : Lookup)
      (looked : selection.lookedUp? encounter.router encounter.moment encounter.answer =
        some (cache, lookup)) :
      GoesOn selection encounter none
        ({ encounter.router with cache },
          { selection with phase := .looking (selection.settled encounter.router) lookup })
  | chooses (cache : Cache) (lookup : Lookup)
      (looked : selection.lookedUp? encounter.router encounter.moment encounter.answer =
        some (cache, lookup))
      (listed : List Instance) (balance : Balance ω) (picked? : Option Instance)
      (choice : encounter.router.balance.choose (selection.settled encounter.router)
        encounter.moment.draw encounter.moment.now selection.service
        (avoiding (encounter.router.candidates listed) selection.failed) = (balance, picked?)) :
      GoesOn selection encounter (some listed)
        ({ encounter.router with cache, balance }, { selection with phase := .chosen picked? })

/-- The three forms cover whatever a selection meets. The splits follow its lookup: without one
it stays, one that goes on is waited for, and one that has ended is chosen from. -/
theorem goesOn (selection : Selection) (encounter : Encounter ω) :
    selection.GoesOn encounter (selection.listed? encounter)
      (selection.resume encounter.router encounter.moment encounter.answer) := by
  cases looked : selection.lookedUp? encounter.router encounter.moment encounter.answer with
  | none =>
    rw [selection.resume_of_lookedUp?_eq_none _ _ _ looked, listed?, looked]
    exact .stays
  | some found =>
    obtain ⟨cache, lookup⟩ := found
    rw [selection.resume_eq _ _ _ cache lookup looked, listed?, looked]
    simp only [settle, bind, Option.bind]
    cases lookup.result? with
    | none => exact .waits cache lookup looked
    | some listed => exact .chooses cache lookup looked listed _ _ rfl

/-- A selection that has chosen when it goes on has got a list, and has chosen from the
candidates in it. -/
theorem resume_chosen (selection : Selection) (encounter : Encounter ω)
    (result : Option Instance) (open' : ∀ earlier, selection.phase ≠ .chosen earlier)
    (chosen : (selection.resume encounter.router encounter.moment encounter.answer).2.phase =
      .chosen result) :
    ∃ listed, selection.listed? encounter = some listed ∧
      (encounter.router.balance.choose (selection.settled encounter.router) encounter.moment.draw
        encounter.moment.now selection.service
        (avoiding (encounter.router.candidates listed) selection.failed)).2 = result := by
  have goes := selection.goesOn encounter
  generalize selection.listed? encounter = list at goes ⊢
  generalize selection.resume encounter.router encounter.moment encounter.answer = after
    at goes chosen
  cases goes with
  | stays => exact absurd chosen (open' result)
  | waits => cases chosen
  | chooses cache lookup looked listed balance picked? choice =>
    cases chosen
    exact ⟨listed, rfl, congrArg Prod.snd choice⟩

end Selection

namespace Invocation

/-- What an invocation can do at an answer: with no selection it stays at one that does not
fit, ends or rests; otherwise it goes on as that selection goes on. -/
inductive GoesOn (invocation : Invocation) (encounter : Encounter ω) :
    Option (Selection × Encounter ω) → Router ω × Invocation → Prop
  | stays
      (unfit : ∀ await, invocation.await? = some await → encounter.answer.fits await = false) :
      GoesOn invocation encounter none (encounter.router, invocation)
  | ends (router : Router ω) (closing : invocation.Closing encounter router)
      (result : Except RoutingError Reply) :
      GoesOn invocation encounter none
        (router, { invocation with ended := invocation.ended + 1, phase := .done result })
  | rests (router : Router ω) (closing : invocation.Closing encounter router) (attempt : Attempt)
      (due : Instant) :
      GoesOn invocation encounter none
        (router, { invocation.afterFailure attempt with phase := .resting due })
  | selects (next : Invocation) (selection : Selection) (met : Encounter ω)
      (closing : invocation.Closing encounter met.router) (moment : met.moment = encounter.moment)
      (service : next.service = invocation.service) :
      GoesOn invocation encounter (some (selection, met))
        (next.advance met.router met.moment selection met.answer)

/-- The four forms cover whatever an invocation meets, in each of its phases.

An attempt that ends takes three of them: the invocation ends, waits for its time, or selects
again at once if it has no time to wait. -/
theorem goesOn (invocation : Invocation) (encounter : Encounter ω) :
    invocation.GoesOn encounter (invocation.selecting? encounter)
      (invocation.resume encounter.router encounter.moment encounter.answer) := by
  obtain ⟨router, moment, answer⟩ := encounter
  obtain ⟨service, policy, ended, failed, phase⟩ := invocation
  cases phase with
  | selecting selection =>
    exact .selects _ selection ⟨router, moment, answer⟩ .nothing rfl rfl
  | working attempt =>
    cases answer with
    | work outcome =>
      have closing : Closing ⟨service, policy, ended, failed, .working attempt⟩
          ⟨router, moment, .work outcome⟩ (account router policy attempt moment.now outcome) :=
        .attempt attempt outcome rfl
      simp only [selecting?, resume, conclude]
      cases policy.judge service (ended + 1) attempt.target outcome with
      | finish result => exact .ends _ closing result
      | again =>
        cases zero : (policy.delay (ended + 1)).isZero with
        | false => exact .rests _ closing attempt _
        | true => exact .selects _ _ ⟨_, moment, .turn⟩ closing rfl rfl
    | _ => exact .stays fun _ waits => by cases waits; rfl
  | resting due =>
    cases answer with
    | time => exact .selects _ _ ⟨router, moment, .turn⟩ .nothing rfl rfl
    | _ => exact .stays fun _ waits => by cases waits; rfl
  | done result => exact .stays fun _ waits => by cases waits

/-- An invocation that has an attempt after its selection has gone on has chosen the target. -/
theorem advance_working (invocation : Invocation) (router : Router ω) (moment : Moment ω)
    (selection : Selection) (answer : Answer) (attempt : Attempt)
    (working : (invocation.advance router moment selection answer).2.phase = .working attempt) :
    (selection.resume router moment answer).2.phase = .chosen (some attempt.target) := by
  unfold advance engage at working
  split at working
  · cases working
  · rename_i x chosen
    cases working
    exact chosen
  · cases working

/-- An invocation that has an attempt after it has gone on has just chosen its target.

While an attempt is running nothing but its end fits, and then the attempt is over; so the attempt
is a new one. -/
theorem resume_working (invocation : Invocation) (encounter : Encounter ω) (attempt : Attempt)
    (await : Await) (waits : invocation.await? = some await)
    (fits : encounter.answer.fits await = true)
    (working : (invocation.resume encounter.router encounter.moment encounter.answer).2.phase =
      .working attempt) :
    ∃ selection met, invocation.selecting? encounter = some (selection, met) ∧
      (selection.resume met.router met.moment met.answer).2.phase =
        .chosen (some attempt.target) := by
  have goes := invocation.goesOn encounter
  generalize invocation.selecting? encounter = selecting at goes ⊢
  generalize invocation.resume encounter.router encounter.moment encounter.answer = after
    at goes working
  cases goes with
  | stays unfit =>
    rw [unfit await waits] at fits
    cases fits
  | ends => cases working
  | rests => cases working
  | selects next selection met =>
    exact ⟨selection, met, rfl,
      next.advance_working met.router met.moment selection met.answer attempt working⟩

end Invocation

namespace Task

/-- A task that is bound to an instance after it has gone on has chosen it from the
candidates in the list that it has just got.

A task is bound when it chooses, or when its invocation engages what its selection has chosen;
in both cases the selection has just got its list. -/
theorem resume_bound (task : Task) (client : Client ω) (moment : Moment ω) (answer : Answer)
    (await : Await) (waits : task.await? = some await) (fits : answer.fits await = true)
    (x : Instance) (bound : (task.resume client moment answer).2.bound? = some x) :
    ∃ selection met listed,
      task.selecting? ⟨client.router, moment, answer⟩ = some (selection, met) ∧
        met.Meets ⟨client.router, moment, answer⟩ ∧ selection.listed? met = some listed ∧
        (met.router.balance.choose (selection.settled met.router) met.moment.draw met.moment.now
          selection.service
          (avoiding (met.router.candidates listed) selection.failed)).2 = some x := by
  cases task with
  | choosing selection =>
    have waiting : selection.await?.isSome = true := Option.isSome_iff_exists.mpr ⟨_, waits⟩
    have chosen : (selection.resume client.router moment answer).2.phase = .chosen (some x) := by
      simp only [resume] at bound
      unfold bound? at bound
      split at bound
      · rename_i phase
        exact (congrArg Selection.phase (Task.choosing.inj phase)).trans
          (congrArg SelectionPhase.chosen bound)
      · rename_i phase
        cases phase
      · cases bound
    obtain ⟨listed, got, choice⟩ := selection.resume_chosen ⟨client.router, moment, answer⟩ (some x)
      (selection.not_chosen_of_await? waiting) chosen
    exact ⟨selection, _, listed, rfl, ⟨rfl, _, rfl⟩, got, choice⟩
  | invoking invocation =>
    have waiting : invocation.await?.isSome = true := Option.isSome_iff_exists.mpr ⟨_, waits⟩
    obtain ⟨attempt, working, rfl⟩ : ∃ attempt,
        (invocation.resume client.router moment answer).2.phase = .working attempt ∧
          attempt.target = x := by
      simp only [resume] at bound
      unfold bound? at bound
      split at bound
      · rename_i phase
        cases phase
      · rename_i attempt phase
        exact ⟨attempt, congrArg Invocation.phase (Task.invoking.inj phase), Option.some.inj bound⟩
      · cases bound
    obtain ⟨selection, met, selecting, chosen⟩ := invocation.resume_working
      ⟨client.router, moment, answer⟩ attempt await waits fits working
    obtain ⟨open', meets⟩ := invocation.selecting?_open _ waiting selection met selecting
    obtain ⟨listed, got, choice⟩ := selection.resume_chosen met _ open' chosen
    exact ⟨selection, met, listed, selecting, meets, got, choice⟩
  | looking lookup => cases bound
  | sweeping sweep => cases bound
  | _ =>
    rw [Managing.bound?_eq_none] at bound
    · cases bound
    · exact managing_resume _ client moment answer trivial

/-- The selection that a task waits for after it has gone on has gone on with it.

An invocation that goes on without a selection is done, waits for its time or runs an attempt, and
so waits for no selection afterwards. -/
theorem selection?_resume (task : Task) (client : Client ω) (moment : Moment ω) (answer : Answer)
    (await : Await) (waits : task.await? = some await) (fits : answer.fits await = true)
    (after : Selection) (found : (task.resume client moment answer).2.selection? = some after) :
    ∃ selection met, task.selecting? ⟨client.router, moment, answer⟩ = some (selection, met) ∧
      after = (selection.resume met.router met.moment met.answer).2 := by
  cases task with
  | choosing selection =>
    cases found
    exact ⟨selection, _, rfl, rfl⟩
  | invoking invocation =>
    have goes := invocation.goesOn ⟨client.router, moment, answer⟩
    simp only [resume] at found
    simp only [selecting?]
    generalize invocation.selecting? ⟨client.router, moment, answer⟩ = selecting at goes ⊢
    generalize invocation.resume client.router moment answer = result at goes found
    cases goes with
    | stays unfit =>
      rw [unfit await waits] at fits
      cases fits
    | ends => cases found
    | rests => cases found
    | selects next selection met =>
      refine ⟨selection, met, rfl, ?_⟩
      unfold Invocation.advance Invocation.engage at found
      split at found
      · cases found
      · cases found
      · cases found
        rfl
  | looking lookup => cases found
  | sweeping sweep => cases found
  | _ =>
    rw [Managing.selection?_eq_none] at found
    · cases found
    · exact managing_resume _ client moment answer trivial

end Task

end Steps

/-- What tasks and jobs leave of a router: all but the cached lists and what the strategies
write. -/
def Router.SameRules (before after : Router ω) : Prop :=
  ∃ cache balance, after = { before with cache, balance }

namespace Router.SameRules

/-- A router follows the same rules as itself. -/
theorem refl (router : Router ω) : router.SameRules router := ⟨_, _, rfl⟩

/-- What follows the same rules twice over follows them still. -/
theorem trans {first second third : Router ω} (before : first.SameRules second)
    (after : second.SameRules third) : first.SameRules third := by
  obtain ⟨cache, balance, rfl⟩ := before
  obtain ⟨cache, balance, rfl⟩ := after
  exact ⟨_, _, rfl⟩

end Router.SameRules

section Steps

variable [Weight ω]

/-- A selection that goes on keeps the rules of its router: it writes to the cache and to the
strategies only. -/
theorem Selection.sameRules_resume (selection : Selection) (router : Router ω) (moment : Moment ω)
    (answer : Answer) : router.SameRules (selection.resume router moment answer).1 := by
  have goes := selection.goesOn ⟨router, moment, answer⟩
  generalize selection.listed? _ = list at goes
  generalize selection.resume router moment answer = after at goes ⊢
  cases goes with
  | stays => exact .refl router
  | waits => exact ⟨_, _, rfl⟩
  | chooses => exact ⟨_, _, rfl⟩

omit [Weight ω] in
/-- To engage the chosen instance keeps the rules of the router: it opens a tally at most. -/
theorem Invocation.sameRules_engage (invocation : Invocation) (router : Router ω)
    (moment : Moment ω) (selection : Selection) :
    router.SameRules (invocation.engage router moment selection).1 := by
  unfold engage
  split <;> exact ⟨_, _, rfl⟩

/-- An invocation whose selection goes on keeps the rules of the router. -/
theorem Invocation.sameRules_advance (invocation : Invocation) (router : Router ω)
    (moment : Moment ω) (selection : Selection) (answer : Answer) :
    router.SameRules (invocation.advance router moment selection answer).1 :=
  (selection.sameRules_resume router moment answer).trans (invocation.sameRules_engage _ _ _)

omit [Weight ω] in
/-- To close an attempt keeps the rules of the router: it counts on its tally. -/
theorem Invocation.Closing.sameRules {invocation : Invocation} {encounter : Encounter ω}
    {router : Router ω} (closing : invocation.Closing encounter router) :
    encounter.router.SameRules router := by
  cases closing <;> exact ⟨_, _, rfl⟩

/-- An invocation that goes on in any way keeps the rules of the router. -/
theorem Invocation.sameRules_resume (invocation : Invocation) (router : Router ω)
    (moment : Moment ω) (answer : Answer) :
    router.SameRules (invocation.resume router moment answer).1 := by
  have goes := invocation.goesOn ⟨router, moment, answer⟩
  generalize invocation.selecting? _ = selecting at goes
  generalize invocation.resume router moment answer = after at goes ⊢
  cases goes with
  | stays => exact .refl router
  | ends router closing => exact closing.sameRules
  | rests router closing => exact closing.sameRules
  | selects next selection met closing =>
    exact closing.sameRules.trans
      (next.sameRules_advance met.router met.moment selection met.answer)

/-- A task that goes on leaves the rules of its client as they are. -/
theorem Task.sameRules_resume (task : Task) (client : Client ω) (moment : Moment ω)
    (answer : Answer) :
    client.router.SameRules (task.resume client moment answer).1.router := by
  cases task with
  | looking lookup => exact ⟨_, _, rfl⟩
  | choosing selection => exact selection.sameRules_resume client.router moment answer
  | invoking invocation => exact invocation.sameRules_resume client.router moment answer
  | sweeping sweep => exact ⟨_, _, rfl⟩
  | _ =>
    rw [router_resume]
    · exact .refl client.router
    · exact trivial

/-- A background job that goes on keeps the rules of the router. -/
theorem Job.sameRules_resume (job : Job) (router : Router ω) (moment : Moment ω)
    (answer : Answer) : router.SameRules (job.resume router moment answer).1 := by
  cases job with
  | aggregating interval due => cases due <;> cases answer <;> exact ⟨_, _, rfl⟩
  | refreshing interval due sweep =>
    cases due <;> cases sweep <;> cases answer <;> exact ⟨_, _, rfl⟩

/-- Only adjustments change the rules of a client: tasks and jobs move the cache and the balance
of its router, and nothing else in it. -/
theorem World.sameRules_step (world : World ω) (event : Event ω)
    (calm : ∀ adjustment, event ≠ .adjust adjustment) :
    world.client.router.SameRules (world.step event).client.router := by
  cases event with
  | answer place draw answer =>
    cases roused : world.roused? place answer with
    | none =>
      simp only [step, roused]
      exact .refl _
    | some entry =>
      simp only [step, roused]
      exact entry.2.sameRules_resume world.client _ answer
  | leave place =>
    simp only [step]
    split <;> exact ⟨_, _, rfl⟩
  | work ticket draw answer =>
    cases found : world.client.jobs.lookup ticket with
    | none =>
      simp only [step, found]
      exact .refl _
    | some job =>
      simp only [step, found]
      split
      · simp only [Client.resumeJob, moment, found]
        exact job.sameRules_resume world.client.router _ answer
      · exact .refl _
  | adjust adjustment => exact absurd rfl (calm adjustment)
  | pass span => exact .refl _
  | request request => exact .refl _
  | dismiss => exact ⟨_, _, rfl⟩

/-- What holds of each selection before it begins, and of each one that has gone on if it did
before, holds at all times of those that tasks wait for.

A task was there, has been asked for or has gone on. In the last case its selection was under way,
or it is the next one of an invocation, which has just begun. -/
theorem World.selections_step (Holds : Selection → Prop) (world : World ω) (event : Event ω)
    (asked : ∀ selection : Selection, selection.phase = .asked → Holds selection)
    (goes : ∀ (selection : Selection) (met : Encounter ω) (draw : Draw ω) (ticket : Ticket)
      (answer : Answer),
      met.Meets ⟨world.client.router, world.moment ticket draw, answer⟩ → Holds selection →
        Holds (selection.resume met.router met.moment met.answer).2)
    (all : ∀ ticket task, (ticket, task) ∈ world.tasks → ∀ selection,
      task.selection? = some selection → Holds selection) :
    ∀ ticket task, (ticket, task) ∈ (world.step event).tasks → ∀ selection,
      task.selection? = some selection → Holds selection := by
  intro ticket task member after found
  rcases world.mem_tasks_step event ticket task member with
    there | ⟨request, _, rfl⟩ | ⟨place, draw, answer, before, _, roused, rfl⟩
  · exact all ticket task there after found
  · exact asked after (request.asked_of_selection? after found)
  · obtain ⟨place, await, waits, fits, _⟩ := world.roused?_eq_some _ answer ticket before roused
    have own := all ticket before (List.mem_of_getElem? place)
    obtain ⟨selection, met, selecting, rfl⟩ :=
      before.selection?_resume _ _ answer await waits fits after found
    cases before with
    | choosing current =>
      cases selecting
      exact goes selection _ draw ticket answer ⟨rfl, _, rfl⟩ (own _ rfl)
    | invoking invocation =>
      have waiting : invocation.await?.isSome = true := Option.isSome_iff_exists.mpr ⟨_, waits⟩
      obtain ⟨_, meets⟩ := invocation.selecting?_open _ waiting selection met selecting
      refine goes selection met draw ticket answer meets ?_
      rcases invocation.selecting?_eq _ selection met selecting with
        ⟨phase, rfl⟩ | ⟨further, -, rfl, -⟩
      · obtain ⟨service, policy, ended, failed, current⟩ := invocation
        cases phase
        exact own selection rfl
      · exact asked _ rfl
    | _ => cases selecting

end Steps

end CallRouting
