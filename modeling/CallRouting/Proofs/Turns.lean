import CallRouting.Proofs.Elsewhere

/-!
# Whose turn it is

All choices by round robin share one rotation, which counts turns for each service. A choice
among some candidates of the service takes a turn; a choice that finds none takes none, and
so does a choice by any other strategy, for another service, or for a further attempt. So in
each run, whatever else happens in it, the turns for a service follow one another without a
gap.
-/

namespace CallRouting

variable {ω : Type}

/-- A choice for a service among some candidates, and what came of it. -/
structure Pick where
  /-- Whether the strategy was left to the settings: at the first attempt of an invocation, or
  when a caller asks for an instance and names none. -/
  plain : Bool
  strategy : Strategy
  candidates : List Instance
  /-- The place in a list of so many candidates at which the rotation stands. -/
  place? : Option Nat
  picked? : Option Instance

namespace Pick

/-- Whether it goes by the round robin that all share. -/
def takesTurn (pick : Pick) : Bool := pick.strategy.isFallback

/-- A pick goes to the candidate whose turn it is after so many turns. -/
structure InTurn (taken : UInt64) (pick : Pick) : Prop where
  some : pick.candidates ≠ []
  place : pick.place? = Option.some (taken.toNat % pick.candidates.length)
  picked : pick.picked? = pick.candidates[taken.toNat % pick.candidates.length]?

end Pick

/-- Between two rotations the turns of a service are those of a list of picks, in order. -/
structure Rotation.Turned (service : String) (before : Rotation) (picks : List Pick)
    (after : Rotation) : Prop where
  counted : after.count service =
    before.count service + UInt64.ofNat (picks.filter Pick.takesTurn).length
  inTurn : ∀ number (pick : Pick), (picks.filter Pick.takesTurn)[number]? = some pick →
    pick.InTurn (before.count service + UInt64.ofNat number)

namespace Rotation.Turned

variable {service : String} {first second third : Rotation}

/-- Picks that take no turn lead from a count to the same count. -/
theorem nothing (picks : List Pick) (others : ∀ pick ∈ picks, pick.takesTurn = false)
    (same : second.count service = first.count service) :
    Turned service first picks second := by
  have none : picks.filter Pick.takesTurn = [] := by
    refine List.filter_eq_nil_iff.mpr fun pick member => ?_
    rw [others pick member]
    exact Bool.false_ne_true
  constructor
  · rw [none, same]
    exact (UInt64.add_zero _).symm
  · intro number pick there
    rw [none] at there
    cases there

/-- Without picks no turn is taken. -/
theorem refl (rotation : Rotation) : Turned service rotation [] rotation :=
  nothing [] (fun _ none => absurd none List.not_mem_nil) rfl

/-- A pick that takes the turn and is the one whose turn it is leads from a count to the next one.
-/
theorem one (pick : Pick) (turn : pick.takesTurn = true)
    (counted : second.count service = first.count service + 1)
    (inTurn : pick.InTurn (first.count service)) : Turned service first [pick] second := by
  have taken : [pick].filter Pick.takesTurn = [pick] := by rw [List.filter_singleton, turn]; rfl
  constructor
  · rw [taken, counted]
    rfl
  · intro number other there
    rw [taken] at there
    cases number with
    | zero =>
      obtain rfl := Option.some.inj there
      have none : first.count service + UInt64.ofNat 0 = first.count service := UInt64.add_zero _
      rwa [none]
    | succ number => cases there

/-- The turns of two series of picks follow each other. The counter may wrap around between
them. -/
theorem trans {picks more : List Pick} (before : Turned service first picks second)
    (after : Turned service second more third) : Turned service first (picks ++ more) third := by
  constructor
  · rw [after.counted, before.counted, List.filter_append, List.length_append, UInt64.ofNat_add,
      UInt64.add_assoc]
  · intro number pick there
    rw [List.filter_append] at there
    rcases Nat.lt_or_ge number (picks.filter Pick.takesTurn).length with early | late
    · rw [List.getElem?_append_left early] at there
      exact before.inTurn number pick there
    · rw [List.getElem?_append_right late] at there
      have later := after.inTurn _ pick there
      rw [before.counted, UInt64.add_assoc, ← UInt64.ofNat_add, Nat.add_sub_cancel' late] at later
      exact later

end Rotation.Turned

/-- The pick that a choice makes for the service with some result, if there are candidates. -/
def Balance.picks (balance : Balance ω) (service : String) (plain : Bool) (strategy : Strategy)
    (other : String) (candidates : List Instance) (picked? : Option Instance) : List Pick :=
  if other = service ∧ candidates ≠ [] then
    [⟨plain, strategy, candidates, (balance.rotation.next service candidates.length).2, picked?⟩]
  else []

/-- What a selection has chosen, if it has. -/
def Selection.chosen? (selection : Selection) : Option Instance :=
  match selection.phase with
  | .chosen result => result
  | .asked | .looking .. => none

/-- The pick that a selection makes with some result when it goes on. -/
def Selection.picks (selection : Selection) (service : String) (met : Encounter ω)
    (picked? : Option Instance) : List Pick :=
  match selection.listed? met with
  | some listed =>
    met.router.balance.picks service selection.wanted.isNone (selection.settled met.router)
      selection.service (avoiding (met.router.candidates listed) selection.failed) picked?
  | none => []

section Picks

variable [Weight ω]

/-- The pick that a task makes when it goes on, with the instance that it is bound to then. -/
def Task.picks (task : Task) (service : String) (client : Client ω) (moment : Moment ω)
    (answer : Answer) : List Pick :=
  match task.selecting? ⟨client.router, moment, answer⟩ with
  | some (selection, met) =>
    selection.picks service met (task.resume client moment answer).2.bound?
  | none => []

/-- The pick that is made for a service at an event. -/
def World.picks (service : String) (world : World ω) : Event ω → List Pick
  | .answer place draw answer =>
    match world.roused? place answer with
    | some (ticket, task) => task.picks service world.client (world.moment ticket draw) answer
    | none => []
  | .adjust (.pick strategy draw other candidates) =>
    let balance := world.client.router.balance
    balance.picks service false strategy other candidates
      (balance.choose strategy draw world.now other candidates).2
  | .adjust _ | .pass _ | .request _ | .leave _ | .work .. | .dismiss => []

namespace Balance

/-- Only round robin moves the shared rotation. A choice by weight that has nothing to weigh takes
its turns from a rotation of its own. -/
theorem rotation_choose (balance : Balance ω) (strategy : Strategy) (draw : Draw ω)
    (now : Instant) (service : String) (candidates : List Instance)
    (others : strategy.isFallback = false) :
    (balance.choose strategy draw now service candidates).1.rotation = balance.rotation := by
  have selected :
      (balance.select strategy draw now service candidates).1.rotation = balance.rotation := by
    cases strategy with
    | roundRobin => cases others
    | weightedResponseTime =>
      unfold select selectWeighted
      dsimp only
      split
      · rfl
      · split <;> rfl
    | random =>
      unfold select
      dsimp only
      split <;> rfl
    | _ => rfl
  unfold choose
  split
  · rfl
  · generalize balance.select strategy draw now service candidates = made at selected ⊢
    obtain ⟨after, picked⟩ := made
    cases picked <;> exact selected

/-- Round robin among some candidates takes a turn, and picks the candidate at the place that the
count of turns comes to. -/
theorem turned_roundRobin (balance : Balance ω) (plain : Bool) (draw : Draw ω) (now : Instant)
    (service : String) (candidates : List Instance) (nonempty : candidates ≠ []) :
    balance.rotation.Turned service
      [⟨plain, .roundRobin, candidates, (balance.rotation.next service candidates.length).2,
        (balance.choose .roundRobin draw now service candidates).2⟩]
      (balance.choose .roundRobin draw now service candidates).1.rotation := by
  obtain ⟨counted, picked⟩ := balance.rotation.select_of_ne_nil service candidates nonempty
  have some : candidates.isEmpty = false := by simpa using nonempty
  have place : (balance.rotation.next service candidates.length).2 =
      Option.some ((balance.rotation.count service).toNat % candidates.length) :=
    if_neg (mt List.length_eq_zero_iff.mp nonempty)
  simp only [choose, some, select]
  generalize balance.rotation.select service candidates = taken at counted picked ⊢
  obtain ⟨after, result⟩ := taken
  subst picked
  exact .one _ rfl counted ⟨nonempty, place, rfl⟩

/-- A choice takes the turns that its picks say.

For another service, or from no candidates, it has no picks and moves no count of the given
service. -/
theorem turned_choose (balance : Balance ω) (service : String) (plain : Bool)
    (strategy : Strategy) (draw : Draw ω) (now : Instant) (other : String)
    (candidates : List Instance) :
    balance.rotation.Turned service
      (balance.picks service plain strategy other candidates
        (balance.choose strategy draw now other candidates).2)
      (balance.choose strategy draw now other candidates).1.rotation := by
  unfold picks
  split
  · rename_i here
    obtain ⟨rfl, nonempty⟩ := here
    cases turn : strategy.isFallback with
    | true =>
      obtain rfl : strategy = .roundRobin := by
        cases strategy <;> first
          | rfl
          | cases turn
      exact balance.turned_roundRobin plain draw now other candidates nonempty
    | false =>
      refine .nothing _ ?_ (by rw [balance.rotation_choose strategy draw now other candidates turn])
      intro pick member
      obtain rfl := List.mem_singleton.mp member
      exact turn
  · rename_i elsewhere
    refine .nothing _ (fun _ none => absurd none List.not_mem_nil) ?_
    by_cases empty : candidates = []
    · subst empty
      rfl
    · have away : other ≠ service := fun same => elsewhere ⟨same, empty⟩
      exact (balance.count_choose strategy draw now other candidates away).1

end Balance

/-- A selection that goes on takes the turns that its picks say. -/
theorem Selection.turned_resume (selection : Selection) (service : String) (met : Encounter ω) :
    met.router.balance.rotation.Turned service
      (selection.picks service met
        (selection.resume met.router met.moment met.answer).2.chosen?)
      (selection.resume met.router met.moment met.answer).1.balance.rotation := by
  have goes := selection.goesOn met
  unfold picks
  generalize selection.listed? met = list at goes ⊢
  generalize selection.resume met.router met.moment met.answer = after at goes ⊢
  cases goes with
  | stays => exact .refl _
  | waits => exact .refl _
  | chooses cache lookup looked listed balance picked? choice =>
    have turned := met.router.balance.turned_choose service selection.wanted.isNone
      (selection.settled met.router) met.moment.draw met.moment.now selection.service
      (avoiding (met.router.candidates listed) selection.failed)
    rwa [choice] at turned

namespace Invocation

/-- An invocation whose selection has gone on is bound to what that has chosen, and to nothing if
it has not chosen or was refused. -/
theorem bound?_advance (invocation : Invocation) (router : Router ω) (moment : Moment ω)
    (selection : Selection) (answer : Answer) :
    (Task.invoking (invocation.advance router moment selection answer).2).bound? =
      (selection.resume router moment answer).2.chosen? := by
  unfold advance engage Selection.chosen?
  split
  · rename_i refused
    rw [refused]
    rfl
  · rename_i x engaged
    rw [engaged]
    rfl
  · rename_i refused engaged
    split
    · rename_i result chosen
      cases result with
      | none => exact absurd chosen refused
      | some x => exact absurd chosen (engaged x)
    · rfl
    · rfl

/-- To start the work takes no turn. -/
theorem turned_advance (invocation : Invocation) (selection : Selection) (service : String)
    (met : Encounter ω) :
    met.router.balance.rotation.Turned service
      (selection.picks service met
        (Task.invoking (invocation.advance met.router met.moment selection met.answer).2).bound?)
      (invocation.advance met.router met.moment selection
        met.answer).1.balance.rotation := by
  have engaged (router : Router ω) (current : Selection) :
      (invocation.engage router met.moment current).1.balance.rotation =
        router.balance.rotation := by
    unfold engage
    split <;> rfl
  rw [bound?_advance, advance, engaged]
  exact selection.turned_resume service met

omit [Weight ω] in
/-- To close an attempt takes no turn. -/
theorem Closing.rotation_eq {invocation : Invocation} {encounter : Encounter ω}
    {router : Router ω} (closing : invocation.Closing encounter router) :
    router.balance.rotation = encounter.router.balance.rotation := by
  cases closing <;> rfl

/-- An invocation that goes on takes the turns that its picks say.

To account for an attempt takes no turn, so all turns are those of the selection that goes on or
begins. -/
theorem turned_resume (invocation : Invocation) (service : String) (client : Client ω)
    (moment : Moment ω) (answer : Answer) :
    client.router.balance.rotation.Turned service
      ((Task.invoking invocation).picks service client moment answer)
      (invocation.resume client.router moment answer).1.balance.rotation := by
  have goes := invocation.goesOn ⟨client.router, moment, answer⟩
  simp only [Task.picks, Task.selecting?, Task.resume]
  generalize invocation.selecting? _ = selecting at goes ⊢
  generalize invocation.resume client.router moment answer = after at goes ⊢
  cases goes with
  | stays => exact .refl _
  | ends router closing =>
    rw [closing.rotation_eq]
    exact .refl _
  | rests router closing =>
    rw [closing.rotation_eq]
    exact .refl _
  | selects next selection met closing =>
    have turned := next.turned_advance selection service met
    rwa [closing.rotation_eq] at turned

end Invocation

omit [Weight ω] in
/-- A task that chooses is bound to what its selection has chosen. -/
theorem Selection.bound?_choosing (selection : Selection) :
    (Task.choosing selection).bound? = selection.chosen? := by
  obtain ⟨service, wanted, failed, phase⟩ := selection
  cases phase <;> rfl

/-- A task that goes on takes the turns that its picks say. -/
theorem Task.turned_resume (task : Task) (service : String) (client : Client ω)
    (moment : Moment ω) (answer : Answer) :
    client.router.balance.rotation.Turned service (task.picks service client moment answer)
      (task.resume client moment answer).1.router.balance.rotation := by
  cases task with
  | choosing selection =>
    have turned := selection.turned_resume service ⟨client.router, moment, answer⟩
    rwa [← Selection.bound?_choosing] at turned
  | invoking invocation => exact invocation.turned_resume service client moment answer
  | looking lookup => exact .refl _
  | sweeping sweep => exact .refl _
  | _ =>
    rw [router_resume]
    · exact .refl _
    · exact trivial

/-- A background job takes no turn. -/
theorem Job.rotation_resume (job : Job) (router : Router ω) (moment : Moment ω)
    (answer : Answer) :
    (job.resume router moment answer).1.balance.rotation = router.balance.rotation := by
  cases job with
  | aggregating interval due => cases due <;> cases answer <;> rfl
  | refreshing interval due sweep => cases due <;> cases sweep <;> cases answer <;> rfl

namespace World

/-- At each event the turns that its picks say are taken.

Turns are taken by tasks that choose and by callers who pick by hand; jobs and all other events
take none. -/
theorem turned_step (service : String) (world : World ω) (event : Event ω) :
    world.client.router.balance.rotation.Turned service (world.picks service event)
      (world.step event).client.router.balance.rotation := by
  cases event with
  | answer place draw answer =>
    cases roused : world.roused? place answer with
    | none =>
      simp only [picks, step, roused]
      exact .refl _
    | some entry =>
      simp only [picks, step, roused]
      exact entry.2.turned_resume service world.client _ answer
  | work ticket draw answer =>
    cases found : world.client.jobs.lookup ticket with
    | none =>
      simp only [picks, step, found]
      exact .refl _
    | some job =>
      simp only [picks, step, found]
      split
      · simp only [Client.resumeJob, moment, found]
        rw [job.rotation_resume]
        exact .refl _
      · exact .refl _
  | leave place =>
    simp only [picks, step]
    split <;> exact .refl _
  | adjust adjustment =>
    cases adjustment with
    | pick strategy draw other candidates =>
      exact world.client.router.balance.turned_choose service false strategy draw world.now other
        candidates
    | _ => exact .refl _
  | pass span => exact .refl _
  | request request => exact .refl _
  | dismiss => exact .refl _

/-- In a run the turns that its picks say are taken, in their order. -/
theorem turned_run (service : String) (world : World ω) (events : List (Event ω)) :
    world.client.router.balance.rotation.Turned service
      (world.observed (picks service) events)
      (world.run events).client.router.balance.rotation := by
  have kept := observed_induction (picks service)
    (fun log current => world.client.router.balance.rotation.Turned service log
      current.client.router.balance.rotation)
    (fun _ current event turned => turned.trans (current.turned_step service event))
    [] world events (.refl _)
  rwa [List.nil_append] at kept

end World

end Picks

end CallRouting
