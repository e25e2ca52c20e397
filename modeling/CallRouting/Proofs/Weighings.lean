import CallRouting.Proofs.Accounts
import CallRouting.Proofs.Choices

/-!
# How tables of weights come and go

A table of weights is computed from a list of candidates and their average latencies: in
a round over all books, for one service on request, or by a choice that finds a table of
another length. Nothing else puts a table into a book. So the book of a service holds the
table that was computed for it last, in every run, and this is also the table from which
candidates are drawn.
-/

namespace CallRouting

/-- Whole numbers, in which runs can be computed. Quotients are rounded down. -/
instance : Weight Int where
  quotient a b := (a.toNat / b.toNat : Nat)
  decideLE _ _ := inferInstance
  decideLT _ _ := inferInstance

variable {ω : Type}

/-- What happens with the tables of weights. -/
inductive Weighing (ω : Type)
  /-- The table of a service is computed from candidates with these average latencies. -/
  | computed (service : String) (weighed : List (Instance × ω))
  /-- A candidate is drawn by a table. -/
  | sampled (service : String) (candidates : List Instance) (table : List ω)

/-- What was weighed last for a service, when something else was weighed before. -/
def Weighing.latest (service : String) (before : Option (List (Instance × ω))) :
    Weighing ω → Option (List (Instance × ω))
  | .computed other weighed => if other = service then some weighed else before
  | .sampled .. => before

/-- What was weighed last for a service. -/
def lastWeighed? (service : String) (log : List (Weighing ω)) : Option (List (Instance × ω)) :=
  log.foldl (Weighing.latest service) none

/-- What was weighed last in a longer log is what the rest makes of what was last before. -/
theorem lastWeighed?_append (service : String) (log more : List (Weighing ω)) :
    lastWeighed? service (log ++ more) =
      more.foldl (Weighing.latest service) (lastWeighed? service log) :=
  List.foldl_append

/-- What was weighed stays the last if nothing is computed for the service any more. -/
theorem foldl_latest_of_quiet (service : String) (before : Option (List (Instance × ω)))
    (log : List (Weighing ω)) (quiet : ∀ weighed, .computed service weighed ∉ log) :
    log.foldl (Weighing.latest service) before = before := by
  induction log with
  | nil => rfl
  | cons weighing rest inductionHypothesis =>
    have unchanged : weighing.latest service before = before := by
      cases weighing with
      | sampled other candidates table => rfl
      | computed other weighed =>
        refine if_neg fun same => quiet weighed ?_
        exact same ▸ List.mem_cons_self
    rw [List.foldl_cons, unchanged]
    exact inductionHypothesis fun weighed later => quiet weighed (List.mem_cons_of_mem _ later)

section Tables

variable [Weight ω]

/-- The table of candidates with their average latencies. -/
def tableOf (weighed : List (Instance × ω)) : List ω := weightTable (weighed.map Prod.snd)

/-- The table has an entry for each candidate. -/
theorem length_tableOf (weighed : List (Instance × ω)) :
    (tableOf weighed).length = weighed.length := by
  simp [tableOf, length_weightTable]

end Tables

namespace Ledger

/-- To look for the current tally of an instance changes no table. -/
theorem weights_access (ledger : Ledger ω) (now : Instant) (service other : String)
    (x : Instance) :
    ((ledger.access now service x).1.book other).weights = (ledger.book other).weights := by
  unfold access
  split
  · rfl
  · simp only [openTally, book, Registry.find?_put]
    by_cases same : service = other <;> simp [same]

/-- A purge changes no table. -/
theorem weights_purge (ledger : Ledger ω) (now : Instant) (service other : String) :
    ((ledger.purge now service).book other).weights = (ledger.book other).weights := by
  simp only [purge, book, Registry.find?_modify]
  by_cases same : service = other
  · cases ledger.services.find? other <;> simp [same]
  · simp [same]

/-- The search for the least busy candidate changes no table. -/
theorem weights_leastActive (ledger : Ledger ω) (now : Instant)
    (best : Option (Instance × UInt64)) (candidates : List Instance) (service : String) :
    ((ledger.leastActive now best candidates).1.book service).weights =
      (ledger.book service).weights := by
  induction candidates generalizing ledger best with
  | nil => rfl
  | cons x rest inductionHypothesis =>
    have opened := ledger.weights_access now x.service service x
    unfold leastActive
    dsimp only
    split
    · split
      · exact (inductionHypothesis _ _).trans opened
      · exact (inductionHypothesis _ _).trans opened
    · exact (inductionHypothesis _ _).trans opened

section Weights

variable [Weight ω]

/-- The reading of averages changes no table. -/
theorem weights_averages (ledger : Ledger ω) (now : Instant) (service other : String)
    (candidates : List Instance) :
    ((ledger.averages now service candidates).1.book other).weights =
      (ledger.book other).weights := by
  induction candidates generalizing ledger with
  | nil => rfl
  | cons x rest inductionHypothesis =>
    exact (inductionHypothesis _).trans (ledger.weights_access now service other x)

/-- There is an average for each candidate. -/
theorem length_averages (ledger : Ledger ω) (now : Instant) (service : String)
    (candidates : List Instance) :
    (ledger.averages now service candidates).2.length = candidates.length := by
  induction candidates generalizing ledger with
  | nil => rfl
  | cons x rest inductionHypothesis => exact congrArg (· + 1) (inductionHypothesis _)

/-- The candidates with the average latencies that a table is computed from. -/
def weighed (ledger : Ledger ω) (now : Instant) (service : String) (candidates : List Instance) :
    List (Instance × ω) :=
  candidates.zip (ledger.averages now service candidates).2

/-- The candidates that are weighed are all of them, in order. -/
theorem map_fst_weighed (ledger : Ledger ω) (now : Instant) (service : String)
    (candidates : List Instance) :
    (ledger.weighed now service candidates).map Prod.fst = candidates :=
  List.map_fst_zip (Nat.le_of_eq (ledger.length_averages now service candidates).symm)

/-- The table that is computed is that of the candidates with their averages. -/
theorem aggregate_snd (ledger : Ledger ω) (now : Instant) (service : String)
    (candidates : List Instance) :
    (ledger.aggregate now service candidates).2 = tableOf (ledger.weighed now service candidates) :=
  congrArg weightTable
    (List.map_snd_zip (Nat.le_of_eq (ledger.length_averages now service candidates))).symm

/-- A new table comes into the book of its service, and no other table changes. -/
theorem weights_aggregate (ledger : Ledger ω) (now : Instant) (service other : String)
    (candidates : List Instance) :
    ((ledger.aggregate now service candidates).1.book other).weights =
      if service = other then some (tableOf (ledger.weighed now service candidates))
      else (ledger.book other).weights := by
  rw [← aggregate_snd]
  have averaged := ledger.weights_averages now service other candidates
  simp only [aggregate]
  by_cases same : service = other
  · simp [book, Registry.find?_put, same]
  · rw [if_neg same, ← averaged]
    simp [book, Registry.find?_put, same]

/-- What a round does for one service. -/
def serve (ledger : Ledger ω) (now : Instant) (candidates : String → Option (List Instance))
    (service : String) : Ledger ω :=
  let ledger := ledger.purge now service
  match candidates service with
  | none | some [] => ledger
  | some found => (ledger.aggregate now service found).1

/-- A round serves one service after the other. -/
theorem aggregateAll_fst (ledger : Ledger ω) (now : Instant)
    (candidates : String → Option (List Instance)) :
    (ledger.aggregateAll now candidates).1 =
      ledger.services.keys.foldl (fun ledger service => ledger.serve now candidates service)
        ledger := by
  unfold aggregateAll
  refine (List.foldl_hom Prod.fst ?_).symm
  rintro ⟨current, count⟩ service
  cases found : candidates service with
  | none => simp only [serve, found]
  | some instances => cases instances <;> simp only [serve, found]

/-- What is weighed in a round. -/
def roundWeighings (now : Instant) (candidates : String → Option (List Instance)) :
    Ledger ω → List String → List (Weighing ω)
  | _, [] => []
  | ledger, service :: rest =>
    let weighing : Option (Weighing ω) :=
      match candidates service with
      | none | some [] => none
      | some found =>
        some (.computed service ((ledger.purge now service).weighed now service found))
    weighing.toList ++ roundWeighings now candidates (ledger.serve now candidates service) rest

/-- A table that has another length than the candidates is computed anew. -/
def fittingWeighing? (ledger : Ledger ω) (now : Instant) (service : String)
    (candidates : List Instance) : Option (Weighing ω) :=
  match (ledger.book service).weights with
  | none => none
  | some table =>
    if table.length = candidates.length then none
    else some (.computed service (ledger.weighed now service candidates))

end Weights

end Ledger

section Logs

variable [Weight ω]

/-- What is weighed when a strategy chooses. -/
def Balance.weighings (balance : Balance ω) (strategy : Strategy) (now : Instant)
    (service : String) (candidates : List Instance) : List (Weighing ω) :=
  match strategy with
  | .weightedResponseTime =>
    if candidates.isEmpty then []
    else
      let ledger := balance.ledger.openBook service
      let sampled : Option (Weighing ω) := do
        let table ← (ledger.fittingTable now service candidates).2
        let _ ← drawEnd? table
        pure (.sampled service candidates table)
      (ledger.fittingWeighing? now service candidates).toList ++ sampled.toList
  | _ => []

/-- What is weighed when a selection goes on. -/
def Selection.weighings (selection : Selection) (encounter : Encounter ω) : List (Weighing ω) :=
  match selection.listed? encounter with
  | some listed =>
    encounter.router.balance.weighings (selection.settled encounter.router) encounter.moment.now
      selection.service (avoiding (encounter.router.candidates listed) selection.failed)
  | none => []

/-- What is weighed when a task goes on. -/
def Task.weighings (task : Task) (encounter : Encounter ω) : List (Weighing ω) :=
  match task.selecting? encounter with
  | some (selection, met) => selection.weighings met
  | none => []

/-- What is weighed in a round over all books. -/
def Router.weighings (router : Router ω) (now : Instant) : List (Weighing ω) :=
  router.balance.ledger.roundWeighings now router.cachedCandidates
    router.balance.ledger.services.keys

/-- What is weighed when a job goes on. -/
def Job.weighings (job : Job) (encounter : Encounter ω) : List (Weighing ω) :=
  match job, encounter.answer with
  | .aggregating _ none, .turn | .aggregating _ (some _), .time =>
    encounter.router.weighings encounter.moment.now
  | _, _ => []

/-- What is weighed at an adjustment. -/
def Adjustment.weighings (adjustment : Adjustment ω) (now : Instant) (router : Router ω) :
    List (Weighing ω) :=
  match adjustment with
  | .aggregate => router.weighings now
  | .aggregateService service candidates =>
    [.computed service (router.balance.ledger.weighed now service candidates)]
  | .pick strategy _ service candidates => router.balance.weighings strategy now service candidates
  | _ => []

/-- What is weighed at an event. -/
def World.weighings (world : World ω) : Event ω → List (Weighing ω)
  | .answer place draw answer =>
    match world.roused? place answer with
    | some (ticket, task) =>
      task.weighings ⟨world.client.router, world.moment ticket draw, answer⟩
    | none => []
  | .work ticket draw answer =>
    match world.client.jobs.lookup ticket with
    | some job =>
      if world.permits ticket job.await answer then
        job.weighings ⟨world.client.router, world.moment ticket draw, answer⟩
      else []
    | none => []
  | .adjust adjustment => adjustment.weighings world.now world.client.router
  | .pass _ | .request _ | .leave _ | .dismiss => []

namespace Ledger

/-- Each book of a ledger holds the table that was computed for it last. -/
def Follows (log : List (Weighing ω)) (ledger : Ledger ω) : Prop :=
  ∀ service, (ledger.book service).weights = (lastWeighed? service log).map tableOf

/-- What happens between two ledgers to the tables is what a log says. -/
def Weighs (before : Ledger ω) (log : List (Weighing ω)) (after : Ledger ω) : Prop :=
  ∀ past, before.Follows past → after.Follows (past ++ log)

namespace Weighs

/-- What is weighed in two parts is weighed in the whole. -/
theorem trans {first second third : Ledger ω} {log more : List (Weighing ω)}
    (before : first.Weighs log second) (after : second.Weighs more third) :
    first.Weighs (log ++ more) third := by
  intro past follows
  rw [← List.append_assoc]
  exact after _ (before past follows)

/-- Where no table changes, nothing is weighed. -/
theorem nothing {before after : Ledger ω}
    (same : ∀ service, (after.book service).weights = (before.book service).weights) :
    before.Weighs [] after := by
  intro past follows service
  rw [List.append_nil, same, follows]

/-- Where nothing happens nothing is weighed. -/
theorem refl (ledger : Ledger ω) : ledger.Weighs [] ledger := nothing fun _ => rfl

/-- A draw changes no table. -/
theorem sampled {before after : Ledger ω} {log : List (Weighing ω)}
    (weighs : before.Weighs log after) (service : String) (candidates : List Instance)
    (table : List ω) : before.Weighs (log ++ [.sampled service candidates table]) after := by
  intro past follows other
  rw [← List.append_assoc, lastWeighed?_append]
  exact weighs past follows other

end Weighs

/-- A new table is one computation from the candidates and their averages. -/
theorem weighs_aggregate (ledger : Ledger ω) (now : Instant) (service : String)
    (candidates : List Instance) :
    ledger.Weighs [.computed service (ledger.weighed now service candidates)]
      (ledger.aggregate now service candidates).1 := by
  intro past follows other
  rw [weights_aggregate, lastWeighed?_append]
  simp only [List.foldl_cons, List.foldl_nil, Weighing.latest]
  split
  · rfl
  · exact follows other

/-- A round computes the tables of the services that it serves, one after the other. The purge
before each of them changes no table. -/
theorem weighs_round (ledger : Ledger ω) (now : Instant)
    (candidates : String → Option (List Instance)) (services : List String) :
    ledger.Weighs (roundWeighings now candidates ledger services)
      (services.foldl (fun ledger service => ledger.serve now candidates service) ledger) := by
  induction services generalizing ledger with
  | nil => exact .refl ledger
  | cons service rest inductionHypothesis =>
    refine .trans ?_ (inductionHypothesis _)
    have purged : ledger.Weighs [] (ledger.purge now service) :=
      .nothing (ledger.weights_purge now service)
    unfold serve
    dsimp only
    split
    · exact purged
    · exact purged
    · exact purged.trans (weighs_aggregate _ now service _)

/-- To make a table fit is a computation if it does not fit as it is, and nothing otherwise. -/
theorem weighs_fittingTable (ledger : Ledger ω) (now : Instant) (service : String)
    (candidates : List Instance) :
    ledger.Weighs (ledger.fittingWeighing? now service candidates).toList
      (ledger.fittingTable now service candidates).1 := by
  cases kept : (ledger.book service).weights with
  | none =>
    simp only [fittingTable, fittingWeighing?, kept]
    exact .refl ledger
  | some table =>
    by_cases length : table.length = candidates.length
    · simp only [fittingTable, fittingWeighing?, kept, length, if_true]
      exact .refl ledger
    · simp only [fittingTable, fittingWeighing?, kept, length, if_false]
      exact ledger.weighs_aggregate now service candidates

end Ledger

namespace Balance

/-- A choice by weight puts into the book what it has weighed.

A table that does not fit is computed anew before the draw; the draw and the turn that may stand
in for it change no table. -/
theorem weighs_selectWeighted (balance : Balance ω) (draw : Draw ω) (now : Instant)
    (service : String) (candidates : List Instance) (nonempty : candidates.isEmpty = false) :
    balance.ledger.Weighs (balance.weighings .weightedResponseTime now service candidates)
      (balance.selectWeighted draw now service candidates).1.ledger := by
  have opened : balance.ledger.Weighs [] (balance.ledger.openBook service) :=
    .nothing fun other => by rw [Ledger.book_openBook]
  have fitted := opened.trans
    ((balance.ledger.openBook service).weighs_fittingTable now service candidates)
  simp only [weighings, selectWeighted, nonempty]
  generalize (balance.ledger.openBook service).fittingTable now service candidates = fit
    at fitted ⊢
  obtain ⟨ledger, table⟩ := fit
  cases table with
  | none => simpa [selectUnweighted] using fitted
  | some table =>
    cases ending : drawEnd? table with
    | none => simpa [ending, selectUnweighted] using fitted
    | some last => simpa [ending] using fitted.sampled service candidates table

/-- A choice puts into the books what it has weighed, whatever the strategy is.

Nothing is weighed without candidates. The other strategies change no table, and a choice by
weight changes that of its service only if it does not fit. -/
theorem weighs_choose (balance : Balance ω) (strategy : Strategy) (draw : Draw ω) (now : Instant)
    (service : String) (candidates : List Instance) :
    balance.ledger.Weighs (balance.weighings strategy now service candidates)
      (balance.choose strategy draw now service candidates).1.ledger := by
  unfold choose
  cases empty : candidates.isEmpty with
  | true =>
    have nothing : balance.weighings strategy now service candidates = [] := by
      cases strategy <;> simp [weighings, empty]
    rw [nothing]
    exact .refl _
  | false =>
    have selected : balance.ledger.Weighs (balance.weighings strategy now service candidates)
        (balance.select strategy draw now service candidates).1.ledger := by
      cases strategy with
      | roundRobin => exact .refl _
      | retryRoundRobin => exact .refl _
      | bestAvailable =>
        exact .nothing (balance.ledger.weights_leastActive now none candidates)
      | weightedResponseTime =>
        exact balance.weighs_selectWeighted draw now service candidates empty
      | random =>
        unfold select
        dsimp only
        split <;> exact .refl _
      | custom name rule => exact .refl _
    simp only [Bool.false_eq_true, if_false]
    generalize balance.select strategy draw now service candidates = picked at selected ⊢
    obtain ⟨after, picked⟩ := picked
    cases picked <;> exact selected

end Balance

/-- A selection that goes on puts into the books what it has weighed. -/
theorem Selection.weighs_resume (selection : Selection) (encounter : Encounter ω) :
    encounter.router.balance.ledger.Weighs (selection.weighings encounter)
      (selection.resume encounter.router encounter.moment encounter.answer).1.balance.ledger := by
  have goes := selection.goesOn encounter
  unfold weighings
  generalize selection.listed? encounter = list at goes ⊢
  generalize selection.resume encounter.router encounter.moment encounter.answer = after
    at goes ⊢
  cases goes with
  | stays => exact .refl _
  | waits => exact .refl _
  | chooses cache lookup looked listed balance picked? choice =>
    have weighs := encounter.router.balance.weighs_choose (selection.settled encounter.router)
      encounter.moment.draw encounter.moment.now selection.service
      (avoiding (encounter.router.candidates listed) selection.failed)
    rwa [choice] at weighs

namespace Invocation

/-- To start the work, and to close the statistics of an attempt, changes no table. -/
theorem weighs_engage (invocation : Invocation) (router : Router ω) (moment : Moment ω)
    (selection : Selection) :
    router.balance.ledger.Weighs []
      (invocation.engage router moment selection).1.balance.ledger := by
  unfold engage
  split
  · exact .refl _
  · rename_i x _
    exact .nothing fun service =>
      router.balance.ledger.weights_access moment.now x.service service x
  · exact .refl _

omit [Weight ω] in
/-- To account for an attempt changes no table. -/
theorem weights_account (router : Router ω) (policy : RetryPolicy) (attempt : Attempt)
    (now : Instant) (outcome : Except Failure Reply) (service : String) :
    ((account router policy attempt now outcome).balance.ledger.book service).weights =
      (router.balance.ledger.book service).weights := by
  unfold account
  dsimp only
  split <;> rfl

/-- An invocation whose selection goes on weighs what the selection weighs: to engage the
instance changes no table. -/
theorem weighs_advance (invocation : Invocation) (encounter : Encounter ω)
    (selection : Selection) :
    encounter.router.balance.ledger.Weighs (selection.weighings encounter)
      (invocation.advance encounter.router encounter.moment selection
        encounter.answer).1.balance.ledger := by
  have selected := selection.weighs_resume encounter
  rw [← List.append_nil (selection.weighings encounter)]
  exact selected.trans (invocation.weighs_engage _ _ _)

/-- Nothing is weighed when an attempt is closed. -/
theorem Closing.weighs {invocation : Invocation} {encounter : Encounter ω} {router : Router ω}
    (closing : invocation.Closing encounter router) :
    encounter.router.balance.ledger.Weighs [] router.balance.ledger := by
  cases closing with
  | nothing => exact .refl _
  | attempt attempt outcome => exact .nothing (weights_account _ _ attempt _ outcome)

/-- An invocation that goes on puts into the books what it has weighed. -/
theorem weighs_resume (invocation : Invocation) (encounter : Encounter ω) :
    encounter.router.balance.ledger.Weighs ((Task.invoking invocation).weighings encounter)
      (invocation.resume encounter.router encounter.moment encounter.answer).1.balance.ledger := by
  have goes := invocation.goesOn encounter
  simp only [Task.weighings, Task.selecting?]
  generalize invocation.selecting? encounter = selecting at goes ⊢
  generalize invocation.resume encounter.router encounter.moment encounter.answer = after
    at goes ⊢
  cases goes with
  | stays => exact .refl _
  | ends router closing => exact closing.weighs
  | rests router closing => exact closing.weighs
  | selects next selection met closing => exact closing.weighs.trans (next.weighs_advance met _)

end Invocation

/-- A task that goes on puts into the books what it has weighed. -/
theorem Task.weighs_resume (task : Task) (client : Client ω) (moment : Moment ω)
    (answer : Answer) :
    client.router.balance.ledger.Weighs (task.weighings ⟨client.router, moment, answer⟩)
      (task.resume client moment answer).1.router.balance.ledger := by
  cases task with
  | choosing selection => exact selection.weighs_resume ⟨client.router, moment, answer⟩
  | invoking invocation => exact invocation.weighs_resume ⟨client.router, moment, answer⟩
  | looking lookup => exact .refl _
  | sweeping sweep => exact .refl _
  | _ =>
    rw [router_resume]
    · exact .refl _
    · exact trivial

/-- A round of a router weighs what the log of the round says. -/
theorem Router.weighs_aggregate (router : Router ω) (now : Instant) :
    router.balance.ledger.Weighs (router.weighings now)
      (router.aggregate now).1.balance.ledger := by
  have round := router.balance.ledger.weighs_round now router.cachedCandidates
    router.balance.ledger.services.keys
  rw [← Ledger.aggregateAll_fst] at round
  exact round

/-- A background job that goes on weighs what its log says. -/
theorem Job.weighs_resume (job : Job) (encounter : Encounter ω) :
    encounter.router.balance.ledger.Weighs (job.weighings encounter)
      (job.resume encounter.router encounter.moment encounter.answer).1.balance.ledger := by
  obtain ⟨router, moment, answer⟩ := encounter
  have round := router.weighs_aggregate moment.now
  cases job with
  | aggregating interval due =>
    cases due <;> cases answer <;> first
      | exact round
      | exact .refl _
  | refreshing interval due sweep => cases due <;> cases sweep <;> cases answer <;> exact .refl _

/-- An adjustment weighs what its log says. -/
theorem Adjustment.weighs_apply (adjustment : Adjustment ω) (now : Instant) (router : Router ω) :
    router.balance.ledger.Weighs (adjustment.weighings now router)
      (adjustment.apply now router).balance.ledger := by
  cases adjustment with
  | aggregate => exact router.weighs_aggregate now
  | aggregateService service candidates =>
    exact router.balance.ledger.weighs_aggregate now service candidates
  | purge service => exact .nothing (router.balance.ledger.weights_purge now service)
  | openBook service =>
    exact .nothing fun other => by rw [← router.balance.ledger.book_openBook service]; rfl
  | consult service x =>
    exact .nothing fun other => router.balance.ledger.weights_access now service other x
  | pick strategy draw service candidates =>
    exact router.balance.weighs_choose strategy draw now service candidates
  | addFilter filter => exact .refl _
  | registerStrategy strategy => exact .refl _
  | declarePolicy declared => exact .refl _
  | invalidate service => exact .refl _

namespace World

/-- Each event puts into the books what is weighed at it.

Only tasks and jobs that go on weigh anything, and adjustments; to come, to go away and to pass
time do not. -/
theorem weighs_step (world : World ω) (event : Event ω) :
    world.ledger.Weighs (world.weighings event) (world.step event).ledger := by
  cases event with
  | answer place draw answer =>
    cases roused : world.roused? place answer with
    | none =>
      simp only [weighings, step, roused]
      exact .refl _
    | some entry =>
      simp only [weighings, step, roused]
      exact entry.2.weighs_resume world.client _ answer
  | work ticket draw answer =>
    cases found : world.client.jobs.lookup ticket with
    | none =>
      simp only [weighings, step, found]
      exact .refl _
    | some job =>
      simp only [weighings, step, found]
      split
      · simp only [ledger, Client.resumeJob, moment, found]
        exact job.weighs_resume ⟨world.client.router, _, answer⟩
      · exact .refl _
  | leave place =>
    simp only [weighings, step]
    split <;> exact .refl _
  | adjust adjustment => exact adjustment.weighs_apply world.now world.client.router
  | pass span => exact .refl _
  | request request => exact .refl _
  | dismiss => exact .refl _

/-- In each run, each book holds the table that was computed for it last. -/
theorem run_follows (client : Client ω) (now : Instant) (lifetime : Duration)
    (fresh : client.router.balance.ledger = .empty lifetime) (events : List (Event ω)) :
    ((around client now).run events).ledger.Follows
      ((around client now).observed weighings events) := by
  have start : (around client now).ledger.Follows [] := by
    intro service
    simp only [around, ledger, fresh]
    rfl
  simpa only [List.nil_append] using
    observed_induction weighings (fun log world => world.ledger.Follows log)
      (fun log world event follows => world.weighs_step event log follows) [] _ events start

end World

end Logs

end CallRouting
