import CallRouting.Proofs.Names

/-!
# Work that keeps to its service

Where lists keep to their names, so does the work on them. The selection of an invocation is
for the service of the invocation, and its lookup too; each instance that is called carries the
name that was asked for, so its calls are counted in the book of that service. It goes by a
strategy that neither draws nor weighs. Whoever loads all lists, be it a task or a job, loads
each of them in any case.

All of this is kept by every step of a task and of a job, and by those that go away.
-/

namespace CallRouting

/-- A strategy that goes by turns or by running calls: it neither draws, nor weighs, nor asks
a rule of the caller. -/
def Strategy.Steady : Strategy → Prop
  | .roundRobin | .bestAvailable | .retryRoundRobin => True
  | .weightedResponseTime | .random | .custom .. => False

/-- A steady strategy is one of the client's own. -/
theorem Strategy.Steady.builtIn {strategy : Strategy} (steady : strategy.Steady) :
    strategy.BuiltIn := by
  cases strategy <;> first
    | exact trivial
    | exact steady.elim

variable {ω : Type}

/-- A router whose lists keep to their names through its filters, and that has a steady
strategy for first attempts. -/
structure Router.Orderly (router : Router ω) : Prop where
  named : router.cache.Named
  keep : ∀ filter ∈ router.filters, filter.KeepsNames
  steady : router.strategy.Steady

namespace Router.Orderly

variable {router : Router ω}

/-- The candidates of an orderly router keep to the name of the list from which they are. -/
theorem candidates (orderly : router.Orderly) (service : String) (instances : List Instance)
    (named : Named service instances) : Named service (router.candidates instances) :=
  named_applyFilters router.filters orderly.keep service instances named

/-- What leaves the rules and the names leaves the router orderly. -/
theorem of_sameRules (orderly : router.Orderly) {after : Router ω} (rules : router.SameRules after)
    (named : after.cache.Named) : after.Orderly := by
  obtain ⟨cache, balance, rfl⟩ := rules
  exact ⟨named, orderly.keep, orderly.steady⟩

end Router.Orderly

namespace Selection

/-- A selection whose lookup is for its service. -/
def Orderly (selection : Selection) : Prop :=
  ∀ strategy lookup, selection.phase = .looking strategy lookup →
    lookup.service = selection.service ∧ lookup.Named

/-- A selection that goes by a steady strategy, if not by the configured one. -/
structure Steady (selection : Selection) : Prop where
  wanted : ∀ strategy, selection.wanted = some strategy → strategy.Steady
  looking : ∀ strategy lookup, selection.phase = .looking strategy lookup → strategy.Steady

/-- A steady selection settles for a steady strategy: the wanted one, or the one that is
configured. -/
theorem Steady.settled {selection : Selection} (steady : selection.Steady) {router : Router ω}
    (configured : router.strategy.Steady) : (selection.settled router).Steady := by
  have asked : (selection.wanted.getD router.strategy).Steady := by
    cases wanted : selection.wanted with
    | none => exact configured
    | some strategy => exact steady.wanted strategy wanted
  unfold Selection.settled
  split
  · rename_i strategy lookup phase
    exact steady.looking strategy lookup phase
  · exact asked
  · exact asked

variable (selection : Selection) (router : Router ω) (moment : Moment ω) (answer : Answer)

/-- A selection goes on with a lookup for its service that keeps to its name, or not at all. -/
theorem exists_named_lookup (orderly : selection.Orderly) :
    (∀ (router : Router ω) (moment : Moment ω),
        selection.lookedUp? router moment answer = none) ∨
      ∃ current : Lookup, (current.service = selection.service ∧ current.Named) ∧
        current.await? = selection.await? ∧
        ∀ (router : Router ω) (moment : Moment ω), selection.lookedUp? router moment answer =
          some (current.resume router.cache moment.now moment.ticket answer) :=
  selection.exists_lookup answer (fun lookup => lookup.service = selection.service ∧ lookup.Named)
    ⟨rfl, fun _ result => nomatch result⟩ orderly

/-- An orderly selection finds and leaves lists that keep to their names. -/
theorem named_lookedUp? (orderly : selection.Orderly) (named : router.cache.Named)
    (keeps : answer.Keeps selection.await?)
    (cache : Cache) (lookup : Lookup)
    (looked : selection.lookedUp? router moment answer = some (cache, lookup)) :
    cache.Named ∧ lookup.service = selection.service ∧ lookup.Named := by
  obtain ⟨current, ⟨same, own⟩, waits, resumes⟩ :=
    (selection.exists_named_lookup (ω := ω) answer orderly).resolve_left fun nothing => by
      rw [nothing] at looked
      cases looked
  have resumed := Option.some.inj ((resumes router moment).symm.trans looked)
  rw [← waits] at keeps
  have after := current.cacheNamed_resume router.cache moment.now moment.ticket answer named keeps
  have got := current.named_resume router.cache moment.now moment.ticket answer named own keeps
  have kept := current.service_resume router.cache moment.now moment.ticket answer
  rw [resumed] at after got kept
  exact ⟨after, kept.trans same, got⟩

variable [Weight ω]

/-- Going on keeps a selection orderly, and what it leaves in the cache. -/
theorem orderly_resume (orderly : selection.Orderly) (named : router.cache.Named)
    (keeps : answer.Keeps selection.await?) :
    (selection.resume router moment answer).1.cache.Named ∧
      (selection.resume router moment answer).2.service = selection.service ∧
      (selection.resume router moment answer).2.Orderly := by
  have goes := selection.goesOn ⟨router, moment, answer⟩
  have settles := selection.named_lookedUp? router moment answer orderly named keeps
  generalize selection.listed? _ = list at goes
  generalize selection.resume router moment answer = after at goes ⊢
  cases goes with
  | stays => exact ⟨named, rfl, orderly⟩
  | waits cache lookup looked =>
    obtain ⟨left, same, got⟩ := settles cache lookup looked
    exact ⟨left, rfl, fun strategy current phase => by cases phase; exact ⟨same, got⟩⟩
  | chooses cache lookup looked =>
    exact ⟨(settles cache lookup looked).1, rfl, fun strategy current phase => (nomatch phase)⟩

/-- A steady selection that goes on stays so. -/
theorem steady_resume (steady : selection.Steady) (configured : router.strategy.Steady) :
    (selection.resume router moment answer).2.Steady := by
  have goes := selection.goesOn ⟨router, moment, answer⟩
  generalize selection.listed? _ = list at goes
  generalize selection.resume router moment answer = after at goes ⊢
  cases goes with
  | stays => exact steady
  | waits =>
    exact ⟨steady.wanted, fun strategy current phase => by
      cases phase; exact steady.settled configured⟩
  | chooses => exact ⟨steady.wanted, fun strategy current phase => (nomatch phase)⟩

omit [Weight ω] in
/-- What is offered to a selection from orderly lists carries the name of its service. -/
theorem named_offered (orderly : selection.Orderly) (tidy : router.Orderly)
    (keeps : answer.Keeps selection.await?) (listed : List Instance)
    (got : selection.listed? ⟨router, moment, answer⟩ = some listed) :
    Named selection.service (router.candidates listed) := by
  unfold listed? at got
  simp only [Option.bind_eq_bind, Option.bind_eq_some_iff] at got
  obtain ⟨⟨cache, lookup⟩, looked, result⟩ := got
  obtain ⟨_, same, own⟩ :=
    selection.named_lookedUp? router moment answer orderly tidy.named keeps cache lookup looked
  exact tidy.candidates selection.service listed (same ▸ own listed result)

/-- A selection for an invocation of a service: its lookup is for the service, it goes by a
steady strategy, and it has not chosen yet. -/
structure Serves (service : String) (selection : Selection) : Prop where
  own : selection.service = service
  orderly : selection.Orderly
  steady : selection.Steady
  undecided : ∀ result, selection.phase ≠ .chosen result

/-- What such a selection chooses from orderly lists carries the name of the service. -/
theorem Serves.named_chosen {service : String} {selection : Selection}
    (serves : selection.Serves service) (tidy : router.Orderly)
    (keeps : answer.Keeps selection.await?) (x : Instance)
    (chosen : (selection.resume router moment answer).2.phase = .chosen (some x)) :
    x.service = service := by
  obtain ⟨listed, got, choice⟩ :=
    selection.resume_chosen ⟨router, moment, answer⟩ (some x) serves.undecided chosen
  have named := selection.named_offered router moment answer serves.orderly tidy keeps listed got
  have member :=
    Balance.mem_of_choose _ _ _ _ _ _ (serves.steady.settled tidy.steady).builtIn x choice
  exact (named x (mem_of_mem_avoiding _ _ x member)).trans serves.own

end Selection

namespace Invocation

/-- An invocation that keeps to its service: in its selection, and in its attempt. -/
structure Orderly (invocation : Invocation) : Prop where
  serves : ∀ selection, invocation.phase = .selecting selection →
    selection.Serves invocation.service
  named : ∀ attempt, invocation.phase = .working attempt →
    attempt.target.service = invocation.service

/-- Without a selection and an attempt there is nothing to keep to. -/
theorem orderly_done (service : String) (policy : RetryPolicy) (ended : Nat)
    (failed : List Identity) (result : Except RoutingError Reply) :
    (Invocation.mk service policy ended failed (.done result)).Orderly := by
  constructor
  · intro selection phase
    cases phase
  · intro attempt phase
    cases phase

/-- An invocation that rests has neither a selection nor an attempt. -/
theorem orderly_resting (service : String) (policy : RetryPolicy) (ended : Nat)
    (failed : List Identity) (due : Instant) :
    (Invocation.mk service policy ended failed (.resting due)).Orderly := by
  constructor
  · intro selection phase
    cases phase
  · intro attempt phase
    cases phase

/-- An invocation starts with a selection for its service, which has no lookup yet. -/
theorem orderly_start (service : String) (policy : RetryPolicy) :
    (start service policy).Orderly := by
  refine ⟨fun selection phase => ?_, fun attempt phase => (nomatch phase)⟩
  cases phase
  exact ⟨rfl, fun _ _ phase => (nomatch phase),
    ⟨fun _ wanted => (nomatch wanted), fun _ _ phase => (nomatch phase)⟩,
    fun _ phase => (nomatch phase)⟩

/-- The selection of a further attempt is for the service, and goes by its turns. -/
theorem serves_retrySelection (invocation : Invocation) :
    invocation.retrySelection.Serves invocation.service := by
  refine ⟨rfl, fun _ _ phase => (nomatch phase), ⟨fun strategy wanted => ?_, ?_⟩,
    fun _ phase => (nomatch phase)⟩
  · cases wanted
    exact trivial
  · exact fun _ _ phase => (nomatch phase)

variable {ω : Type}

/-- To close an attempt leaves the lists and the rules, so the router stays orderly. -/
theorem Closing.orderly {invocation : Invocation} {encounter : Encounter ω} {router : Router ω}
    (closing : invocation.Closing encounter router) (tidy : encounter.router.Orderly) :
    router.Orderly := by
  cases closing <;> exact ⟨tidy.named, tidy.keep, tidy.steady⟩

/-- The selection of an invocation that goes on is one for its service, and meets an orderly
router and an answer that keeps to the name, if the invocation does. -/
theorem serves_selecting? (invocation : Invocation) (orderly : invocation.Orderly)
    (encounter : Encounter ω) (tidy : encounter.router.Orderly)
    (keeps : encounter.answer.Keeps invocation.await?) (selection : Selection) (met : Encounter ω)
    (selecting : invocation.selecting? encounter = some (selection, met)) :
    selection.Serves invocation.service ∧ met.router.Orderly ∧
      met.answer.Keeps selection.await? := by
  rcases invocation.selecting?_eq encounter selection met selecting with
    ⟨phase, rfl⟩ | ⟨further, begins⟩
  · rw [await?, phase] at keeps
    exact ⟨orderly.serves _ phase, tidy, keeps⟩
  · obtain ⟨same, rfl, closing, -, turn⟩ := begins
    rw [← same, turn]
    exact ⟨further.serves_retrySelection, closing.orderly tidy, .turn _⟩

variable [Weight ω]

/-- What comes of a selection for the service of an invocation is orderly.

The attempt that it may lead to is on an instance with the name of the service; a selection that
goes on waiting still serves the invocation, and it has not chosen, for otherwise the attempt
would have begun or the invocation would have ended. -/
theorem orderly_advance (invocation : Invocation) (selection : Selection) (met : Encounter ω)
    (serves : selection.Serves invocation.service) (tidy : met.router.Orderly)
    (keeps : met.answer.Keeps selection.await?) :
    (invocation.advance met.router met.moment selection met.answer).1.Orderly ∧
      (invocation.advance met.router met.moment selection met.answer).2.service =
        invocation.service ∧
      (invocation.advance met.router met.moment selection met.answer).2.Orderly := by
  obtain ⟨router, moment, answer⟩ := met
  obtain ⟨named, same, next⟩ :=
    selection.orderly_resume router moment answer serves.orderly tidy.named keeps
  have steadyNext := selection.steady_resume router moment answer serves.steady tidy.steady
  have called := serves.named_chosen router moment answer tidy keeps
  have rules := invocation.sameRules_advance router moment selection answer
  have left : (invocation.advance router moment selection answer).1.cache.Named := by
    unfold advance engage
    split <;> exact named
  refine ⟨tidy.of_sameRules rules left, ?_⟩
  unfold advance engage
  split
  · exact ⟨rfl, orderly_done _ _ _ _ _⟩
  · rename_i x chosen
    refine ⟨rfl, fun _ phase => (nomatch phase), fun attempt phase => ?_⟩
    cases phase
    exact called x chosen
  · rename_i refused engaged
    refine ⟨rfl, fun current phase => ?_, fun _ phase => (nomatch phase)⟩
    cases phase
    refine ⟨same.trans serves.own, next, steadyNext, fun result chosen => ?_⟩
    cases result with
    | none => exact refused chosen
    | some x => exact engaged x chosen

/-- An invocation that goes on stays orderly and at its service, and it keeps the router orderly.

To account an attempt that ends changes counts only; the selection that goes on, or the next one
that begins, serves the invocation. -/
theorem orderly_resume (invocation : Invocation) (router : Router ω) (moment : Moment ω)
    (answer : Answer) (orderly : invocation.Orderly) (tidy : router.Orderly)
    (keeps : answer.Keeps invocation.await?) :
    (invocation.resume router moment answer).1.Orderly ∧
      (invocation.resume router moment answer).2.service = invocation.service ∧
      (invocation.resume router moment answer).2.Orderly := by
  have goes := invocation.goesOn ⟨router, moment, answer⟩
  have serves := invocation.serves_selecting? orderly ⟨router, moment, answer⟩ tidy keeps
  generalize invocation.selecting? _ = selecting at goes serves
  generalize invocation.resume router moment answer = after at goes ⊢
  cases goes with
  | stays => exact ⟨tidy, rfl, orderly⟩
  | ends router closing => exact ⟨closing.orderly tidy, rfl, orderly_done _ _ _ _ _⟩
  | rests router closing => exact ⟨closing.orderly tidy, rfl, orderly_resting _ _ _ _ _⟩
  | selects next selection met _ _ same =>
    obtain ⟨own, tidyNow, keepsNow⟩ := serves selection met rfl
    have advanced := next.orderly_advance selection met (same.symm ▸ own) tidyNow keepsNow
    exact ⟨advanced.1, advanced.2.1.trans same, advanced.2.2⟩

end Invocation

namespace Task

/-- The service on which a task works. A task that loads all lists, and one that is about the
client as a whole, works on none in particular. -/
def service? : Task → Option String
  | .looking lookup => some lookup.service
  | .choosing selection => some selection.service
  | .invoking invocation => some invocation.service
  | .sweeping _ | .opening _ | .closing _ | .registration .. | .sleeping .. | .slept => none

/-- A task that keeps to its service, and by a steady strategy if that is the given one. -/
def Orderly (service : String) : Task → Prop
  | .choosing selection =>
    selection.Orderly ∧ (selection.service = service → selection.Steady)
  | .invoking invocation => invocation.Orderly
  | .sweeping sweep => sweep.Reloads
  | .looking _ | .opening _ | .closing _ | .registration .. | .sleeping .. | .slept => True

/-- A task that manages the client is on no service. -/
theorem Managing.service?_eq_none {task : Task} (managing : task.Managing) :
    task.service? = none := by
  cases task <;> first
    | rfl
    | exact managing.elim

/-- A task that manages the client has nothing to keep to. -/
theorem Managing.orderly {task : Task} (managing : task.Managing) (service : String) :
    task.Orderly service := by
  cases task <;> first
    | exact trivial
    | exact managing.elim

variable {ω : Type} [Weight ω]

/-- Going on keeps a task at its service. -/
theorem service?_resume (task : Task) (client : Client ω) (moment : Moment ω) (answer : Answer) :
    (task.resume client moment answer).2.service? = task.service? := by
  -- A selection keeps its service, and so do the invocation that engages what it has chosen, and
  -- the one that selects again.
  have selected (selection : Selection) (router : Router ω) (answer : Answer) :
      (selection.resume router moment answer).2.service = selection.service := by
    unfold Selection.resume Selection.settle
    split
    · dsimp only
      split <;> rfl
    · dsimp only
      split <;> rfl
    · rfl
  have engaged (invocation : Invocation) (router : Router ω) (selection : Selection) :
      (invocation.engage router moment selection).2.service = invocation.service := by
    unfold Invocation.engage
    split <;> rfl
  have invoked (invocation : Invocation) :
      (invocation.resume client.router moment answer).2.service = invocation.service := by
    unfold Invocation.resume
    split
    · exact engaged _ _ _
    · unfold Invocation.conclude
      dsimp only
      split
      · rfl
      · split
        · exact engaged _ _ _
        · rfl
    · exact engaged _ _ _
    · rfl
  cases task with
  | looking lookup => exact congrArg some (lookup.service_resume _ _ _ _)
  | choosing selection => exact congrArg some (selected selection _ _)
  | invoking invocation => exact congrArg some (invoked invocation)
  | sweeping sweep => rfl
  | _ => exact Managing.service?_eq_none (managing_resume _ client moment answer trivial)

/-- Going on keeps a task and the router orderly.

The rules of the router stay as they are, so it suffices that its lists keep to their names. A
task that manages the client leaves the router alone. -/
theorem orderly_resume (service : String) (task : Task) (client : Client ω) (moment : Moment ω)
    (answer : Answer) (orderly : task.Orderly service) (tidy : client.router.Orderly)
    (keeps : answer.Keeps task.await?) :
    (task.resume client moment answer).1.router.Orderly ∧
      (task.resume client moment answer).2.Orderly service := by
  have rules := task.sameRules_resume client moment answer
  cases task with
  | looking lookup =>
    exact ⟨tidy.of_sameRules rules
      (lookup.cacheNamed_resume _ _ _ _ tidy.named keeps), trivial⟩
  | choosing selection =>
    obtain ⟨ready, steady⟩ := orderly
    obtain ⟨named, same, next⟩ :=
      selection.orderly_resume client.router moment answer ready tidy.named keeps
    exact ⟨tidy.of_sameRules rules named, next, fun here =>
      selection.steady_resume client.router moment answer (steady (same.symm.trans here))
        tidy.steady⟩
  | invoking invocation =>
    obtain ⟨left, _, next⟩ :=
      invocation.orderly_resume client.router moment answer orderly tidy keeps
    exact ⟨left, next⟩
  | sweeping sweep =>
    exact ⟨tidy.of_sameRules rules (sweep.cacheNamed_resume _ _ _ _ tidy.named keeps),
      sweep.reloads_resume _ _ _ answer orderly⟩
  | _ =>
    rw [router_resume]
    · refine ⟨tidy, Managing.orderly ?_ service⟩
      exact managing_resume _ client moment answer trivial
    · exact trivial

end Task

/-- A background job that goes on keeps the router orderly.

Rounds leave all lists; a sweep keeps them to their names like that of a caller, and one that
begins is one that goes on from its first turn. -/
theorem Job.orderly_resume {ω : Type} [Weight ω] (job : Job) (router : Router ω)
    (moment : Moment ω) (answer : Answer) (tidy : router.Orderly)
    (keeps : answer.Keeps (some job.await)) :
    (job.resume router moment answer).1.Orderly := by
  have rules := job.sameRules_resume router moment answer
  refine tidy.of_sameRules rules ?_
  cases job with
  | aggregating interval due => cases due <;> cases answer <;> exact tidy.named
  | refreshing interval due sweep =>
    cases due with
    | none => cases answer <;> exact tidy.named
    | some due =>
      cases sweep with
      | asked =>
        exact Sweep.cacheNamed_resume _ _ _ .asked answer tidy.named fun _ waits => (nomatch waits)
      | running current remaining =>
        refine Sweep.cacheNamed_resume _ _ _ (.running current remaining) answer tidy.named ?_
        intro service waits
        exact keeps service (congrArg some (by simp only [await, waits, Option.getD_some]))
      | done =>
        cases answer with
        | time =>
          exact Sweep.cacheNamed_resume router.cache moment.now moment.ticket .asked .turn
            tidy.named (.turn _)
        | _ => exact tidy.named

/-- A job loads each list in any case. -/
def Job.Reloads : Job → Prop
  | .aggregating .. => True
  | .refreshing _ _ sweep => sweep.Reloads

/-- A job that goes on still loads each list in any case: whatever it loads in a round it
refreshes. -/
theorem Job.reloads_resume {ω : Type} [Weight ω] (job : Job) (router : Router ω)
    (moment : Moment ω) (answer : Answer) (reloads : job.Reloads) :
    (job.resume router moment answer).2.Reloads := by
  cases job with
  | aggregating interval due => cases due <;> cases answer <;> exact trivial
  | refreshing interval due sweep =>
    cases due with
    | none => cases answer <;> exact reloads
    | some due =>
      cases sweep with
      | asked => exact Sweep.reloads_resume _ _ _ .asked answer trivial
      | running current remaining =>
        exact Sweep.reloads_resume _ _ _ (.running current remaining) answer reloads
      | done =>
        cases answer with
        | time => exact Sweep.reloads_advance router.cache moment.now moment.ticket _
        | _ => exact trivial

/-- A job that is found is one of the jobs. -/
theorem mem_of_lookup {ticket : Ticket} {job : Job} {jobs : List (Ticket × Job)}
    (found : jobs.lookup ticket = some job) : (ticket, job) ∈ jobs := by
  obtain ⟨before, after, rfl, _⟩ := List.lookup_eq_some_iff.mp found
  simp

/-- When a job of a client goes on, all of its jobs still load each list in any case. -/
theorem Client.reloads_resumeJob {ω : Type} [Weight ω] (client : Client ω) (moment : Moment ω)
    (answer : Answer) (reloads : ∀ entry ∈ client.jobs, entry.2.Reloads) :
    ∀ entry ∈ (client.resumeJob moment answer).jobs, entry.2.Reloads := by
  unfold resumeJob
  split
  · exact reloads
  · rename_i job found
    intro entry member
    obtain ⟨earlier, among, rfl⟩ := List.mem_map.mp member
    split
    · exact job.reloads_resume _ moment answer (reloads _ (mem_of_lookup found))
    · exact reloads earlier among

/-- Jobs begin with no list. -/
theorem Client.reloads_startJobs {ω : Type} (client : Client ω)
    (reloads : ∀ entry ∈ client.jobs, entry.2.Reloads) :
    ∀ entry ∈ client.startJobs.jobs, entry.2.Reloads := by
  unfold startJobs
  split
  · intro entry member
    have wanted := (List.of_mem_zip member).2
    rcases List.mem_append.mp wanted with aggregating | refreshing
    · obtain ⟨interval, _, same⟩ := Option.map_eq_some_iff.mp (Option.mem_toList.mp aggregating)
      exact same ▸ trivial
    · obtain ⟨interval, _, same⟩ := Option.map_eq_some_iff.mp (Option.mem_toList.mp refreshing)
      exact same ▸ trivial
  · exact reloads

/-- Tasks start and stop jobs, and change none. -/
theorem Task.reloads_jobs {ω : Type} [Weight ω] (task : Task) (client : Client ω)
    (moment : Moment ω) (answer : Answer) (reloads : ∀ entry ∈ client.jobs, entry.2.Reloads) :
    ∀ entry ∈ (task.resume client moment answer).1.jobs, entry.2.Reloads := by
  cases task with
  | opening phase =>
    cases phase <;> cases answer <;> first
      | exact reloads
      | exact client.reloads_startJobs reloads
  | closing phase =>
    cases phase <;> cases answer <;> first
      | exact reloads
      | exact fun _ member => (nomatch member)
  | registration target phase => cases phase <;> cases answer <;> exact reloads
  | sleeping wait due => cases due <;> cases answer <;> exact reloads
  | _ => exact reloads

/-- A task that goes away keeps the router orderly. -/
theorem Task.orderly_abandon {ω : Type} [Weight ω] (task : Task) (client : Client ω)
    (ticket : Ticket) (tidy : client.router.Orderly) :
    (task.abandon client ticket).router.Orderly := by
  -- A lookup that is given up takes no list along.
  have selected (selection : Selection) :
      (selection.abandon client.router.cache ticket).Named := by
    unfold Selection.abandon
    split
    · exact Lookup.cacheNamed_abandon _ _ ticket tidy.named
    · exact tidy.named
    · exact tidy.named
  refine ⟨?_, tidy.keep, tidy.steady⟩
  cases task with
  | looking lookup => exact lookup.cacheNamed_abandon _ ticket tidy.named
  | choosing selection => exact selected selection
  | invoking invocation =>
    simp only [abandon, Invocation.abandon]
    split
    · exact selected _
    · exact tidy.named
    · exact tidy.named
    · exact tidy.named
  | sweeping sweep => exact sweep.cacheNamed_abandon _ ticket tidy.named
  | _ => exact tidy.named

/-- Jobs that are let go keep the router orderly. -/
theorem Client.orderly_dismissStopped {ω : Type} [Weight ω] (client : Client ω)
    (tidy : client.router.Orderly) : client.dismissStopped.router.Orderly := by
  have left (stopped : List (Ticket × Job)) (cache : Cache) (named : cache.Named) :
      (stopped.foldl (fun cache entry => entry.2.abandon cache entry.1) cache).Named := by
    induction stopped generalizing cache with
    | nil => exact named
    | cons entry rest inductionHypothesis =>
      refine inductionHypothesis _ ?_
      obtain ⟨ticket, job⟩ := entry
      cases job with
      | aggregating interval due => exact named
      | refreshing interval due sweep => exact sweep.cacheNamed_abandon cache ticket named
  exact ⟨left client.stopped _ tidy.named, tidy.keep, tidy.steady⟩

end CallRouting
