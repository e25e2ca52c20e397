import CallRouting.Proofs.Agreement

/-!
# Worlds that differ in what is expired

Two routers agree if they are the same up to their ledgers, which agree, and so do two clients
and two worlds. A task that goes on in both comes to the same and leaves routers that agree; so
do a job and whatever callers adjust. So the worlds agree after each event, and nobody can tell
them apart by what tasks wait for, whom they call or how they end.
-/

namespace CallRouting

variable {ω : Type}

/-- Routers that are the same up to ledgers that agree. -/
inductive Router.Agrees (now : Instant) (router : Router ω) : Router ω → Prop
  | intro (balance : Balance ω) (agrees : router.balance.Agrees now balance) :
      Agrees now router { router with balance }

namespace Router.Agrees

variable {now : Instant} {first second : Router ω}

/-- Routers that agree have ledgers that agree. -/
theorem ledger (agrees : first.Agrees now second) :
    first.balance.ledger.Agrees now second.balance.ledger := by
  obtain ⟨_, _, agrees⟩ := agrees
  exact agrees

/-- Routers that agree still do so with the same lists. -/
theorem withCache (agrees : first.Agrees now second) (cache : Cache) :
    ({ first with cache } : Router ω).Agrees now { second with cache } := by
  obtain ⟨balance, agrees⟩ := agrees
  exact ⟨balance, agrees⟩

/-- Routers that agree still do so with other ledgers that agree. -/
theorem withLedger (agrees : first.Agrees now second) {ledger ledgerToo : Ledger ω}
    (ledgers : ledger.Agrees now ledgerToo) :
    ({ first with balance := { first.balance with ledger } } : Router ω).Agrees now
      { second with balance := { second.balance with ledger := ledgerToo } } := by
  obtain ⟨_, _, _⟩ := agrees
  exact ⟨_, _, ledgers⟩

/-- What agrees from some time on does so from any later one on. -/
theorem later (agrees : first.Agrees now second) {later : Instant} (onward : now ≤ later) :
    first.Agrees later second := by
  obtain ⟨_, _, agrees⟩ := agrees
  exact ⟨_, _, agrees.later onward⟩

variable [Weight ω]

/-- To choose in both comes to the same instance and leaves routers that agree: the strategies
read the ledgers only as of now. -/
theorem pick (agrees : first.Agrees now second) (strategy : Strategy) (draw : Draw ω)
    (service : String) (failed : List Identity) (instances : List Instance) :
    (first.pick strategy draw now service failed instances).1.Agrees now
        (second.pick strategy draw now service failed instances).1 ∧
      (second.pick strategy draw now service failed instances).2 =
        (first.pick strategy draw now service failed instances).2 := by
  obtain ⟨balance, agrees⟩ := agrees
  obtain ⟨after, same⟩ := agrees.choose strategy draw service
    (avoiding (first.candidates instances) failed)
  exact ⟨⟨_, after⟩, same⟩

/-- A round of new tables in both leaves routers that agree. -/
theorem aggregate (agrees : first.Agrees now second) :
    (first.aggregate now).1.Agrees now (second.aggregate now).1 := by
  obtain ⟨_, ledger, agrees⟩ := agrees
  exact ⟨_, _, agrees.aggregateAll first.cachedCandidates⟩

end Router.Agrees

section Steps

variable [Weight ω]

/-- A selection that goes on in both routers comes to the same choice and leaves routers that
agree.

Its lookup and its strategy read nothing of the ledgers; only the choice at the end does, and
strategies choose alike from ledgers that agree. -/
theorem Selection.agrees_resume (selection : Selection) (moment : Moment ω) (answer : Answer)
    {first second : Router ω} (agrees : first.Agrees moment.now second) :
    (selection.resume first moment answer).1.Agrees moment.now
        (selection.resume second moment answer).1 ∧
      (selection.resume second moment answer).2 = (selection.resume first moment answer).2 := by
  have settled : selection.settled second = selection.settled first := by
    obtain ⟨_, _⟩ := agrees
    rfl
  have looked : selection.lookedUp? second moment answer =
      selection.lookedUp? first moment answer := by
    obtain ⟨_, _⟩ := agrees
    rfl
  cases found : selection.lookedUp? first moment answer with
  | none =>
    rw [selection.resume_of_lookedUp?_eq_none first moment answer found,
      selection.resume_of_lookedUp?_eq_none second moment answer (looked.trans found)]
    exact ⟨agrees, rfl⟩
  | some entry =>
    obtain ⟨cache, lookup⟩ := entry
    have next := agrees.withCache cache
    rw [selection.resume_eq first moment answer cache lookup found,
      selection.resume_eq second moment answer cache lookup (looked.trans found), settled]
    unfold settle
    cases lookup.result? with
    | none => exact ⟨next, rfl⟩
    | some instances =>
      obtain ⟨picked, choice⟩ := next.pick (selection.settled first) moment.draw
        selection.service selection.failed instances
      exact ⟨picked, congrArg (fun result => { selection with phase := .chosen result }) choice⟩

namespace Invocation

/-- The selection of an invocation goes on in both to the same choice, and the call that it leads
to is on the same handle, since ledgers that agree have equally many tallies. -/
theorem agrees_advance (invocation : Invocation) (selection : Selection) (moment : Moment ω)
    (answer : Answer) {first second : Router ω} (agrees : first.Agrees moment.now second) :
    (invocation.advance first moment selection answer).1.Agrees moment.now
        (invocation.advance second moment selection answer).1 ∧
      (invocation.advance second moment selection answer).2 =
        (invocation.advance first moment selection answer).2 := by
  obtain ⟨after, same⟩ := selection.agrees_resume moment answer agrees
  unfold advance engage
  rw [same]
  generalize selection.resume first moment answer = next at after ⊢
  generalize (selection.resume second moment answer).1 = other at after ⊢
  obtain ⟨router, service, wanted, failed, phase⟩ := next
  cases phase with
  | asked => exact ⟨after, rfl⟩
  | looking strategy lookup => exact ⟨after, rfl⟩
  | chosen result =>
    cases result with
    | none => exact ⟨after, rfl⟩
    | some x =>
      obtain ⟨opened, handle⟩ := after.ledger.beforeCall x
      dsimp only
      rw [handle]
      exact ⟨after.withLedger opened, rfl⟩

omit [Weight ω] in
/-- To close an attempt in both leaves routers that agree, for it is closed on its handle. -/
theorem agrees_account (policy : RetryPolicy) (attempt : Attempt) (now : Instant)
    (outcome : Except Failure Reply) {first second : Router ω} (agrees : first.Agrees now second) :
    (account first policy attempt now outcome).Agrees now
      (account second policy attempt now outcome) := by
  unfold account
  dsimp only
  split
  · exact agrees.withLedger (agrees.ledger.change attempt.handle _ fun _ => rfl)
  · exact agrees.withLedger (agrees.ledger.change attempt.handle _ fun _ => rfl)

/-- An invocation that goes on in both comes to the same and leaves routers that agree.

The verdict on an attempt is about its outcome alone; so both invocations end, wait or select
again. -/
theorem agrees_resume (invocation : Invocation) (moment : Moment ω) (answer : Answer)
    {first second : Router ω} (agrees : first.Agrees moment.now second) :
    (invocation.resume first moment answer).1.Agrees moment.now
        (invocation.resume second moment answer).1 ∧
      (invocation.resume second moment answer).2 = (invocation.resume first moment answer).2 := by
  obtain ⟨service, policy, ended, failed, phase⟩ := invocation
  cases phase with
  | selecting selection => exact agrees_advance _ selection moment answer agrees
  | working attempt =>
    cases answer with
    | work outcome =>
      have closed := agrees_account policy attempt moment.now outcome agrees
      cases verdict : policy.judge service (ended + 1) attempt.target outcome with
      | finish result =>
        simp only [resume, conclude, verdict]
        exact ⟨closed, trivial⟩
      | again =>
        cases zero : (policy.delay (ended + 1)).isZero with
        | false =>
          simp only [resume, conclude, verdict, zero]
          exact ⟨closed, rfl⟩
        | true =>
          simp only [resume, conclude, verdict, zero, if_true]
          exact agrees_advance _ (Selection.retry service (failed ++ [attempt.target.identity]))
            moment .turn closed
    | _ => exact ⟨agrees, rfl⟩
  | resting due =>
    cases answer with
    | time => exact agrees_advance _ (Selection.retry service failed) moment .turn agrees
    | _ => exact ⟨agrees, rfl⟩
  | done result => exact ⟨agrees, rfl⟩

end Invocation

/-- Clients that are the same up to routers that agree. -/
inductive Client.Agrees (now : Instant) (client : Client ω) : Client ω → Prop
  | intro (router : Router ω) (agrees : client.router.Agrees now router) :
      Agrees now client { client with router }

omit [Weight ω] in
/-- To start the jobs of both leaves clients that agree. -/
theorem Client.Agrees.startJobs {now : Instant} {first second : Client ω}
    (agrees : first.Agrees now second) : first.startJobs.Agrees now second.startJobs := by
  obtain ⟨router, agrees⟩ := agrees
  unfold Client.startJobs
  dsimp only
  split <;> exact ⟨router, agrees⟩

/-- A task that goes on in both clients comes to the same and leaves clients that agree. Only
selections and invocations look at a ledger at all. -/
theorem Task.agrees_resume (task : Task) (moment : Moment ω) (answer : Answer)
    {first second : Client ω} (agrees : first.Agrees moment.now second) :
    (task.resume first moment answer).1.Agrees moment.now (task.resume second moment answer).1 ∧
      (task.resume second moment answer).2 = (task.resume first moment answer).2 := by
  cases task with
  | looking lookup =>
    obtain ⟨_, _, agrees⟩ := agrees
    exact ⟨⟨_, _, agrees⟩, rfl⟩
  | sweeping sweep =>
    obtain ⟨_, _, agrees⟩ := agrees
    exact ⟨⟨_, _, agrees⟩, rfl⟩
  | choosing selection =>
    obtain ⟨router, agrees⟩ := agrees
    obtain ⟨after, same⟩ := selection.agrees_resume moment answer agrees
    exact ⟨⟨_, after⟩, congrArg Task.choosing same⟩
  | invoking invocation =>
    obtain ⟨router, agrees⟩ := agrees
    obtain ⟨after, same⟩ := invocation.agrees_resume moment answer agrees
    exact ⟨⟨_, after⟩, congrArg Task.invoking same⟩
  | opening phase =>
    cases phase <;> cases answer <;> first
      | exact ⟨agrees, rfl⟩
      | exact ⟨agrees.startJobs, rfl⟩
  | closing phase =>
    obtain ⟨router, agrees⟩ := agrees
    cases phase <;> cases answer <;> exact ⟨⟨router, agrees⟩, rfl⟩
  | registration target phase =>
    cases phase <;> cases answer <;> exact ⟨agrees, rfl⟩
  | sleeping wait due => cases due <;> cases answer <;> exact ⟨agrees, rfl⟩
  | slept => exact ⟨agrees, rfl⟩

/-- A job that goes on in both routers comes to the same and leaves routers that agree: a round
computes tables from what is not expired. -/
theorem Job.agrees_resume (job : Job) (moment : Moment ω) (answer : Answer)
    {first second : Router ω} (agrees : first.Agrees moment.now second) :
    (job.resume first moment answer).1.Agrees moment.now (job.resume second moment answer).1 ∧
      (job.resume second moment answer).2 = (job.resume first moment answer).2 := by
  cases job with
  | aggregating interval due =>
    cases due <;> cases answer <;> first
      | exact ⟨agrees, rfl⟩
      | exact ⟨agrees.aggregate, rfl⟩
  | refreshing interval due sweep =>
    obtain ⟨_, agrees⟩ := agrees
    cases due <;> cases sweep <;> cases answer <;> exact ⟨⟨_, agrees⟩, rfl⟩

/-- A job that goes on in both comes to the same and leaves clients that agree. -/
theorem Client.Agrees.resumeJob (moment : Moment ω) (answer : Answer) {first second : Client ω}
    (agrees : first.Agrees moment.now second) :
    (first.resumeJob moment answer).Agrees moment.now (second.resumeJob moment answer) := by
  obtain ⟨router, agrees⟩ := agrees
  unfold Client.resumeJob
  dsimp only
  cases first.jobs.lookup moment.ticket with
  | none => exact ⟨router, agrees⟩
  | some job =>
    obtain ⟨after, same⟩ := job.agrees_resume moment answer agrees
    dsimp only
    rw [same]
    exact ⟨_, after⟩

/-- Whatever callers adjust or read, they do so alike in both routers, which still agree then. -/
theorem Adjustment.agrees_apply (adjustment : Adjustment ω) (now : Instant)
    {first second : Router ω} (agrees : first.Agrees now second) :
    (adjustment.apply now first).Agrees now (adjustment.apply now second) := by
  obtain ⟨_, balances⟩ := agrees
  have ledgers := balances
  obtain ⟨ledger, ledgers⟩ := ledgers
  cases adjustment with
  | aggregate => exact ⟨_, _, ledgers.aggregateAll first.cachedCandidates⟩
  | aggregateService service candidates =>
    exact ⟨_, _, (ledgers.aggregate service candidates).1⟩
  | purge service => exact ⟨_, _, ledgers.purge service⟩
  | openBook service => exact ⟨_, _, ledgers.openBook service⟩
  | consult service x => exact ⟨_, _, (ledgers.access service x).1⟩
  | pick strategy draw service candidates =>
    exact ⟨_, (balances.choose strategy draw service candidates).1⟩
  | addFilter filter => exact ⟨_, balances⟩
  | registerStrategy strategy => exact ⟨_, balances⟩
  | declarePolicy declared => exact ⟨_, balances⟩
  | invalidate service => exact ⟨_, balances⟩

/-- Worlds that are the same up to clients that agree from the time of the worlds on. -/
inductive World.Agrees (world : World ω) : World ω → Prop
  | intro (client : Client ω) (agrees : world.client.Agrees world.now client) :
      Agrees world { world with client }

namespace World.Agrees

variable {first second : World ω}

omit [Weight ω] in
/-- An answer is permitted in one of two worlds that agree just if it is in the other. -/
theorem permits (agrees : first.Agrees second) (ticket : Ticket) (await : Await)
    (answer : Answer) : second.permits ticket await answer = first.permits ticket await answer := by
  obtain ⟨_, _, _, _⟩ := agrees
  rfl

omit [Weight ω] in
/-- An answer lets the same task go on in both worlds. -/
theorem roused? (agrees : first.Agrees second) (place : Nat) (answer : Answer) :
    second.roused? place answer = first.roused? place answer := by
  obtain ⟨_, _, _, _⟩ := agrees
  rfl

/-- After the same event two worlds that agree still do so.

They have the same tasks and jobs, which wait for the same; so an answer lets the same one go on
in both, by the lemmas above. -/
theorem step (agrees : first.Agrees second) (event : Event ω) :
    (first.step event).Agrees (second.step event) := by
  have roused := agrees.roused?
  have permits := agrees.permits
  obtain ⟨client, agrees⟩ := agrees
  have clients := agrees
  obtain ⟨router, routers⟩ := clients
  cases event with
  | pass span => exact ⟨_, _, routers.later (Nat.le_add_right first.now span)⟩
  | request request => exact ⟨_, _, routers⟩
  | answer place draw answer =>
    simp only [World.step, roused]
    cases first.roused? place answer with
    | none => exact ⟨_, agrees⟩
    | some entry =>
      obtain ⟨ticket, task⟩ := entry
      obtain ⟨after, same⟩ := task.agrees_resume (first.moment ticket draw) answer agrees
      dsimp only [World.moment] at same ⊢
      rw [same]
      exact ⟨_, after⟩
  | leave place =>
    simp only [World.step]
    cases first.tasks[place]? with
    | none => exact ⟨_, agrees⟩
    | some entry =>
      obtain ⟨_, balances⟩ := routers
      exact ⟨_, _, _, balances⟩
  | work ticket draw answer =>
    simp only [World.step, permits]
    cases first.client.jobs.lookup ticket with
    | none => exact ⟨_, agrees⟩
    | some job =>
      dsimp only
      split
      · exact ⟨_, agrees.resumeJob (first.moment ticket draw) answer⟩
      · exact ⟨_, agrees⟩
  | dismiss =>
    obtain ⟨_, balances⟩ := routers
    exact ⟨_, _, _, balances⟩
  | adjust adjustment => exact ⟨_, _, adjustment.agrees_apply first.now routers⟩

end World.Agrees

end Steps

end CallRouting
