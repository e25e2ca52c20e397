import CallRouting.Proofs.AlikeTasks

/-!
# What happens elsewhere

A task on another service, a job, or a caller who adjusts something there, leaves all that a
router has to do with a given service: its slot, its turns and the rules. It may open
tallies and count on them, but only in other books and on handles that do not belong to the
service. So two routers that are alike in a service stay alike, whatever one of them does
elsewhere.
-/

namespace CallRouting

variable {service : String}

/-- What a change leaves of a cache for a service. -/
structure Cache.Leaves (service : String) (before after : Cache) : Prop where
  ttl : after.ttl = before.ttl
  slot : after.slot service = before.slot service

namespace Cache.Leaves

/-- What changes nothing leaves a cache. -/
theorem refl (cache : Cache) : cache.Leaves service cache := ⟨rfl, rfl⟩

/-- If each of two changes leaves the slot of a service and the lifetime of lists, so do both
together. -/
theorem trans {first second third : Cache} (before : first.Leaves service second)
    (after : second.Leaves service third) : first.Leaves service third :=
  ⟨after.ttl.trans before.ttl, after.slot.trans before.slot⟩

end Cache.Leaves

/-- A lookup for another service leaves the cache when it goes on. -/
theorem Lookup.leaves_resume (lookup : Lookup) (elsewhere : lookup.service ≠ service)
    (cache : Cache) (now : Instant) (ticket : Ticket) (answer : Answer) :
    cache.Leaves service (lookup.resume cache now ticket answer).1 :=
  ⟨lookup.ttl_resume cache now ticket answer,
    lookup.slot_resume cache now ticket answer service elsewhere⟩

/-- A lookup for another service leaves the cache when its caller goes away: it is only in the
line of its own service. -/
theorem Lookup.leaves_abandon (lookup : Lookup) (elsewhere : lookup.service ≠ service)
    (cache : Cache) (ticket : Ticket) : cache.Leaves service (lookup.abandon cache ticket) := by
  refine ⟨lookup.ttl_abandon cache ticket, ?_⟩
  rw [slot_abandon, if_neg fun here => elsewhere here.1]

variable {ω : Type}

/-- What a change leaves of a router for a service: all but the book. -/
structure Router.Leaves (service : String) (before after : Router ω) : Prop where
  cache : before.cache.Leaves service after.cache
  filters : after.filters = before.filters
  strategy : after.strategy = before.strategy
  turns : after.balance.rotation.count service = before.balance.rotation.count service
  retryTurns : after.balance.retryRotation.count service =
    before.balance.retryRotation.count service

namespace Router.Leaves

/-- What changes nothing leaves a router. -/
theorem refl (router : Router ω) : router.Leaves service router := ⟨.refl _, rfl, rfl, rfl, rfl⟩

/-- If each of two changes leaves what a router has for a service, so do both together. -/
theorem trans {first second third : Router ω} (before : first.Leaves service second)
    (after : second.Leaves service third) : first.Leaves service third where
  cache := before.cache.trans after.cache
  filters := after.filters.trans before.filters
  strategy := after.strategy.trans before.strategy
  turns := after.turns.trans before.turns
  retryTurns := after.retryTurns.trans before.retryTurns

/-- A router leaves the service if only its cache has changed, and that elsewhere. -/
theorem withCache (router : Router ω) {cache : Cache}
    (leaves : router.cache.Leaves service cache) :
    router.Leaves service { router with cache } := ⟨leaves, rfl, rfl, rfl, rfl⟩

/-- A router leaves the service, whatever has changed in its ledger: what concerns a ledger is
stated by its moves. -/
theorem withLedger (router : Router ω) (ledger : Ledger ω) :
    router.Leaves service { router with balance := { router.balance with ledger } } :=
  ⟨.refl _, rfl, rfl, rfl, rfl⟩

end Router.Leaves

/-- A router that does something elsewhere stays alike. -/
theorem Router.Alike.elsewhere {rename : Ticket → Ticket} {places : List Handle}
    {router after alone : Router ω} {now : Instant}
    (alike : router.Alike service rename places alone) (leaves : router.Leaves service after)
    (moves : Ledger.Moves now (· ≠ service) (· ∉ places) router.balance.ledger
      after.balance.ledger) : after.Alike service rename places alone where
  cache := alike.cache.elsewhere leaves.cache.ttl leaves.cache.slot
  filters := leaves.filters.trans alike.filters
  strategy := leaves.strategy.trans alike.strategy
  balance :=
    { turns := leaves.turns.trans alike.balance.turns
      retryTurns := leaves.retryTurns.trans alike.balance.retryTurns
      ledger := alike.balance.ledger.elsewhere moves }

/-- Turns that are taken for another service do not count. -/
theorem Rotation.count_select (rotation : Rotation) (other : String) (candidates : List Instance)
    (elsewhere : other ≠ service) :
    (rotation.select other candidates).1.count service = rotation.count service := by
  have counted := rotation.count_next other service candidates.length
  rw [if_neg elsewhere] at counted
  unfold select
  generalize rotation.next other candidates.length = taken at counted ⊢
  obtain ⟨after, place⟩ := taken
  cases place <;> exact counted

section Steps

variable [Weight ω]

/-- A choice for another service takes no turn of the given one: both rotations count for each
service on its own, and only the two that take turns move a rotation at all. -/
theorem Balance.count_choose (balance : Balance ω) (strategy : Strategy) (draw : Draw ω)
    (now : Instant) (other : String) (candidates : List Instance) (elsewhere : other ≠ service) :
    (balance.choose strategy draw now other candidates).1.rotation.count service =
        balance.rotation.count service ∧
      (balance.choose strategy draw now other candidates).1.retryRotation.count service =
        balance.retryRotation.count service := by
  have selected : (balance.select strategy draw now other candidates).1.rotation.count service =
        balance.rotation.count service ∧
      (balance.select strategy draw now other candidates).1.retryRotation.count service =
        balance.retryRotation.count service := by
    cases strategy with
    | roundRobin => exact ⟨Rotation.count_select _ other candidates elsewhere, rfl⟩
    | retryRoundRobin => exact ⟨rfl, Rotation.count_select _ other candidates elsewhere⟩
    | bestAvailable => exact ⟨rfl, rfl⟩
    | weightedResponseTime =>
      unfold select selectWeighted
      dsimp only
      split
      · exact ⟨rfl, rfl⟩
      · split <;> exact ⟨rfl, rfl⟩
    | random =>
      unfold select
      dsimp only
      split <;> exact ⟨rfl, rfl⟩
    | custom name rule => exact ⟨rfl, rfl⟩
  unfold choose
  split
  · exact ⟨rfl, rfl⟩
  · generalize balance.select strategy draw now other candidates = picked at selected ⊢
    obtain ⟨after, picked⟩ := picked
    cases picked <;> exact selected

/-- A selection for another service leaves the router: it writes to the slot of its own service
in the cache, and to the turns of that service. -/
theorem Selection.leaves_resume (selection : Selection) (elsewhere : selection.service ≠ service)
    (orderly : selection.Orderly) (router : Router ω) (moment : Moment ω) (answer : Answer) :
    router.Leaves service (selection.resume router moment answer).1 := by
  rcases selection.exists_named_lookup (ω := ω) answer orderly with
    nothing | ⟨current, ⟨same, own⟩, waits, resumes⟩
  · rw [selection.resume_of_lookedUp?_eq_none _ _ _ (nothing router moment)]
    exact .refl router
  · have looked := resumes router moment
    have caches := current.leaves_resume (same ▸ elsewhere) router.cache moment.now moment.ticket
      answer
    generalize current.resume router.cache moment.now moment.ticket answer = after at caches looked
    obtain ⟨cache, lookup⟩ := after
    rw [selection.resume_eq router moment answer cache lookup looked]
    have left : router.Leaves service { router with cache } := .withCache router caches
    unfold settle
    split
    · exact left
    · obtain ⟨turns, retryTurns⟩ := router.balance.count_choose (selection.settled router)
        moment.draw moment.now selection.service
        (avoiding (router.candidates _) selection.failed) elsewhere
      exact left.trans ⟨.refl _, rfl, rfl, turns, retryTurns⟩

namespace Invocation

/-- An invocation whose selection is for another service leaves the router as well: what it
engages goes into the ledger. -/
theorem leaves_advance (invocation : Invocation) (selection : Selection)
    (elsewhere : selection.service ≠ service) (orderly : selection.Orderly) (router : Router ω)
    (moment : Moment ω) (answer : Answer) :
    router.Leaves service (invocation.advance router moment selection answer).1 := by
  have selected := selection.leaves_resume elsewhere orderly router moment answer
  unfold advance engage
  split
  · exact selected
  · exact selected.trans (.withLedger _ _)
  · exact selected

/-- An invocation for another service leaves the router, with all of its attempts. -/
theorem leaves_resume (invocation : Invocation) (elsewhere : invocation.service ≠ service)
    (orderly : invocation.Orderly) (router : Router ω) (moment : Moment ω) (answer : Answer) :
    router.Leaves service (invocation.resume router moment answer).1 := by
  -- A further selection is for the same service, which is another one than the given.
  have retried (next : Invocation) (same : next.service = invocation.service)
      (before : Router ω) (left : router.Leaves service before) :
      router.Leaves service (next.advance before moment next.retrySelection .turn).1 :=
    left.trans (next.leaves_advance next.retrySelection
      (fun here => elsewhere (same.symm.trans here)) (fun _ _ phase => (nomatch phase)) before
      moment .turn)
  have closed (attempt : Attempt) (outcome : Except Failure Reply) : router.Leaves service
      (account router invocation.policy attempt moment.now outcome) := .withLedger router _
  unfold resume
  split
  · rename_i _ selection phase
    have serves := orderly.serves selection phase
    exact invocation.leaves_advance selection
      (fun here => elsewhere (serves.own.symm.trans here)) serves.orderly router moment _
  · rename_i attempt outcome phase
    unfold conclude
    dsimp only
    split
    · exact closed attempt outcome
    · split
      · exact retried (invocation.afterFailure attempt) rfl _ (closed attempt outcome)
      · exact closed attempt outcome
  · exact retried invocation rfl router (.refl router)
  · exact .refl router

omit [Weight ω] in
/-- The book of its target's service leads to the tally of an attempt that begins. -/
theorem leads_engage (invocation : Invocation) (selection : Selection) (router : Router ω)
    (moment : Moment ω) (attempt : Attempt)
    (begun : (invocation.engage router moment selection).2.phase = .working attempt) :
    (invocation.engage router moment selection).1.balance.ledger.Leads attempt.target.service
      attempt.target.identity attempt.handle := by
  have free : Ledger.Free (fun _ => True) (fun _ => True) router.balance.ledger :=
    ⟨fun _ _ _ _ _ => trivial, fun _ _ => trivial⟩
  unfold engage at begun ⊢
  split at begun
  · cases begun
  · rename_i x _
    cases begun
    exact (Ledger.moves_beforeCall _ free x trivial).2
  · cases begun

/-- An attempt that runs after an invocation has gone on was running before, or has begun. -/
theorem leads_resume (invocation : Invocation) (router : Router ω) (moment : Moment ω)
    (answer : Answer) (attempt : Attempt)
    (running : (invocation.resume router moment answer).2.phase = .working attempt) :
    invocation.phase = .working attempt ∨
      (invocation.resume router moment answer).1.balance.ledger.Leads attempt.target.service
        attempt.target.identity attempt.handle := by
  have goes := invocation.goesOn ⟨router, moment, answer⟩
  generalize invocation.selecting? _ = selecting at goes
  generalize invocation.resume router moment answer = after at goes running ⊢
  cases goes with
  | stays => exact .inl running
  | ends => cases running
  | rests => cases running
  | selects next selection met => exact .inr (next.leads_engage _ _ _ attempt running)

end Invocation

namespace Task

/-- What a task that loads all lists does to a list is told by its lookups. Every other task
leaves the services on which it does not work as they are. -/
theorem leaves_resume (task : Task) (elsewhere : task.service? ≠ some service)
    (single : ∀ sweep, task ≠ .sweeping sweep) (orderly : task.Orderly service)
    (client : Client ω) (moment : Moment ω) (answer : Answer) :
    client.router.Leaves service (task.resume client moment answer).1.router := by
  cases task with
  | looking lookup =>
    have away : lookup.service ≠ service := fun here => elsewhere (congrArg some here)
    exact .withCache _ (lookup.leaves_resume away _ _ _ _)
  | choosing selection =>
    have away : selection.service ≠ service := fun here => elsewhere (congrArg some here)
    exact selection.leaves_resume away orderly.1 _ moment answer
  | invoking invocation =>
    have away : invocation.service ≠ service := fun here => elsewhere (congrArg some here)
    exact invocation.leaves_resume away orderly _ moment answer
  | sweeping sweep => exact absurd rfl (single sweep)
  | _ =>
    rw [router_resume]
    · exact .refl client.router
    · exact trivial

omit [Weight ω] in
/-- A task elsewhere whose caller goes away leaves the router. A sweep is left out here: it is
about all services. -/
theorem leaves_abandon (task : Task) (elsewhere : task.service? ≠ some service)
    (single : ∀ sweep, task ≠ .sweeping sweep) (orderly : task.Orderly service)
    (client : Client ω) (ticket : Ticket) :
    client.router.Leaves service (task.abandon client ticket).router := by
  -- A selection looks for the list of its own service, so it gives up a place there.
  have left (selection : Selection) (away : selection.service ≠ service)
      (ready : selection.Orderly) :
      client.router.cache.Leaves service (selection.abandon client.router.cache ticket) := by
    unfold Selection.abandon
    split
    · rename_i strategy lookup phase
      exact lookup.leaves_abandon
        (fun here => away ((ready strategy lookup phase).1.symm.trans here)) _ ticket
    · exact .refl _
    · exact .refl _
  refine .withCache _ ?_
  cases task with
  | looking lookup =>
    exact lookup.leaves_abandon (fun here => elsewhere (congrArg some here)) _ ticket
  | choosing selection =>
    exact left selection (fun here => elsewhere (congrArg some here)) orderly.1
  | invoking invocation =>
    simp only [Invocation.abandon]
    split
    · rename_i selection phase
      have serves := orderly.serves selection phase
      exact left selection (fun here => elsewhere (congrArg some (serves.own.symm.trans here)))
        serves.orderly
    · exact .refl _
    · exact .refl _
    · exact .refl _
  | sweeping sweep => exact absurd rfl (single sweep)
  | _ => exact .refl _

/-- The attempt of a task that has gone on was running before, or the book of the service on which
the task works leads to its tally.

A new attempt has got its handle from the book of the service by which its target is named, and
that is the service of the invocation, since the lists keep to their names. -/
theorem leads_attempt? (task : Task) (client : Client ω) (moment : Moment ω) (answer : Answer)
    (orderly : task.Orderly service) (tidy : client.router.Orderly)
    (keeps : answer.Keeps task.await?) (number : Nat) (attempt : Attempt)
    (running : (task.resume client moment answer).2.attempt? = some (number, attempt)) :
    (∃ earlier, task.attempt? = some (earlier, attempt)) ∨
      ∃ own key, task.service? = some own ∧
        (task.resume client moment answer).1.router.balance.ledger.Leads own key
          attempt.handle := by
  cases task with
  | invoking invocation =>
    obtain ⟨_, own, next⟩ :=
      invocation.orderly_resume client.router moment answer orderly tidy keeps
    rw [show (Task.invoking invocation).resume client moment answer =
      (_, .invoking (invocation.resume client.router moment answer).2) from rfl,
      attempt?_invoking] at running
    split at running
    · rename_i begun phase
      cases running
      rcases invocation.leads_resume client.router moment answer attempt phase with old | new
      · refine .inl ⟨invocation.ended + 1, ?_⟩
        rw [attempt?_invoking, old]
      · refine .inr ⟨invocation.service, attempt.target.identity, rfl, ?_⟩
        rw [← own, ← next.named attempt phase]
        exact new
    · cases running
  | looking lookup => cases running
  | choosing selection => cases running
  | sweeping sweep => cases running
  | _ =>
    rw [Managing.attempt?_eq_none] at running
    · cases running
    · exact managing_resume _ client moment answer trivial

/-- An orderly task keeps to the services that it works on.

The candidates that it is offered are named for the service of its selection, and so is the one
that it calls; the attempt that it closes is on one of the given handles. -/
theorem minds {about : String → Prop} {on : Handle → Prop} (task : Task)
    (orderly : task.Orderly service) (router : Router ω) (tidy : router.Orderly)
    (moment : Moment ω) (answer : Answer) (keeps : answer.Keeps task.await?)
    (own : ∀ other, task.service? = some other → about other)
    (closing : ∀ number attempt, task.attempt? = some (number, attempt) → on attempt.handle) :
    task.Minds about on ⟨router, moment, answer⟩ := by
  have offered (selection : Selection) (met : Encounter ω) (here : about selection.service)
      (ready : selection.Orderly) (tidyNow : met.router.Orderly)
      (keepsNow : met.answer.Keeps selection.await?) : selection.Minds about met := by
    refine ⟨here, fun listed got x member => ?_⟩
    have named := selection.named_offered met.router met.moment met.answer ready tidyNow keepsNow
      listed got
    exact (named x member).symm ▸ here
  refine ⟨?_, ?_, closing⟩
  · intro selection met selecting
    cases task with
    | choosing current =>
      cases selecting
      exact offered selection _ (own _ rfl) orderly.1 tidy keeps
    | invoking invocation =>
      obtain ⟨serves, tidyNow, keepsNow⟩ :=
        invocation.serves_selecting? orderly _ tidy keeps selection met selecting
      exact offered selection met (serves.own.symm ▸ own _ rfl) serves.orderly tidyNow keepsNow
    | _ => cases selecting
  · rintro invocation selection met x rfl selecting chosen
    obtain ⟨serves, tidyNow, keepsNow⟩ :=
      invocation.serves_selecting? orderly _ tidy keeps selection met selecting
    have named := serves.named_chosen met.router met.moment met.answer tidyNow keepsNow x chosen
    exact named.symm ▸ own _ rfl

end Task

end Steps

end CallRouting
