import CallRouting.Proofs.AlikeRouters

/-!
# Tasks on a service, on routers alike in it

A task on a service does the same on two routers that are alike in the service: it waits for
the same, comes to the same instances and ends with the same result. Only the handle of a
running attempt differs, for each router numbers its tallies for itself.
-/

namespace CallRouting

variable {ω : Type} {rename : Ticket → Ticket} {places : List Handle}

/-- Two moments at one instant, at which a task goes on in one router and the task that stands for
it in the other: the ticket of the second is the renamed one of the first. -/
structure Moment.Alike (rename : Ticket → Ticket) (moment alone : Moment ω) : Prop where
  now : alone.now = moment.now
  ticket : alone.ticket = rename moment.ticket

/-- A task of one router and the task that stands for it in the other. They are equal, but for the
handle of a running attempt, and both handles have one place. -/
inductive Task.Alike (places : List Handle) : Task → Task → Prop
  | same (task : Task) (idle : task.attempt? = none) : Alike places task task
  | working (service : String) (policy : RetryPolicy) (ended : Nat) (failed : List Identity)
      (target : Instance) (handle own : Handle) (startedAt : Instant)
      (placed : Placed places handle own) :
      Alike places
        (.invoking ⟨service, policy, ended, failed, .working ⟨target, handle, startedAt⟩⟩)
        (.invoking ⟨service, policy, ended, failed, .working ⟨target, own, startedAt⟩⟩)

namespace Task.Alike

variable {task alone : Task}

/-- Tasks stay alike when more places come in. -/
theorem mono {wider : List Handle} (grown : places <+: wider) (alike : task.Alike places alone) :
    task.Alike wider alone := by
  cases alike with
  | same task idle => exact .same task idle
  | working service policy ended failed target handle own startedAt placed =>
    exact .working service policy ended failed target handle own startedAt (placed.mono grown)

/-- Tasks that are alike wait for the same. -/
theorem await?_eq (alike : task.Alike places alone) : task.await? = alone.await? := by
  cases alike <;> rfl

end Task.Alike

section Steps

variable [Weight ω] {router alone : Router ω}

/-- A selection for the service comes to the same choice.

The lookup goes on in both in the same way, and comes to the same list; the filters leave the
same candidates; and a steady strategy picks the same of them, for it reads turns or running
calls, which are alike. -/
theorem Selection.alike_resume (selection : Selection) (orderly : selection.Orderly)
    (steady : selection.Steady) (alike : router.Alike selection.service rename places alone)
    (tidy : router.Orderly) {moment momentAlone : Moment ω}
    (moments : moment.Alike rename momentAlone) (answer : Answer)
    (keeps : answer.Keeps selection.await?) :
    ∃ wider, router.balance.ledger.Widens places wider ∧
      (selection.resume router moment answer).1.Alike selection.service rename wider
        (selection.resume alone momentAlone answer).1 ∧
      (selection.resume alone momentAlone answer).2 =
        (selection.resume router moment answer).2 := by
  rcases selection.exists_named_lookup (ω := ω) answer orderly with
    nothing | ⟨current, ⟨same, own⟩, waits, resumes⟩
  -- Without a lookup the selection stays as it is in both routers.
  · rw [selection.resume_of_lookedUp?_eq_none _ _ _ (nothing router moment),
      selection.resume_of_lookedUp?_eq_none _ _ _ (nothing alone momentAlone)]
    exact ⟨places, .refl _ places, alike, rfl⟩
  · have before : router.cache.Alike current.service rename alone.cache := by
      rw [same]
      exact alike.cache
    have caches := before.resume moment.now moment.ticket answer
    -- One and the same lookup goes on in both, and it comes to equal findings.
    have looked := resumes router moment
    have lookedAlone := resumes alone momentAlone
    rw [moments.now, moments.ticket] at lookedAlone
    generalize current.resume router.cache moment.now moment.ticket answer = after
      at caches looked
    generalize current.resume alone.cache moment.now (rename moment.ticket) answer = afterAlone
      at caches lookedAlone
    obtain ⟨cache, lookup⟩ := after
    obtain ⟨cacheAlone, lookupAlone⟩ := afterAlone
    obtain ⟨caches, same'⟩ := caches
    obtain rfl : lookupAlone = lookup := same'
    rw [same] at caches
    obtain ⟨_, listed, tidyLookup⟩ := selection.named_lookedUp? router moment answer orderly
      tidy.named keeps cache lookupAlone looked
    -- The strategy is part of the choice or a setting that both routers have.
    have settled : selection.settled alone = selection.settled router := by
      simp only [Selection.settled, alike.strategy]
    rw [selection.resume_eq router moment answer cache lookupAlone looked,
      selection.resume_eq alone momentAlone answer cacheAlone lookupAlone lookedAlone, settled]
    have left := alike.withCache caches
    unfold settle
    cases result : lookupAlone.result? with
    | none => exact ⟨places, .refl _ places, left, rfl⟩
    | some instances =>
      have named : Named selection.service (router.candidates instances) := by
        intro x member
        -- Filters only drop instances, so the candidates have the name of the service too.
        have kept := tidy.candidates lookupAlone.service instances (tidyLookup instances result)
        exact (kept x member).trans listed
      obtain ⟨wider, grown, picked, choice⟩ := left.pick (selection.settled router)
        (steady.settled tidy.steady) moment.draw momentAlone.draw moment.now selection.failed
        instances named
      refine ⟨wider, grown, ?_⟩
      simp only [moments.now]
      exact ⟨picked, by rw [choice]⟩

namespace Invocation

/-- The selection of an invocation goes on alike in both routers, and if it chooses an instance,
both call the same one.

The call is opened in both ledgers after the choice, so its two handles get the next common place.
-/
theorem alike_advance (invocation : Invocation) (selection : Selection)
    (serves : selection.Serves invocation.service)
    (alike : router.Alike invocation.service rename places alone) (tidy : router.Orderly)
    {moment momentAlone : Moment ω} (moments : moment.Alike rename momentAlone) (answer : Answer)
    (keeps : answer.Keeps selection.await?) :
    ∃ wider, router.balance.ledger.Widens places wider ∧
      (invocation.advance router moment selection answer).1.Alike invocation.service rename wider
        (invocation.advance alone momentAlone selection answer).1 ∧
      (Task.invoking (invocation.advance router moment selection answer).2).Alike wider
        (.invoking (invocation.advance alone momentAlone selection answer).2) := by
  have called := serves.named_chosen router moment answer tidy keeps
  have moves : Ledger.Moves moment.now (fun _ => True) (fun _ => True) router.balance.ledger
      (selection.resume router moment answer).1.balance.ledger :=
    selection.moves_resume ⟨router, moment, answer⟩ ⟨trivial, fun _ _ _ _ => trivial⟩
  have more := moves.size_le
  rw [← serves.own] at alike called ⊢
  obtain ⟨wider, grown, left, same⟩ :=
    selection.alike_resume serves.orderly serves.steady alike tidy moments answer keeps
  unfold advance engage
  generalize selection.resume router moment answer = after at left same called more ⊢
  generalize selection.resume alone momentAlone answer = afterAlone at left same ⊢
  obtain ⟨next, service, wanted, failed, phase⟩ := after
  obtain ⟨nextAlone, chosen⟩ := afterAlone
  obtain rfl : chosen = ⟨service, wanted, failed, phase⟩ := same
  cases phase with
  | asked => exact ⟨wider, grown, left, .same _ rfl⟩
  | looking strategy lookup => exact ⟨wider, grown, left, .same _ rfl⟩
  | chosen result =>
    cases result with
    | none => exact ⟨wider, grown, left, .same _ rfl⟩
    | some x =>
      obtain ⟨widest, grownToo, opened, placed⟩ :=
        left.balance.ledger.beforeCall moment.now x (called x rfl)
      rw [moments.now]
      exact ⟨widest, grown.trans grownToo more, left.withLedger opened,
        .working _ _ _ _ x _ _ moment.now placed⟩

omit [Weight ω] in
/-- An attempt that ends is accounted alike in both routers, since the tallies that it closes
stand at one place. -/
theorem alike_account {service : String} (alike : router.Alike service rename places alone)
    (policy : RetryPolicy) (target : Instance) {handle ownHandle : Handle}
    (placed : Placed places handle ownHandle) (startedAt now : Instant)
    (outcome : Except Failure Reply) :
    (account router policy ⟨target, handle, startedAt⟩ now outcome).Alike service rename places
      (account alone policy ⟨target, ownHandle, startedAt⟩ now outcome) := by
  unfold account
  dsimp only
  split
  · exact alike.withLedger (alike.balance.ledger.change placed _)
  · exact alike.withLedger (alike.balance.ledger.change placed _)

/-- A further selection of an invocation begins alike in both routers, and both call the same
instance if it chooses one. -/
theorem alike_retry (invocation : Invocation)
    (alike : router.Alike invocation.service rename places alone) (tidy : router.Orderly)
    {moment momentAlone : Moment ω} (moments : moment.Alike rename momentAlone) :
    ∃ wider, router.balance.ledger.Widens places wider ∧
      (invocation.advance router moment invocation.retrySelection .turn).1.Alike invocation.service
        rename wider (invocation.advance alone momentAlone invocation.retrySelection .turn).1 ∧
      (Task.invoking (invocation.advance router moment invocation.retrySelection .turn).2).Alike
        wider
        (.invoking (invocation.advance alone momentAlone invocation.retrySelection .turn).2) :=
  invocation.alike_advance invocation.retrySelection invocation.serves_retrySelection alike tidy
    moments .turn (.turn _)

/-- Invocations that are alike go on alike, in routers that are alike: their selections choose
the same instance, and the attempts have their handles in one place.

Where no attempt runs the invocations are equal. Where one runs they differ by its handle,
which stands in one place; so closing it counts alike, and they are equal again. -/
theorem alike_resume (invocation own : Invocation)
    (tasks : (Task.invoking invocation).Alike places (.invoking own)) (orderly : invocation.Orderly)
    (alike : router.Alike invocation.service rename places alone) (tidy : router.Orderly)
    {moment momentAlone : Moment ω} (moments : moment.Alike rename momentAlone) (answer : Answer)
    (keeps : answer.Keeps invocation.await?) :
    ∃ wider, router.balance.ledger.Widens places wider ∧
      (invocation.resume router moment answer).1.Alike invocation.service rename wider
        (own.resume alone momentAlone answer).1 ∧
      (Task.invoking (invocation.resume router moment answer).2).Alike wider
        (.invoking (own.resume alone momentAlone answer).2) := by
  cases tasks with
  | same task idle =>
    obtain ⟨service, policy, ended, failed, phase⟩ := invocation
    cases phase with
    | selecting selection =>
      exact alike_advance _ selection (orderly.serves _ rfl) alike tidy moments answer keeps
    | working attempt => cases idle
    | resting due =>
      cases answer with
      | time => exact alike_retry _ alike tidy moments
      | _ => exact ⟨places, .refl _ places, alike, .same _ rfl⟩
    | done result => exact ⟨places, .refl _ places, alike, .same _ rfl⟩
  | working service policy ended failed target handle ownHandle startedAt placed =>
    cases answer with
    | work outcome =>
      have closed := alike_account alike policy target placed startedAt moment.now outcome
      -- To account a call changes counts only, so the router stays orderly.
      have tidyNow :
          (account router policy ⟨target, handle, startedAt⟩ moment.now outcome).Orderly :=
        ⟨tidy.named, tidy.keep, tidy.steady⟩
      cases verdict : policy.judge service (ended + 1) target outcome with
      | finish result =>
        simp only [resume, conclude, verdict, moments.now]
        exact ⟨places, .refl _ places, closed, .same _ rfl⟩
      | again =>
        -- Without a delay the next selection begins in the same step.
        cases zero : (policy.delay (ended + 1)).isZero with
        | false =>
          simp only [resume, conclude, verdict, zero, moments.now]
          exact ⟨places, .refl _ places, closed, .same _ rfl⟩
        | true =>
          have moves : Ledger.Moves moment.now (fun _ => True) (fun _ => True)
              router.balance.ledger _ :=
            moves_account router policy ⟨target, handle, startedAt⟩ moment.now outcome trivial
          obtain ⟨wider, grown, further⟩ := alike_retry
            (afterFailure ⟨service, policy, ended, failed, .working ⟨target, handle, startedAt⟩⟩
              ⟨target, handle, startedAt⟩) closed tidyNow moments
          simp only [resume, conclude, verdict, zero, if_true, moments.now]
          exact ⟨wider, (Ledger.Widens.refl _ places).trans grown moves.size_le, further⟩
    | _ =>
      exact ⟨places, .refl _ places, alike,
        .working service policy ended failed target handle ownHandle startedAt placed⟩

end Invocation

namespace Task

/-- A task on a service does the same on two routers that are alike in it: it leaves them alike,
in more places if it opens a tally, and its two copies as well.

A lookup leaves equal lists, and a selection or an invocation was dealt with above; no other task
is on a service. -/
theorem alike_resume (service : String) (task own : Task) (here : task.service? = some service)
    (tasks : task.Alike places own) (orderly : task.Orderly service) (client clientAlone : Client ω)
    (alike : client.router.Alike service rename places clientAlone.router)
    (tidy : client.router.Orderly) {moment momentAlone : Moment ω}
    (moments : moment.Alike rename momentAlone) (answer : Answer)
    (keeps : answer.Keeps task.await?) :
    ∃ wider, client.router.balance.ledger.Widens places wider ∧
      (task.resume client moment answer).1.router.Alike service rename wider
        (own.resume clientAlone momentAlone answer).1.router ∧
      (task.resume client moment answer).2.Alike wider
        (own.resume clientAlone momentAlone answer).2 := by
  cases task with
  | looking lookup =>
    cases tasks
    obtain rfl := Option.some.inj here
    obtain ⟨caches, same⟩ := alike.cache.resume moment.now moment.ticket answer
    simp only [resume, moments.now, moments.ticket, same]
    exact ⟨places, .refl _ places, alike.withCache caches, .same _ rfl⟩
  | choosing selection =>
    cases tasks
    obtain rfl := Option.some.inj here
    obtain ⟨ready, steady⟩ := orderly
    obtain ⟨wider, grown, left, same⟩ :=
      selection.alike_resume ready (steady rfl) alike tidy moments answer keeps
    simp only [resume, same]
    exact ⟨wider, grown, left, .same _ rfl⟩
  | invoking invocation =>
    obtain rfl := Option.some.inj here
    cases own with
    | invoking ownInvocation =>
      exact invocation.alike_resume ownInvocation tasks orderly alike tidy moments answer keeps
    | _ => cases tasks
  | _ => cases here

omit [Weight ω] in
/-- A task on a service that is dropped leaves the routers alike. Only a lookup has anything to
give up, namely its place in the line, so the other phases leave the cache as it is. -/
theorem alike_abandon (service : String) (task own : Task) (here : task.service? = some service)
    (tasks : task.Alike places own) (orderly : task.Orderly service) (client clientAlone : Client ω)
    (alike : client.router.Alike service rename places clientAlone.router)
    (injective : Function.Injective rename) (ticket : Ticket) :
    (task.abandon client ticket).router.Alike service rename places
      (own.abandon clientAlone (rename ticket)).router := by
  refine alike.withCache ?_
  -- A selection gives up the place of its lookup in the line for the load.
  have left (selection : Selection) (same : selection.service = service)
      (ready : selection.Orderly) :
      (selection.abandon client.router.cache ticket).Alike service rename
        (selection.abandon clientAlone.router.cache (rename ticket)) := by
    unfold Selection.abandon
    split
    · rename_i strategy lookup phase
      obtain rfl : lookup.service = service := (ready strategy lookup phase).1.trans same
      exact alike.cache.abandon injective ticket
    · exact alike.cache
    · exact alike.cache
  cases task with
  | looking lookup =>
    cases tasks
    obtain rfl := Option.some.inj here
    exact alike.cache.abandon injective ticket
  | choosing selection =>
    cases tasks
    exact left selection (Option.some.inj here) orderly.1
  | invoking invocation =>
    cases tasks with
    | same task idle =>
      simp only [Invocation.abandon]
      split
      · rename_i selection phase
        have serves := orderly.serves selection phase
        exact left selection (serves.own.trans (Option.some.inj here)) serves.orderly
      · exact alike.cache
      · exact alike.cache
      · exact alike.cache
    | working => exact alike.cache
  | _ => cases here

end Task

end Steps

end CallRouting
