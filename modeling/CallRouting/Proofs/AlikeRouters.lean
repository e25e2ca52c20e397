import CallRouting.Proofs.AlikeLedgers
import CallRouting.Proofs.Orderly

/-!
# Routers alike in one service

What a router has to do with one service is the slot of the cache, the turns that are
counted for it, its book, and the rules for all. Two routers that are alike in these do the
same for the service, and stay alike, by every steady strategy.

The tasks that stand in the line of the slot may have other tickets in the second router. A
function says which ticket stands for which.
-/

namespace CallRouting

variable {rename : Ticket → Ticket} {service : String}

namespace LoadLock

/-- The lock with other tickets in its line. -/
def renamed (rename : Ticket → Ticket) (lock : LoadLock) : LoadLock := ⟨lock.line.map rename⟩

/-- To stand in line and to be renamed may come in either order. -/
theorem renamed_request (lock : LoadLock) (ticket : Ticket) :
    (lock.request ticket).renamed rename = (lock.renamed rename).request (rename ticket) := by
  simp [renamed, request]

/-- The release of a lock and the renaming may come in either order. -/
theorem renamed_release (lock : LoadLock) :
    lock.release.renamed rename = (lock.renamed rename).release := by
  simp [renamed, release, List.map_tail]

/-- Going away and the renaming may come in either order, if no two tickets become one. -/
theorem renamed_withdraw (injective : Function.Injective rename) (lock : LoadLock)
    (ticket : Ticket) :
    (lock.withdraw ticket).renamed rename = (lock.renamed rename).withdraw (rename ticket) := by
  simp only [renamed, withdraw, List.filter_map, LoadLock.mk.injEq]
  congr 2
  funext waiting
  simp [injective.eq_iff]

/-- The holder of a renamed lock is the renamed holder. -/
theorem holder?_renamed (lock : LoadLock) :
    (lock.renamed rename).holder? = lock.holder?.map rename := by
  simp [renamed, holder?, List.head?_map]

end LoadLock

/-- The slot with other tickets in its line. -/
def CacheSlot.renamed (rename : Ticket → Ticket) (slot : CacheSlot) : CacheSlot :=
  { slot with lock := slot.lock.renamed rename }

/-- Two caches that are alike in the slot of one service. -/
structure Cache.Alike (service : String) (rename : Ticket → Ticket) (cache alone : Cache) :
    Prop where
  ttl : alone.ttl = cache.ttl
  slot : alone.slot service = (cache.slot service).renamed rename

namespace Cache.Alike

variable {cache alone : Cache}

/-- A ticket may enter in the one cache just if its name may in the other. -/
theorem admits (alike : cache.Alike service rename alone) (injective : Function.Injective rename)
    (ticket : Ticket) : alone.admits (rename ticket) service = cache.admits ticket service := by
  simp only [Cache.admits, alike.slot, CacheSlot.renamed, LoadLock.holder?_renamed]
  cases (cache.slot service).lock.holder? <;> simp [injective.eq_iff]

/-- The list at hand is the same in both. -/
theorem peek (alike : cache.Alike service rename alone) :
    alone.peek service = cache.peek service := by
  simp only [Cache.peek, alike.slot, CacheSlot.renamed]

/-- A cache that has changed in the slots of other services only is still alike to the one of the
service alone. -/
theorem elsewhere {after : Cache} (alike : cache.Alike service rename alone)
    (ttl : after.ttl = cache.ttl) (slot : after.slot service = cache.slot service) :
    after.Alike service rename alone :=
  ⟨alike.ttl.trans ttl.symm, by rw [slot, alike.slot]⟩

/-- To forget the list in both leaves them alike. -/
theorem invalidate (alike : cache.Alike service rename alone) :
    (cache.invalidate service).Alike service rename (alone.invalidate service) := by
  refine ⟨alike.ttl, ?_⟩
  rw [slot_invalidate, slot_invalidate, if_pos rfl, if_pos rfl, alike.slot]
  rfl

/-- A lookup for the service goes on in both in the same way.

In each phase the lookup reads the list at hand, the number of loads and the line of its
service only, and these are the same in both, up to the tickets in the line. -/
theorem resume {lookup : Lookup} (alike : cache.Alike lookup.service rename alone) (now : Instant)
    (ticket : Ticket) (answer : Answer) :
    (lookup.resume cache now ticket answer).1.Alike lookup.service rename
        (lookup.resume alone now (rename ticket) answer).1 ∧
      (lookup.resume alone now (rename ticket) answer).2 =
        (lookup.resume cache now ticket answer).2 := by
  obtain ⟨name, phase⟩ := lookup
  have set (slot : CacheSlot) :
      (cache.setSlot name slot).Alike name rename (alone.setSlot name (slot.renamed rename)) :=
    ⟨alike.ttl, by rw [slot_setSlot, slot_setSlot, if_pos rfl, if_pos rfl]⟩
  obtain ⟨ttl, slot⟩ := alike
  dsimp only at slot
  cases phase with
  | asked reload =>
    cases answer with
    | turn =>
      simp only [Lookup.resume, come, slot, ttl]
      have same : ((cache.slot name).renamed rename).fresh? cache.ttl now =
          (cache.slot name).fresh? cache.ttl now := rfl
      rw [same]
      generalize (if reload then none else (cache.slot name).fresh? cache.ttl now) = found
      cases found with
      | some cached => exact ⟨set _, rfl⟩
      | none =>
        refine ⟨?_, rfl⟩
        have queued := set { cache.slot name with lock := (cache.slot name).lock.request ticket }
        simp only [CacheSlot.renamed, LoadLock.renamed_request] at queued
        exact queued
    | _ => exact ⟨⟨ttl, slot⟩, rfl⟩
  | queued seen =>
    cases answer with
    | lock =>
      simp only [Lookup.resume, enter, slot]
      have same : ((cache.slot name).renamed rename).loads = (cache.slot name).loads := rfl
      rw [same]
      by_cases changed : seen.any (fun count => decide (count ≠ (cache.slot name).loads)) = true
      · simp only [changed, if_true]
        refine ⟨?_, rfl⟩
        have left := set { cache.slot name with lock := (cache.slot name).lock.release }
        simp only [CacheSlot.renamed, LoadLock.renamed_release] at left
        exact left
      · simp only [changed]
        exact ⟨⟨ttl, slot⟩, rfl⟩
    | _ => exact ⟨⟨ttl, slot⟩, rfl⟩
  | loading =>
    cases answer with
    | listing listing =>
      simp only [Lookup.resume, complete, slot]
      have done := set ((cache.slot name).completed now listing)
      simp only [CacheSlot.renamed, CacheSlot.completed, LoadLock.renamed_release] at done
      exact ⟨done, rfl⟩
    | _ => exact ⟨⟨ttl, slot⟩, rfl⟩
  | answered instances => exact ⟨⟨ttl, slot⟩, rfl⟩

/-- A lookup that goes away in both leaves them alike. -/
theorem abandon {lookup : Lookup} (alike : cache.Alike lookup.service rename alone)
    (injective : Function.Injective rename) (ticket : Ticket) :
    (lookup.abandon cache ticket).Alike lookup.service rename
      (lookup.abandon alone (rename ticket)) := by
  refine ⟨?_, ?_⟩
  · rw [Lookup.ttl_abandon, Lookup.ttl_abandon, alike.ttl]
  · rw [Lookup.slot_abandon, Lookup.slot_abandon, alike.slot]
    split
    · simp only [CacheSlot.renamed, LoadLock.renamed_withdraw injective]
    · rfl

end Cache.Alike

variable {ω : Type} {places : List Handle}

/-- Where as many turns were taken for a service, the next turn goes to the same candidate. -/
theorem Rotation.select_congr (rotation alone : Rotation) (candidates : List Instance)
    (turns : rotation.count service = alone.count service) :
    (rotation.select service candidates).1.count service =
        (alone.select service candidates).1.count service ∧
      (rotation.select service candidates).2 = (alone.select service candidates).2 := by
  have next : (rotation.next service candidates.length).2 =
      (alone.next service candidates.length).2 := by
    simp only [next, turns]
  have counted : (rotation.next service candidates.length).1.count service =
      (alone.next service candidates.length).1.count service := by
    rw [count_next, count_next, if_pos rfl, if_pos rfl, turns]
  unfold select
  generalize rotation.next service candidates.length = taken at next counted ⊢
  generalize alone.next service candidates.length = takenAlone at next counted ⊢
  obtain ⟨after, place⟩ := taken
  obtain ⟨afterAlone, placeAlone⟩ := takenAlone
  obtain rfl : place = placeAlone := next
  cases place <;> exact ⟨counted, rfl⟩

/-- What the strategies read and write for one service is alike. -/
structure Balance.Alike (service : String) (places : List Handle) (balance alone : Balance ω) :
    Prop where
  turns : balance.rotation.count service = alone.rotation.count service
  retryTurns : balance.retryRotation.count service = alone.retryRotation.count service
  ledger : balance.ledger.Alike service places alone.ledger

/-- A steady strategy picks the same of instances of the service, whatever is drawn.

Turns are taken from the number that the service is at, which is the same in both; and the least
busy instance is found by counts that are. The strategies that draw, or that know more of the
ledger, are not steady. -/
theorem Balance.Alike.choose [Weight ω] {balance alone : Balance ω}
    (alike : balance.Alike service places alone) (strategy : Strategy) (steady : strategy.Steady)
    (draw drawAlone : Draw ω) (now : Instant) (candidates : List Instance)
    (named : Named service candidates) :
    ∃ wider, balance.ledger.Widens places wider ∧
      (balance.choose strategy draw now service candidates).1.Alike service wider
        (alone.choose strategy drawAlone now service candidates).1 ∧
      (balance.choose strategy draw now service candidates).2 =
        (alone.choose strategy drawAlone now service candidates).2 := by
  unfold Balance.choose
  by_cases empty : candidates.isEmpty = true
  · rw [if_pos empty, if_pos empty]
    exact ⟨places, .refl _ places, alike, rfl⟩
  · rw [if_neg empty, if_neg empty]
    cases strategy with
    | roundRobin =>
      obtain ⟨counted, same⟩ := Rotation.select_congr _ _ candidates alike.turns
      refine ⟨places, .refl _ places, ?_⟩
      simp only [Balance.select, same]
      cases (alone.rotation.select service candidates).2 with
      | ok picked => exact ⟨⟨counted, alike.retryTurns, alike.ledger⟩, rfl⟩
      | error fault => exact ⟨⟨counted, alike.retryTurns, alike.ledger⟩, rfl⟩
    | retryRoundRobin =>
      obtain ⟨counted, same⟩ := Rotation.select_congr _ _ candidates alike.retryTurns
      refine ⟨places, .refl _ places, ?_⟩
      simp only [Balance.select, same]
      cases (alone.retryRotation.select service candidates).2 with
      | ok picked => exact ⟨⟨alike.turns, counted, alike.ledger⟩, rfl⟩
      | error fault => exact ⟨⟨alike.turns, counted, alike.ledger⟩, rfl⟩
    | bestAvailable =>
      obtain ⟨wider, grown, after, same⟩ := alike.ledger.leastActive now none candidates named
      exact ⟨wider, grown, ⟨alike.turns, alike.retryTurns, after⟩, same⟩
    | weightedResponseTime => exact steady.elim
    | random => exact steady.elim
    | custom name rule => exact steady.elim

/-- Two routers that are alike in all that they have to do with one service. -/
structure Router.Alike (service : String) (rename : Ticket → Ticket) (places : List Handle)
    (router alone : Router ω) : Prop where
  cache : router.cache.Alike service rename alone.cache
  filters : router.filters = alone.filters
  strategy : router.strategy = alone.strategy
  balance : router.balance.Alike service places alone.balance

namespace Router.Alike

variable {router alone : Router ω}

/-- Routers that are alike still are so with other lists that are alike. -/
theorem withCache (alike : router.Alike service rename places alone) {cache cacheAlone : Cache}
    (caches : cache.Alike service rename cacheAlone) :
    ({ router with cache } : Router ω).Alike service rename places
      { alone with cache := cacheAlone } :=
  ⟨caches, alike.filters, alike.strategy, alike.balance⟩

/-- Routers that are alike still are so with other turns and statistics that are alike. -/
theorem withBalance (alike : router.Alike service rename places alone) {wider : List Handle}
    {balance balanceAlone : Balance ω} (balances : balance.Alike service wider balanceAlone) :
    ({ router with balance } : Router ω).Alike service rename wider
      { alone with balance := balanceAlone } :=
  ⟨alike.cache, alike.filters, alike.strategy, balances⟩

/-- Routers that are alike still are so with other statistics that are alike. -/
theorem withLedger (alike : router.Alike service rename places alone) {wider : List Handle}
    {ledger ledgerAlone : Ledger ω} (ledgers : ledger.Alike service wider ledgerAlone) :
    ({ router with balance := { router.balance with ledger } } : Router ω).Alike service rename
      wider { alone with balance := { alone.balance with ledger := ledgerAlone } } :=
  alike.withBalance ⟨alike.balance.turns, alike.balance.retryTurns, ledgers⟩

/-- The candidates in a list are the same for both, for the filters are. -/
theorem candidates (alike : router.Alike service rename places alone)
    (instances : List Instance) : router.candidates instances = alone.candidates instances := by
  simp only [Router.candidates, alike.filters]

/-- The candidates in the list at hand are the same in routers that are alike. -/
theorem cachedCandidates (alike : router.Alike service rename places alone) :
    router.cachedCandidates service = alone.cachedCandidates service := by
  have same : router.candidates = alone.candidates := funext alike.candidates
  simp only [Router.cachedCandidates, alike.cache.peek, same]

/-- A steady strategy picks the same from one list. -/
theorem pick [Weight ω] (alike : router.Alike service rename places alone) (strategy : Strategy)
    (steady : strategy.Steady) (draw drawAlone : Draw ω) (now : Instant) (failed : List Identity)
    (instances : List Instance) (named : Named service (router.candidates instances)) :
    ∃ wider, router.balance.ledger.Widens places wider ∧
      (router.pick strategy draw now service failed instances).1.Alike service rename wider
        (alone.pick strategy drawAlone now service failed instances).1 ∧
      (router.pick strategy draw now service failed instances).2 =
        (alone.pick strategy drawAlone now service failed instances).2 := by
  have left : Named service (avoiding (router.candidates instances) failed) :=
    fun x member => named x (mem_of_mem_avoiding _ _ x member)
  obtain ⟨wider, grown, chosen, same⟩ :=
    alike.balance.choose strategy steady draw drawAlone now _ left
  unfold Router.pick
  rw [← alike.candidates instances]
  exact ⟨wider, grown, alike.withBalance chosen, same⟩

end Router.Alike

end CallRouting
