import CallRouting.Cache.LoadLock
import CallRouting.Directory
import CallRouting.Duration

/-!
# The cache of instance lists

The cache keeps, for every service that was ever asked for, the list that the
directory gave last and when it came. A list is fresh until its time to live has
passed; at that very instant it still is.

A list that is not fresh is loaded again, by one task at a time for each service:
a task that wants to load holds the load lock of the service, and the others wait
in line. A task that only needs some list notes how many loads had completed when it
came; if that number has changed once it holds the lock, somebody has loaded in the
meantime and the list at hand is good enough, even if that load failed.

The functions here are the steps between two points at which a task may have to
wait. They take the time and the answers of the directory as arguments, so any
interleaving of tasks is a sequence of these steps.
-/

namespace CallRouting

/-- A list of the directory and when it came. -/
structure CachedList where
  instances : List Instance
  loadedAt : Instant

/-- Whether the time to live has passed. -/
def CachedList.isExpired (cached : CachedList) (ttl : Duration) (now : Instant) : Bool :=
  cached.loadedAt + ttl.nanos < now

/-- What the cache keeps for one service. -/
structure CacheSlot where
  cached : Option CachedList
  /-- How many loads have completed, failed ones included. -/
  loads : UInt64
  lock : LoadLock

namespace CacheSlot

/-- The slot of a service of which nothing is known yet. -/
def empty : CacheSlot := ⟨none, 0, .free⟩

/-- The list at hand, fresh or not. -/
def instances (slot : CacheSlot) : List Instance := (slot.cached.map (·.instances)).getD []

/-- The list at hand if it is fresh. -/
def fresh? (slot : CacheSlot) (ttl : Duration) (now : Instant) : Option CachedList :=
  slot.cached.filter fun cached => !cached.isExpired ttl now

end CacheSlot

/-- The lists of all services, and how long one stays fresh. -/
structure Cache where
  ttl : Duration
  slots : Registry String CacheSlot

/-- How far a task has come with the list of a service. -/
inductive LookupPhase
  /-- It has not begun. Whether it will load in any case. -/
  | asked (reload : Bool)
  /-- It wants the lock. The number of loads it has seen, unless it loads in any case. -/
  | queued (seen : Option UInt64)
  /-- It holds the lock and has asked the directory. -/
  | loading
  | answered (instances : List Instance)

namespace Cache

/-- A cache that knows no service. -/
def empty (ttl : Duration) : Cache := ⟨ttl, ∅⟩

/-- What is kept for a service, which is nothing for a new one. -/
def slot (cache : Cache) (service : String) : CacheSlot :=
  (cache.slots.find? service).getD .empty

/-- The cache with another slot for one service. -/
def setSlot (cache : Cache) (service : String) (slot : CacheSlot) : Cache :=
  { cache with slots := cache.slots.put service slot }

/-- A slot that was set is found, and those of other services as before. -/
theorem slot_setSlot (cache : Cache) (service other : String) (slot : CacheSlot) :
    (cache.setSlot service slot).slot other =
      if service = other then slot else cache.slot other := by
  unfold setSlot Cache.slot
  rw [Registry.find?_put]
  split <;> rfl

/-- The services that were ever asked for. -/
def services (cache : Cache) : List String := cache.slots.keys

/-- The services of the cache, sorted by their names. -/
def sortedServices (cache : Cache) : List String :=
  cache.services.mergeSort fun a b => !decide (b < a)

/-- The list at hand, fresh or not, without asking the directory. -/
def peek (cache : Cache) (service : String) : Option CachedList := (cache.slot service).cached

/-- Whether a task holds the load lock of a service. -/
def admits (cache : Cache) (ticket : Ticket) (service : String) : Bool :=
  (cache.slot service).lock.holder? == some ticket

/-- Forget the list of a service. A load that is under way goes on. -/
def invalidate (cache : Cache) (service : String) : Cache :=
  { cache with slots := cache.slots.modify service fun slot => { slot with cached := none } }

/-- Only the list that is forgotten changes. -/
theorem peek_invalidate (cache : Cache) (service other : String) :
    (cache.invalidate service).peek other = if service = other then none else cache.peek other := by
  simp only [peek, slot, invalidate, Registry.find?_modify]
  by_cases same : service = other
  · cases cache.slots.find? other <;> simp [same, CacheSlot.empty]
  · simp [same]

/-- A task comes for the list of a service: it gets a fresh one at once, and otherwise
stands in line for the lock. -/
def come (cache : Cache) (now : Instant) (ticket : Ticket) (service : String) (reload : Bool) :
    Cache × LookupPhase :=
  let slot := cache.slot service
  match if reload then none else slot.fresh? cache.ttl now with
  | some cached => (cache.setSlot service slot, .answered cached.instances)
  | none =>
    (cache.setSlot service { slot with lock := slot.lock.request ticket },
      .queued (if reload then none else some slot.loads))

/-- To come for a list changes no list. -/
theorem peek_come (cache : Cache) (now : Instant) (ticket : Ticket) (service other : String)
    (reload : Bool) : (cache.come now ticket service reload).1.peek other = cache.peek other := by
  unfold come
  dsimp only
  generalize (if reload then none else (cache.slot service).fresh? cache.ttl now) = found
  cases found <;> by_cases same : service = other <;> simp [peek, slot_setSlot, same]

/-- A task has got the lock: if a load has completed since it came, it lets go of the
lock and takes the list at hand; otherwise it loads. -/
def enter (cache : Cache) (service : String) (seen : Option UInt64) : Cache × LookupPhase :=
  let slot := cache.slot service
  if seen.any (· ≠ slot.loads) then
    (cache.setSlot service { slot with lock := slot.lock.release }, .answered slot.instances)
  else (cache, .loading)

/-- To get the lock changes no list. -/
theorem peek_enter (cache : Cache) (service other : String) (seen : Option UInt64) :
    (cache.enter service seen).1.peek other = cache.peek other := by
  unfold enter
  dsimp only
  split
  · by_cases same : service = other <;> simp [peek, slot_setSlot, same]
  · rfl

/-- The directory has answered a load. Its list is kept and given; in place of a
failure the list at hand is given. The load counts in both cases. -/
def complete (cache : Cache) (now : Instant) (service : String)
    (answer : Except DirectoryFault (List Instance)) : Cache × LookupPhase :=
  let slot := cache.slot service
  let cached := match answer with
    | .ok instances => some ⟨instances, now⟩
    | .error _ => slot.cached
  let slot := { cached, loads := slot.loads + 1, lock := slot.lock.release }
  (cache.setSlot service slot, .answered slot.instances)

/-- A load that succeeds puts its list in the place of the one at hand. -/
theorem peek_complete_ok (cache : Cache) (now : Instant) (service other : String)
    (instances : List Instance) :
    (cache.complete now service (.ok instances)).1.peek other =
      if service = other then some ⟨instances, now⟩ else cache.peek other := by
  by_cases same : service = other <;> simp [complete, peek, slot_setSlot, same]

/-- A load that fails leaves every list as it was. -/
theorem peek_complete_error (cache : Cache) (now : Instant) (service other : String)
    (fault : DirectoryFault) :
    (cache.complete now service (.error fault)).1.peek other = cache.peek other := by
  by_cases same : service = other <;> simp [complete, peek, slot_setSlot, same]

/-- A task goes away before it has its list. -/
def leave (cache : Cache) (ticket : Ticket) (service : String) : Cache :=
  { cache with
    slots := cache.slots.modify service fun slot =>
      { slot with lock := slot.lock.withdraw ticket } }

/-- To go away changes no list. -/
theorem peek_leave (cache : Cache) (ticket : Ticket) (service other : String) :
    (cache.leave ticket service).peek other = cache.peek other := by
  simp only [peek, slot, leave, Registry.find?_modify]
  by_cases same : service = other
  · cases cache.slots.find? other <;> simp [same]
  · simp [same]

end Cache

end CallRouting
