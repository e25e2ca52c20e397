import CallRouting.Proofs.Traffic

/-!
# The list of one service

Services do not meet in the cache. What happens at the list of one service is told by
the slot of the cache and by how far each task has come with that list. `ServiceState` holds
both, and `ServiceState.Step` is everything that can happen to them, together with what is
seen of it. Each move of the traffic is such a step in the state of every service, so what
each step keeps, a run keeps; further statements about runs rest on that alone.
-/

namespace CallRouting

/-- The holder of a lock leaves the line, and nobody else does. -/
theorem LoadLock.mem_release (lock : LoadLock) (distinct : lock.line.Nodup) (ticket other : Ticket)
    (holds : lock.holder? = some ticket) :
    other ∈ lock.release.line ↔ other ≠ ticket ∧ other ∈ lock.line := by
  have split := lock.line_release ticket holds
  rw [split, List.nodup_cons] at distinct
  rw [split, List.mem_cons]
  constructor
  · intro member
    exact ⟨fun same => distinct.1 (same ▸ member), .inr member⟩
  · rintro ⟨differs, same | member⟩
    · exact absurd same differs
    · exact member

namespace Cache

/-- A change of one slot that leaves an empty slot empty. -/
theorem slot_modify (cache : Cache) (service other : String) (change : CacheSlot → CacheSlot)
    (rest : change .empty = .empty) :
    ({ cache with slots := cache.slots.modify service change } : Cache).slot other =
      if service = other then change (cache.slot other) else cache.slot other := by
  unfold slot
  rw [Registry.find?_modify]
  split
  · cases cache.slots.find? other <;> simp [rest]
  · rfl

/-- To forget the list of a service empties its slot, but for the line and the count of loads. -/
theorem slot_invalidate (cache : Cache) (service other : String) :
    (cache.invalidate service).slot other =
      if service = other then { cache.slot other with cached := none } else cache.slot other :=
  cache.slot_modify service other _ rfl

/-- To leave a line takes the ticket out of it. -/
theorem slot_leave (cache : Cache) (ticket : Ticket) (service other : String) :
    (cache.leave ticket service).slot other =
      if service = other then
        { cache.slot other with lock := (cache.slot other).lock.withdraw ticket }
      else cache.slot other :=
  cache.slot_modify service other _ rfl

end Cache

/-- The slot after a load. -/
def CacheSlot.completed (slot : CacheSlot) (now : Instant)
    (answer : Except DirectoryFault (List Instance)) : CacheSlot where
  cached := match answer with
    | .ok instances => some ⟨instances, now⟩
    | .error _ => slot.cached
  loads := slot.loads + 1
  lock := slot.lock.release

namespace Lookup

/-- Going on keeps the service. -/
theorem service_resume (lookup : Lookup) (cache : Cache) (now : Instant) (ticket : Ticket)
    (answer : Answer) : (lookup.resume cache now ticket answer).2.service = lookup.service := by
  unfold resume
  split <;> rfl

/-- Going on changes the slot of no other service. -/
theorem slot_resume (lookup : Lookup) (cache : Cache) (now : Instant) (ticket : Ticket)
    (answer : Answer) (other : String) (elsewhere : lookup.service ≠ other) :
    (lookup.resume cache now ticket answer).1.slot other = cache.slot other := by
  unfold resume
  split
  · simp only [Cache.come]
    split <;> simp [Cache.slot_setSlot, elsewhere]
  · simp only [Cache.enter]
    split <;> simp [Cache.slot_setSlot, elsewhere]
  · simp [Cache.complete, Cache.slot_setSlot, elsewhere]
  · rfl

/-- A lookup that goes on leaves the time to live. -/
theorem ttl_resume (lookup : Lookup) (cache : Cache) (now : Instant) (ticket : Ticket)
    (answer : Answer) : (lookup.resume cache now ticket answer).1.ttl = cache.ttl := by
  unfold resume
  split
  · simp only [Cache.come]
    split <;> rfl
  · simp only [Cache.enter]
    split <;> rfl
  · rfl
  · rfl

/-- A lookup that is given up leaves the time to live. -/
theorem ttl_abandon (lookup : Lookup) (cache : Cache) (ticket : Ticket) :
    (lookup.abandon cache ticket).ttl = cache.ttl := by
  unfold abandon
  split <;> rfl

/-- Going away gives up a place in line, if there is one. -/
theorem slot_abandon (lookup : Lookup) (cache : Cache) (ticket : Ticket) (other : String) :
    (lookup.abandon cache ticket).slot other =
      if lookup.service = other ∧ lookup.phase.inLine = true then
        { cache.slot other with lock := (cache.slot other).lock.withdraw ticket }
      else cache.slot other := by
  obtain ⟨service, phase⟩ := lookup
  cases phase <;> simp [abandon, LookupPhase.inLine, Cache.slot_leave]

end Lookup

/-- The state of one service at one moment: the slot of its list, and how far each task has come
with that list. -/
@[ext]
structure ServiceState where
  now : Instant
  /-- No task has this ticket yet, nor a later one. -/
  nextTicket : Ticket
  slot : CacheSlot
  /-- How far each task has come with the list. -/
  phase? : Ticket → Option LookupPhase

namespace ServiceState

/-- The state with a task in another phase, or without it. -/
def put (state : ServiceState) (ticket : Ticket) (phase : Option LookupPhase) : ServiceState :=
  { state with phase? := fun other => if other = ticket then phase else state.phase? other }

/-- The task that is put has the new phase, and the others have theirs. -/
theorem phase?_put (state : ServiceState) (ticket other : Ticket) (phase : Option LookupPhase) :
    (state.put ticket phase).phase? other = if other = ticket then phase else state.phase? other :=
  rfl

/-- A task in a phase that none has just come into is another one, and was in it before. -/
theorem phase?_of_put {state : ServiceState} {ticket other : Ticket} {phase : Option LookupPhase}
    {known : LookupPhase} (found : (state.put ticket phase).phase? other = some known)
    (differs : phase ≠ some known) : other ≠ ticket ∧ state.phase? other = some known := by
  rw [phase?_put] at found
  split at found
  · exact absurd found differs
  · exact ⟨‹_›, found⟩

/-- Everything that can happen at the list of one service, and what is seen of it. -/
inductive Step (ttl : Duration) (state : ServiceState) : ServiceState → List Sight → Prop
  /-- Time passes, or something happens elsewhere. -/
  | quiet (now : Instant) (nextTicket : Ticket) (later : state.now ≤ now)
      (further : state.nextTicket ≤ nextTicket) :
      Step ttl state { state with now, nextTicket } []
  | ask (reload : Bool) :
      Step ttl state
        { state.put state.nextTicket (some (.asked reload)) with
          nextTicket := state.nextTicket + 1 }
        []
  /-- A task comes and finds a fresh list. -/
  | fresh (ticket : Ticket) (cached : CachedList)
      (phase : state.phase? ticket = some (.asked false))
      (found : state.slot.fresh? ttl state.now = some cached) :
      Step ttl state (state.put ticket (some (.answered cached.instances)))
        [.came ticket false state.now state.slot.lock.line.length,
          .answered ticket cached.instances]
  /-- A task comes and stands in line. -/
  | queue (ticket : Ticket) (reload : Bool) (phase : state.phase? ticket = some (.asked reload))
      (stale : reload = false → state.slot.fresh? ttl state.now = none) :
      Step ttl state
        { state.put ticket (some (.queued (if reload then none else some state.slot.loads))) with
          slot := { state.slot with lock := state.slot.lock.request ticket } }
        [.came ticket reload state.now state.slot.lock.line.length]
  /-- The holder of the lock takes the list at hand, for somebody has loaded meanwhile. -/
  | reuse (ticket : Ticket) (seen : UInt64)
      (phase : state.phase? ticket = some (.queued (some seen)))
      (holds : state.slot.lock.holder? = some ticket) (changed : seen ≠ state.slot.loads) :
      Step ttl state
        { state.put ticket (some (.answered state.slot.instances)) with
          slot := { state.slot with lock := state.slot.lock.release } }
        [.answered ticket state.slot.instances]
  /-- The holder of the lock asks the directory. -/
  | call (ticket : Ticket) (seen : Option UInt64)
      (phase : state.phase? ticket = some (.queued seen))
      (holds : state.slot.lock.holder? = some ticket)
      (unchanged : ∀ count, seen = some count → count = state.slot.loads) :
      Step ttl state (state.put ticket (some .loading)) [.called ticket]
  /-- The directory answers. -/
  | load (ticket : Ticket) (answer : Except DirectoryFault (List Instance))
      (phase : state.phase? ticket = some .loading) :
      Step ttl state
        { state.put ticket (some (.answered (state.slot.completed state.now answer).instances)) with
          slot := state.slot.completed state.now answer }
        [.loaded ticket answer state.now,
          .answered ticket (state.slot.completed state.now answer).instances]
  /-- A task is dropped before it stands in line. -/
  | withdraw (ticket : Ticket) (reload : Bool)
      (phase : state.phase? ticket = some (.asked reload)) :
      Step ttl state (state.put ticket none) [.left ticket]
  /-- A task is dropped from the line. -/
  | leave (ticket : Ticket) (phase : LookupPhase) (found : state.phase? ticket = some phase)
      (waits : phase.inLine = true) :
      Step ttl state
        { state.put ticket none with
          slot := { state.slot with lock := state.slot.lock.withdraw ticket } }
        [.left ticket]
  | forget :
      Step ttl state { state with slot := { state.slot with cached := none } } [.forgotten]

end ServiceState

namespace Traffic

/-- What the traffic is for one service. -/
def serviceState (service : String) (traffic : Traffic) : ServiceState where
  now := traffic.now
  nextTicket := traffic.nextTicket
  slot := traffic.cache.slot service
  phase? ticket := do
    let lookup ← traffic.lookups.find? ticket
    if lookup.service = service then some lookup.phase else none

/-- No task has a ticket that is still to be given out. -/
def Numbered (traffic : Traffic) : Prop :=
  ∀ ticket, traffic.nextTicket ≤ ticket → traffic.lookups.find? ticket = none

variable {traffic : Traffic}

/-- How far a task has come that is known by its lookup. -/
theorem phase?_serviceState {ticket : Ticket} {lookup : Lookup}
    (found : traffic.lookups.find? ticket = some lookup) :
    (traffic.serviceState lookup.service).phase? ticket = some lookup.phase := by
  simp [serviceState, found]

/-- A task that has come to a list is known by its lookup. -/
theorem find?_of_phase? {service : String} {ticket : Ticket} {phase : LookupPhase}
    (found : (traffic.serviceState service).phase? ticket = some phase) :
    traffic.lookups.find? ticket = some ⟨service, phase⟩ := by
  cases known : traffic.lookups.find? ticket with
  | none => simp [serviceState, known] at found
  | some lookup =>
    simp only [serviceState, known, Option.bind_eq_bind, Option.bind_some,
      Option.ite_none_right_eq_some, Option.some.injEq] at found
    obtain ⟨rfl, rfl⟩ := found
    rfl

/-- The state of a service after one of its tasks has come further. -/
theorem serviceState_put (traffic : Traffic) (ticket : Ticket) (lookup : Lookup) (cache : Cache) :
    ({ traffic with cache, lookups := traffic.lookups.put ticket lookup } : Traffic).serviceState
        lookup.service =
      { (traffic.serviceState lookup.service).put ticket (some lookup.phase) with
        slot := cache.slot lookup.service } := by
  refine ServiceState.ext rfl rfl rfl ?_
  funext other
  simp only [serviceState, ServiceState.put, Registry.find?_put, eq_comm (a := other)]
  split <;> simp

/-- The state of a service after one of its tasks has gone away: without that task, and with the
slot that the cache has then. A task of another service is not in the state at all. -/
theorem serviceState_erase {ticket : Ticket} {lookup : Lookup} (cache : Cache) (service : String)
    (found : traffic.lookups.find? ticket = some lookup) :
    ({ traffic with cache, lookups := traffic.lookups.erase ticket } : Traffic).serviceState
        service =
      { (if lookup.service = service then (traffic.serviceState service).put ticket none
          else traffic.serviceState service) with slot := cache.slot service } := by
  by_cases same : lookup.service = service
  · rw [if_pos same]
    refine ServiceState.ext rfl rfl rfl ?_
    funext other
    simp only [serviceState, ServiceState.put, Registry.find?_erase]
    split <;> simp
  · rw [if_neg same]
    refine ServiceState.ext rfl rfl rfl ?_
    funext other
    simp only [serviceState, Registry.find?_erase]
    split
    · rename_i here
      simp [here, found, same]
    · rfl

/-- The state of another service does not change when a task has come further. -/
theorem serviceState_put_elsewhere (service : String) (ticket : Ticket) (lookup : Lookup)
    (cache : Cache)
    (slot : cache.slot service = traffic.cache.slot service) (elsewhere : lookup.service ≠ service)
    (unseen : (traffic.serviceState service).phase? ticket = none) :
    ({ traffic with cache, lookups := traffic.lookups.put ticket lookup } : Traffic).serviceState
        service =
      traffic.serviceState service := by
  refine ServiceState.ext rfl rfl slot ?_
  funext other
  by_cases same : ticket = other
  · subst same
    rw [unseen]
    simp [serviceState, Registry.find?_put, elsewhere]
  · simp [serviceState, Registry.find?_put, same]

/-- A task that goes on was known, and what it waited for has come. -/
theorem roused?_eq_some {ticket : Ticket} {answer : Answer} {lookup : Lookup}
    (roused : traffic.roused? ticket answer = some lookup) :
    traffic.lookups.find? ticket = some lookup ∧
      ∃ await, lookup.await? = some await ∧ traffic.permits ticket await answer = true := by
  unfold roused? at roused
  cases found : traffic.lookups.find? ticket with
  | none => simp [found] at roused
  | some candidate =>
    cases waits : candidate.await? with
    | none => simp [found, waits] at roused
    | some await =>
      simp only [found, waits, Option.bind_eq_bind, Option.bind_some,
        Option.ite_none_right_eq_some, Option.some.injEq] at roused
      obtain ⟨permitted, rfl⟩ := roused
      exact ⟨rfl, await, waits, permitted⟩

/-- Who waits for its turn goes on at its turn. -/
theorem permits_turn {ticket : Ticket} {answer : Answer}
    (permitted : traffic.permits ticket .turn answer = true) : answer = .turn := by
  cases answer <;> simp [permits, Answer.fits] at permitted ⊢

/-- Who waits for the lock goes on when it holds the lock. -/
theorem permits_lock {ticket : Ticket} {service : String} {answer : Answer}
    (permitted : traffic.permits ticket (.lock service) answer = true) :
    answer = .lock ∧ (traffic.cache.slot service).lock.holder? = some ticket := by
  cases answer <;> simp [permits, Answer.fits, Cache.admits] at permitted ⊢
  exact permitted

/-- Who waits for the directory goes on at its answer. -/
theorem permits_listing {ticket : Ticket} {service : String} {answer : Answer}
    (permitted : traffic.permits ticket (.listing service) answer = true) :
    ∃ listing, answer = .listing listing := by
  cases answer <;> simp [permits, Answer.fits] at permitted ⊢

/-- Where an answer lets a task go on, the traffic after it has the cache and the lookup that the
task has come to. -/
theorem step_answer {ticket : Ticket} {answer : Answer} {lookup : Lookup}
    (roused : traffic.roused? ticket answer = some lookup) :
    traffic.step (.answer ticket answer) =
      { traffic with
        cache := (lookup.resume traffic.cache traffic.now ticket answer).1
        lookups := traffic.lookups.put ticket
          (lookup.resume traffic.cache traffic.now ticket answer).2 } := by
  simp only [step, roused]

/-- A task that goes on does one of the things that can happen to its service.

One kind of step for each way in which a lookup goes on: by its phase, and by what the cache
says then. -/
theorem step_here {ticket : Ticket} {answer : Answer} {lookup : Lookup}
    (roused : traffic.roused? ticket answer = some lookup) :
    ServiceState.Step traffic.cache.ttl (traffic.serviceState lookup.service)
      ((traffic.step (.answer ticket answer)).serviceState lookup.service)
      (lookup.sights traffic.cache traffic.now ticket answer) := by
  obtain ⟨found, await, waits, permitted⟩ := traffic.roused?_eq_some roused
  have known := traffic.phase?_serviceState found
  rw [traffic.step_answer roused]
  obtain ⟨service, phase⟩ := lookup
  have after (cache : Cache) (phase : LookupPhase) :=
    traffic.serviceState_put ticket ⟨service, phase⟩ cache
  dsimp only at known after
  cases phase with
  | asked reload =>
    cases waits
    obtain rfl := permits_turn permitted
    cases fresh : (if reload then none else
        (traffic.cache.slot service).fresh? traffic.cache.ttl traffic.now) with
    | none =>
      simp only [Lookup.resume, Lookup.sights, Lookup.result?, Cache.come, fresh, after,
        Cache.slot_setSlot, if_true, Option.map_none, Option.toList_none]
      refine .queue ticket reload known ?_
      rintro rfl
      exact fresh
    | some cached =>
      cases reload with
      | true => cases fresh
      | false =>
        simp only [Lookup.resume, Lookup.sights, Lookup.result?, Cache.come, fresh, after,
          Cache.slot_setSlot, if_true, Option.map_some, Option.toList_some]
        exact .fresh ticket cached known fresh
  | queued seen =>
    cases waits
    obtain ⟨rfl, holds⟩ := permits_lock permitted
    by_cases changed : seen.any (· ≠ (traffic.cache.slot service).loads) = true
    · simp only [Lookup.resume, Lookup.sights, Lookup.result?, Cache.enter, changed, after,
        Cache.slot_setSlot, if_true, Option.map_some, Option.toList_some, Option.isSome_some]
      cases seen with
      | none => cases changed
      | some count => exact .reuse ticket count known holds (of_decide_eq_true changed)
    · simp only [Lookup.resume, Lookup.sights, Lookup.result?, Cache.enter, changed, after,
        if_false, Option.isSome_none, Bool.false_eq_true]
      refine .call ticket seen known holds ?_
      rintro count rfl
      exact Decidable.not_not.mp fun differs => changed (decide_eq_true differs)
  | loading =>
    cases waits
    obtain ⟨listing, rfl⟩ := permits_listing permitted
    simp only [Lookup.resume, Lookup.sights, Lookup.result?, Cache.complete, after,
      Cache.slot_setSlot, if_true, Option.map_some, Option.toList_some]
    exact .load ticket listing known
  | answered instances => cases waits

/-- The state of another service does not change when a task goes on. -/
theorem step_elsewhere {service : String} {ticket : Ticket} {answer : Answer} {lookup : Lookup}
    (roused : traffic.roused? ticket answer = some lookup) (elsewhere : lookup.service ≠ service) :
    (traffic.step (.answer ticket answer)).serviceState service = traffic.serviceState service := by
  obtain ⟨found, _⟩ := traffic.roused?_eq_some roused
  rw [traffic.step_answer roused]
  apply serviceState_put_elsewhere
  · exact lookup.slot_resume _ _ _ _ service elsewhere
  · rwa [lookup.service_resume]
  · simp [serviceState, found, elsewhere]

/-- A new task is seen at its own service only.

It has a ticket that nobody had, so nobody else changes; at another service only the ticket to be
given out next has changed. -/
theorem step_receive (numbered : traffic.Numbered) (service other : String) (reload : Bool)
    (ttl : Duration) :
    ServiceState.Step ttl (traffic.serviceState service)
      ((traffic.receive ⟨other, .asked reload⟩).serviceState service) [] := by
  have new := numbered traffic.nextTicket (Nat.le_refl _)
  by_cases same : other = service
  · subst same
    have put := traffic.serviceState_put traffic.nextTicket ⟨other, .asked reload⟩ traffic.cache
    have phases := congrArg ServiceState.phase? put
    have admitted : (traffic.receive ⟨other, .asked reload⟩).serviceState other =
        { (traffic.serviceState other).put traffic.nextTicket (some (.asked reload)) with
          nextTicket := traffic.nextTicket + 1 } :=
      ServiceState.ext rfl rfl rfl phases
    rw [admitted]
    exact .ask reload
  · have put := serviceState_put_elsewhere service traffic.nextTicket ⟨other, .asked reload⟩
      traffic.cache rfl same (by simp [serviceState, new])
    have phases := congrArg ServiceState.phase? put
    have admitted : (traffic.receive ⟨other, .asked reload⟩).serviceState service =
        { traffic.serviceState service with
          now := traffic.now
          nextTicket := traffic.nextTicket + 1 } :=
      ServiceState.ext rfl rfl rfl phases
    rw [admitted]
    exact .quiet _ _ (Nat.le_refl _) (Nat.le_succ _)

/-- A task that is dropped is seen at its own service only.

If it has come for its list it gives up its place in the line, and if it has not begun yet it is
only gone. -/
theorem step_leave {service : String} {ticket : Ticket} {lookup : Lookup}
    (found : traffic.lookups.find? ticket = some lookup) (waits : lookup.phase.waits = true)
    (ttl : Duration) :
    ServiceState.Step ttl (traffic.serviceState service)
      (({ traffic with
          cache := lookup.abandon traffic.cache ticket
          lookups := traffic.lookups.erase ticket } : Traffic).serviceState service)
      (if lookup.service = service then [.left ticket] else []) := by
  have known := traffic.phase?_serviceState found
  rw [traffic.serviceState_erase _ service found, lookup.slot_abandon]
  by_cases same : lookup.service = service
  · subst same
    simp only [if_true, true_and]
    cases phase : lookup.phase with
    | asked reload =>
      rw [phase] at known
      exact .withdraw ticket reload known
    | queued seen =>
      rw [phase] at known
      exact .leave ticket _ known rfl
    | loading =>
      rw [phase] at known
      exact .leave ticket _ known rfl
    | answered instances => simp [phase, LookupPhase.waits] at waits
  · simp only [same, if_false, false_and]
    exact .quiet _ _ (Nat.le_refl _) (Nat.le_refl _)

/-- Each move is, for each service, one of the things that can happen to it.

A move elsewhere changes nothing in this state but the time and the next ticket. -/
theorem serviceState_step (numbered : traffic.Numbered) (move : Move) (service : String) :
    ServiceState.Step traffic.cache.ttl (traffic.serviceState service)
      ((traffic.step move).serviceState service)
      (traffic.sights service move) := by
  have nothing : ServiceState.Step traffic.cache.ttl (traffic.serviceState service)
      (traffic.serviceState service) [] :=
    .quiet _ _ (Nat.le_refl _) (Nat.le_refl _)
  cases move with
  | pass span => exact .quiet _ _ (Nat.le_add_right _ _) (Nat.le_refl _)
  | get other => exact step_receive numbered service other false _
  | refresh other => exact step_receive numbered service other true _
  | answer ticket answer =>
    cases roused : traffic.roused? ticket answer with
    | none => simpa only [step, sights, roused] using nothing
    | some lookup =>
      by_cases same : lookup.service = service
      · subst same
        simpa only [sights, roused, if_true] using traffic.step_here roused
      · rw [traffic.step_elsewhere roused same]
        simpa only [sights, roused, same, if_false] using nothing
  | leave ticket =>
    cases waiting : traffic.waiting? ticket with
    | none => simpa only [step, sights, waiting] using nothing
    | some lookup =>
      obtain ⟨found, waits⟩ := Option.filter_eq_some_iff.mp waiting
      simpa only [step, sights, waiting] using traffic.step_leave found waits _
  | invalidate other =>
    have slot := traffic.cache.slot_invalidate other service
    by_cases same : other = service
    · have forgotten : (traffic.step (.invalidate other)).serviceState service =
          { traffic.serviceState service with
            slot := { (traffic.serviceState service).slot with cached := none } } :=
        ServiceState.ext rfl rfl (slot.trans (if_pos same)) rfl
      rw [forgotten]
      simpa only [sights, same, if_true] using .forget
    · have kept : (traffic.step (.invalidate other)).serviceState service =
          traffic.serviceState service :=
        ServiceState.ext rfl rfl (slot.trans (if_neg same)) rfl
      rw [kept]
      simpa only [sights, same, if_false] using nothing

/-- No move changes the time to live of lists. -/
theorem ttl_step (traffic : Traffic) (move : Move) :
    (traffic.step move).cache.ttl = traffic.cache.ttl := by
  cases move with
  | answer ticket answer =>
    cases roused : traffic.roused? ticket answer with
    | none => simp only [step, roused]
    | some lookup => exact traffic.step_answer roused ▸ lookup.ttl_resume _ _ _ _
  | leave ticket =>
    simp only [step]
    split
    · rfl
    · rename_i lookup _
      exact lookup.ttl_abandon _ _
  | pass span => rfl
  | get service => rfl
  | refresh service => rfl
  | invalidate service => rfl

/-- New tickets are given out in order: a step lets nobody have a ticket beyond the next one to be
given out. -/
theorem numbered_step (numbered : traffic.Numbered) (move : Move) :
    (traffic.step move).Numbered := by
  have admitted (lookup : Lookup) : (traffic.receive lookup).Numbered := by
    intro ticket later
    have later : traffic.nextTicket < ticket := later
    rw [receive, Registry.find?_put, if_neg (Nat.ne_of_lt later)]
    exact numbered ticket (Nat.le_of_lt later)
  cases move with
  | pass span => exact numbered
  | get service => exact admitted _
  | refresh service => exact admitted _
  | answer ticket answer =>
    cases roused : traffic.roused? ticket answer with
    | none => simpa only [step, roused] using numbered
    | some lookup =>
      obtain ⟨found, _⟩ := traffic.roused?_eq_some roused
      rw [traffic.step_answer roused]
      intro other later
      have absent := numbered other later
      rw [Registry.find?_put, if_neg]
      · exact absent
      · rintro rfl
        rw [found] at absent
        cases absent
  | leave ticket =>
    simp only [step]
    split
    · exact numbered
    · intro other later
      rw [Registry.find?_erase, numbered other later]
      split <;> rfl
  | invalidate service => exact numbered

/-- What a run keeps. If each thing that can happen to a service carries a relation between what
was seen and the state on to the next one, then so does the run.

It is shown for a run from any traffic that has some log behind it, so that the induction on the
moves can go on from the traffic after the first one. -/
theorem log_induction (service : String) (ttl : Duration) (now : Instant)
    (Holds : List Sight → ServiceState → Prop)
    (start : Holds [] ((start ttl now).serviceState service))
    (step : ∀ log state after seen, Holds log state → ServiceState.Step ttl state after seen →
      Holds (log ++ seen) after)
    (moves : List Move) :
    Holds ((Traffic.start ttl now).log service moves)
      (((Traffic.start ttl now).run moves).serviceState service) := by
  suffices general : ∀ (log : List Sight) (traffic : Traffic), traffic.Numbered →
      traffic.cache.ttl = ttl → Holds log (traffic.serviceState service) →
      Holds (log ++ traffic.log service moves) ((traffic.run moves).serviceState service) by
    have fresh : (Traffic.start ttl now).Numbered := fun ticket _ => rfl
    simpa only [List.nil_append] using general [] _ fresh rfl start
  induction moves with
  | nil =>
    intro log traffic _ _ holds
    rw [Traffic.log, List.append_nil]
    exact holds
  | cons move rest inductionHypothesis =>
    intro log traffic numbered lifetime holds
    have stepped := traffic.serviceState_step numbered move service
    rw [lifetime] at stepped
    have next := step log _ _ _ holds stepped
    have onwards := inductionHypothesis _ _ (traffic.numbered_step numbered move)
      ((traffic.ttl_step move).trans lifetime) next
    rw [List.append_assoc] at onwards
    exact onwards

end Traffic

end CallRouting
