import CallRouting.Proofs.CacheMoves

/-!
# The lists at hand

A list at hand is one that the directory has given, and came when it says. It stays until the
directory gives another one, unless it is forgotten; a load that fails takes nothing away. If no
load of a service fails and its list is never forgotten, whoever has got a list of it has left it
at hand. All of this is said of whoever goes on, and so it holds of each event and of each run.
-/

namespace CallRouting

/-- What a lookup leaves of the list of a service: the one that was at hand, or one that the
directory has just given.

Lists change only where a load ends with one; to come, to get the lock and to fail change none. -/
theorem Lookup.peek_resume (lookup : Lookup) (cache : Cache) (now : Instant) (ticket : Ticket)
    (answer : Answer) (service : String) :
    (lookup.resume cache now ticket answer).1.peek service = cache.peek service ∨
      ∃ cached, lookup.gain? now answer = some (service, cached) ∧
        (lookup.resume cache now ticket answer).1.peek service = some cached := by
  obtain ⟨own, phase⟩ := lookup
  cases phase with
  | asked reload =>
    cases answer with
    | turn => exact .inl (cache.peek_come now ticket own service reload)
    | _ => exact .inl rfl
  | queued seen =>
    cases answer with
    | lock => exact .inl (cache.peek_enter own service seen)
    | _ => exact .inl rfl
  | loading =>
    cases answer with
    | listing listing =>
      cases listing with
      | error fault => exact .inl (cache.peek_complete_error now own service fault)
      | ok instances =>
        have left := cache.peek_complete_ok now own service instances
        by_cases same : own = service
        · subst same
          rw [if_pos rfl] at left
          exact .inr ⟨⟨instances, now⟩, rfl, left⟩
        · rw [if_neg same] at left
          exact .inl left
    | _ => exact .inl rfl
  | answered instances => exact .inl rfl

/-- Whatever somebody does when it goes on, the list of a service stays at hand or another one
comes. -/
theorem LookupSteps.peek {now : Instant} {ticket : Ticket} {answer : Answer}
    {first second : Cache × Option Lookup} (steps : LookupSteps now ticket answer first second)
    (service : String) :
    second.1.peek service = first.1.peek service ∨
      ∃ cached, (service, cached) ∈ first.2.bind (·.gain? now answer) ∧
        second.1.peek service = some cached := by
  induction steps with
  | stays => exact .inl rfl
  | begins => exact .inl rfl
  | goes answer cache lookup => exact lookup.peek_resume cache now ticket answer service
  | drops => exact .inl rfl
  | @onward answer first second third before after beforeHypothesis afterHypothesis =>
    have same : third.1.peek service = second.1.peek service := by
      rcases afterHypothesis with same | ⟨cached, gained, -⟩
      · exact same
      · -- A turn brings no list.
        obtain ⟨lookup, -, gained⟩ := Option.bind_eq_some_iff.mp gained
        unfold Lookup.gain? at gained
        split at gained
        · rename_i turn
          cases turn
        · cases gained
    rw [same]
    exact beforeHypothesis

/-- An event at which no load fails and the list of a service is not forgotten. -/
structure Event.Quiet {ω : Type} (service : String) (event : Event ω) : Prop where
  kept : event ≠ .adjust (.invalidate service)
  succeeds : ∀ fault, event.answer? ≠ some (.listing (.error fault))

variable {ω : Type}

/-- A list that the directory gives comes at that time. -/
theorem World.loadedAt_of_mem_given (world : World ω) (event : Event ω) (service : String)
    (cached : CachedList) (member : (service, cached) ∈ world.given event) :
    cached.loadedAt = world.now := by
  -- Tasks and jobs gain a list in one way, by the listing of the directory.
  have loaded (lookup? : Option Lookup) (answer : Answer)
      (gained : (service, cached) ∈ (lookup?.bind (·.gain? world.now answer)).toList) :
      cached.loadedAt = world.now := by
    obtain ⟨lookup, -, gained⟩ := Option.bind_eq_some_iff.mp (Option.mem_toList.mp gained)
    unfold Lookup.gain? at gained
    split at gained
    · cases gained
      rfl
    · cases gained
  cases event with
  | answer place draw answer =>
    simp only [given] at member
    split at member
    · cases member
    · exact loaded _ _ member
  | work ticket draw answer =>
    simp only [given] at member
    split at member
    · cases member
    · split at member
      · exact loaded _ _ member
      · cases member
  | _ => cases member

/-- A lookup that has seen no load complete and has no list. -/
def Lookup.Blank (lookup : Lookup) : Prop :=
  match lookup.phase with
  | .queued (some seen) => seen = 0
  | .answered _ => False
  | .asked _ | .queued none | .loading => True

/-- While there is no list of a service, no load of it has completed, and nobody has seen one. -/
def Cache.Unserved (cache : Cache) (service : String) (about : Lookup → Prop) : Prop :=
  cache.peek service = none → (cache.slot service).loads = 0 ∧
    ∀ lookup, about lookup → lookup.service = service → lookup.Blank

/-- A service stays unserved if there is the same of it, and whoever is about it now was so
before or has seen nothing. -/
theorem Cache.Unserved.mono {cache after : Cache} {service : String} {about next : Lookup → Prop}
    (unserved : cache.Unserved service about) (peek : after.peek service = cache.peek service)
    (loads : (after.slot service).loads = (cache.slot service).loads)
    (known : ∀ lookup, next lookup → lookup.service = service → about lookup ∨ lookup.Blank) :
    after.Unserved service next := by
  intro nothing
  rw [peek] at nothing
  rw [loads]
  obtain ⟨none, blank⟩ := unserved nothing
  refine ⟨none, fun lookup present here => ?_⟩
  rcases known lookup present here with old | new
  · exact blank lookup old here
  · exact new

/-- A service stays unserved when a lookup goes on, unless its load fails.

Without a list the lookup finds none and counts no load that has completed since it came, so it
neither takes a list when its turn comes nor when it gets the lock: it loads. And a load that
succeeds leaves a list at hand, against the assumption. -/
theorem Cache.Unserved.resume {cache : Cache} {service : String} {lookup : Lookup}
    (unserved : cache.Unserved service (some lookup = some ·)) (now : Instant) (ticket : Ticket)
    (answer : Answer) (succeeds : ∀ fault, answer ≠ .listing (.error fault)) :
    (lookup.resume cache now ticket answer).1.Unserved service
      (some (lookup.resume cache now ticket answer).2 = some ·) := by
  by_cases same : lookup.service = service
  · subst same
    obtain ⟨service, phase⟩ := lookup
    intro nothing
    cases phase with
    | asked reload =>
      cases answer with
      | turn =>
        simp only [Lookup.resume] at nothing ⊢
        rw [cache.peek_come now ticket service service reload] at nothing
        obtain ⟨loads, -⟩ := unserved nothing
        have stale : (if reload then none else
            (cache.slot service).fresh? cache.ttl now) = none := by
          split
          · rfl
          · exact congrArg (Option.filter _) nothing
        simp only [come, stale, slot_setSlot, if_true]
        refine ⟨loads, ?_⟩
        rintro _ ⟨⟩ -
        cases reload with
        | true => exact trivial
        | false => exact loads
      | _ =>
        exact unserved nothing
    | queued seen =>
      cases answer with
      | lock =>
        simp only [Lookup.resume] at nothing ⊢
        rw [cache.peek_enter service service seen] at nothing
        obtain ⟨loads, blank⟩ := unserved nothing
        have unchanged : ¬ seen.any (· ≠ (cache.slot service).loads) = true := by
          cases seen with
          | none => simp
          | some count =>
            have zero : count = 0 := blank _ rfl rfl
            simp [loads, zero]
        simp only [enter, unchanged]
        refine ⟨loads, ?_⟩
        rintro _ ⟨⟩ -
        exact trivial
      | _ => exact unserved nothing
    | loading =>
      cases answer with
      | listing listing =>
        cases listing with
        | error fault => exact absurd rfl (succeeds fault)
        | ok instances =>
          simp only [Lookup.resume, peek_complete_ok, if_true] at nothing
          cases nothing
      | _ => exact unserved nothing
    | answered instances => exact unserved nothing
  · have slot := lookup.slot_resume cache now ticket answer service same
    refine unserved.mono (congrArg CacheSlot.cached slot) (congrArg CacheSlot.loads slot) ?_
    rintro _ ⟨⟩ here
    exact absurd ((lookup.service_resume cache now ticket answer).symm.trans here) same

/-- Whatever somebody does when it goes on, the service stays unserved, unless a load fails.

A lookup that begins has seen nothing, and one that is dropped has seen nothing any more. -/
theorem LookupSteps.unserved {now : Instant} {ticket : Ticket} {answer : Answer}
    {first second : Cache × Option Lookup} (steps : LookupSteps now ticket answer first second)
    (service : String) (succeeds : ∀ fault, answer ≠ .listing (.error fault))
    (unserved : first.1.Unserved service (first.2 = some ·)) :
    second.1.Unserved service (second.2 = some ·) := by
  induction steps with
  | stays => exact unserved
  | begins answer cache other reload =>
    refine unserved.mono rfl rfl ?_
    rintro _ ⟨⟩ -
    exact .inr trivial
  | goes answer cache lookup => exact unserved.resume now ticket answer succeeds
  | drops =>
    refine unserved.mono rfl rfl ?_
    rintro _ ⟨⟩
  | onward before after beforeHypothesis afterHypothesis =>
    refine afterHypothesis ?_ (beforeHypothesis succeeds unserved)
    exact fun fault turn => nomatch turn

/-- The steps of a lookup leave the time to live. -/
theorem LookupSteps.ttl {now : Instant} {ticket : Ticket} {answer : Answer}
    {first second : Cache × Option Lookup} (steps : LookupSteps now ticket answer first second) :
    second.1.ttl = first.1.ttl := by
  induction steps with
  | goes answer cache lookup => exact lookup.ttl_resume cache now ticket answer
  | onward before after beforeHypothesis afterHypothesis =>
    exact afterHypothesis.trans beforeHypothesis
  | _ => rfl

namespace World.CacheMoves

variable [Weight ω] {world : World ω} {event : Event ω} {first second : Cache × Users}

/-- At each event the list of a service stays at hand, or another one comes, unless it is
forgotten.

By induction on the moves: only those who go on bring a list, and only to forget takes one away.
The last list that comes is the one at hand in the end. -/
theorem peek (moves : world.CacheMoves event first second) (service : String)
    (kept : event ≠ .adjust (.invalidate service)) :
    second.1.peek service = first.1.peek service ∨
      ∃ cached, (service, cached) ∈ world.given event ∧ second.1.peek service = some cached := by
  induction moves with
  | goes ticket answer rest steps answered admitted gains =>
    rcases steps.peek service with same | ⟨cached, gained, left⟩
    · exact .inl same
    · exact .inr ⟨cached, gains _ gained, left⟩
  | joins => exact .inl rfl
  | leaves cache ticket lookup? rest =>
    left
    cases lookup? with
    | none => rfl
    | some lookup =>
      simp only [Option.elim, Cache.peek, lookup.slot_abandon]
      split <;> rfl
  | forgets cache users other here =>
    left
    have differs : other ≠ service := by
      rintro rfl
      exact kept here
    exact (cache.peek_invalidate other service).trans (if_neg differs)
  | reorders => exact .inl rfl
  | onward before after beforeHypothesis afterHypothesis =>
    rcases afterHypothesis with same | gained
    · rw [same]
      exact beforeHypothesis
    · exact .inr gained

/-- An event leaves a service unserved, unless it gets a list.

By induction over the moves that the event is made of. Only a user that goes on can bring a
list, or come further with its lookup. -/
theorem unserved (moves : world.CacheMoves event first second) (service : String)
    (quiet : event.Quiet service)
    (unserved : first.1.Unserved service fun lookup => ∃ ticket, (ticket, some lookup) ∈ first.2) :
    second.1.Unserved service fun lookup => ∃ ticket, (ticket, some lookup) ∈ second.2 := by
  induction moves with
  | @goes ticket answer rest first second steps answered admitted gains =>
    have own : first.1.Unserved service (first.2 = some ·) := by
      refine unserved.mono rfl rfl fun lookup about _ => .inl ⟨ticket, ?_⟩
      rw [about]
      exact List.mem_cons_self
    have next := steps.unserved service
      (fun fault same => quiet.succeeds fault (same ▸ answered)) own
    intro nothing
    refine ⟨(next nothing).1, ?_⟩
    rintro lookup ⟨other, member⟩ here
    rcases List.mem_cons.mp member with same | among
    · exact (next nothing).2 lookup (Prod.mk.inj same).2.symm here
    · have before : first.1.peek service = none := by
        rcases steps.peek service with same | ⟨cached, -, left⟩
        · exact same ▸ nothing
        · rw [left] at nothing
          cases nothing
      exact (unserved before).2 lookup ⟨other, List.mem_cons_of_mem _ among⟩ here
  | joins cache ticket lookup? rest new numbered begins =>
    refine unserved.mono rfl rfl ?_
    rintro lookup ⟨other, member⟩ -
    rcases List.mem_cons.mp member with same | among
    · obtain ⟨reload, phase⟩ := begins lookup (Prod.mk.inj same).2.symm
      rw [Lookup.Blank, phase]
      exact .inr trivial
    · exact .inl ⟨other, among⟩
  | leaves cache ticket lookup? rest =>
    have kept : ((lookup?.elim cache (·.abandon cache ticket)).slot service).cached =
          (cache.slot service).cached ∧
        ((lookup?.elim cache (·.abandon cache ticket)).slot service).loads =
          (cache.slot service).loads := by
      cases lookup? with
      | none => exact ⟨rfl, rfl⟩
      | some lookup =>
        simp only [Option.elim, lookup.slot_abandon]
        split <;> exact ⟨rfl, rfl⟩
    refine unserved.mono kept.1 kept.2 ?_
    rintro lookup ⟨other, member⟩ -
    exact .inl ⟨other, List.mem_cons_of_mem _ member⟩
  | forgets cache users other here =>
    have differs : other ≠ service := by
      rintro rfl
      exact quiet.kept here
    have slot : (cache.invalidate other).slot service = cache.slot service :=
      (cache.slot_invalidate other service).trans (if_neg differs)
    exact unserved.mono (congrArg CacheSlot.cached slot) (congrArg CacheSlot.loads slot)
      fun _ present _ => .inl present
  | reorders cache same =>
    refine unserved.mono rfl rfl ?_
    rintro lookup ⟨other, member⟩ -
    exact .inl ⟨other, same.mem_iff.mpr member⟩
  | onward before after beforeHypothesis afterHypothesis =>
    exact afterHypothesis (beforeHypothesis unserved)

/-- The moves of a cache and its users leave the time to live. -/
theorem ttl (moves : world.CacheMoves event first second) : second.1.ttl = first.1.ttl := by
  induction moves with
  | goes ticket answer rest steps => exact steps.ttl
  | leaves cache ticket lookup? rest =>
    cases lookup? with
    | none => rfl
    | some lookup => exact lookup.ttl_abandon cache ticket
  | onward before after beforeHypothesis afterHypothesis =>
    exact afterHypothesis.trans beforeHypothesis
  | _ => rfl

end World.CacheMoves

namespace World

variable [Weight ω]

/-- Time never goes back. -/
theorem now_le_step (world : World ω) (event : Event ω) : world.now ≤ (world.step event).now := by
  cases event with
  | pass span => exact Nat.le_add_right _ _
  | answer place draw answer =>
    simp only [step]
    split <;> exact Nat.le_refl _
  | leave place =>
    simp only [step]
    split <;> exact Nat.le_refl _
  | work ticket draw answer =>
    simp only [step]
    split
    · exact Nat.le_refl _
    · split <;> exact Nat.le_refl _
  | request request => exact Nat.le_refl _
  | dismiss => exact Nat.le_refl _
  | adjust adjustment => exact Nat.le_refl _

/-- A world that a run has reached without a failing load and without forgetting the list of a
service, and the lists that were given in it. -/
structure Supplied (service : String) (ttl : Duration) (written : List (String × CachedList))
    (world : World ω) : Prop where
  linesUp : world.LinesUp
  ttl : world.client.router.cache.ttl = ttl
  unserved : world.client.router.cache.Unserved service
    fun lookup => ∃ ticket, (ticket, some lookup) ∈ world.users
  handed : ∀ cached, world.client.router.cache.peek service = some cached →
    (service, cached) ∈ written ∧ cached.loadedAt ≤ world.now

namespace Supplied

variable {service : String} {ttl : Duration} {written : List (String × CachedList)}
  {world : World ω}

omit [Weight ω] in
/-- The world around an untouched client is supplied: no list is there, and none was given. -/
theorem around (client : Client ω) (untouched : client.Untouched ttl) (now : Instant) :
    (World.around client now).Supplied service ttl [] := by
  have empty : (World.around client now).client.router.cache = .empty ttl := untouched.cache
  refine ⟨linesUp_around client ttl untouched now, ?_, ?_, ?_⟩
  · rw [empty]
    rfl
  · intro nothing
    rw [empty]
    refine ⟨rfl, ?_⟩
    rintro lookup ⟨ticket, member⟩
    exact nomatch untouched.free _ member
  · rw [empty]
    exact fun cached there => nomatch there

/-- A quiet event keeps the world supplied: a list that is at hand was there before, or is
given at the event. -/
theorem step (supplied : world.Supplied service ttl written) (event : Event ω)
    (quiet : event.Quiet service) :
    (world.step event).Supplied service ttl (written ++ world.given event) := by
  have moves := supplied.linesUp.cacheMoves event
  refine ⟨supplied.linesUp.step event, moves.ttl.trans supplied.ttl,
    moves.unserved service quiet supplied.unserved, ?_⟩
  intro cached there
  have onwards := world.now_le_step event
  rcases moves.peek service quiet.kept with same | ⟨other, gained, left⟩
  · obtain ⟨known, past⟩ := supplied.handed cached (same ▸ there)
    exact ⟨List.mem_append_left _ known, Nat.le_trans past onwards⟩
  · obtain rfl := Option.some.inj (left.symm.trans there)
    have came := world.loadedAt_of_mem_given event service other gained
    exact ⟨List.mem_append_right _ gained, came ▸ onwards⟩

/-- A quiet run keeps the world supplied, by induction over its events. -/
theorem run (supplied : world.Supplied service ttl written) (events : List (Event ω))
    (quiet : ∀ event ∈ events, event.Quiet service) :
    (world.run events).Supplied service ttl (written ++ world.observed given events) := by
  induction events generalizing world written with
  | nil => simpa only [observed, World.run, List.foldl_nil, List.append_nil] using supplied
  | cons event rest inductionHypothesis =>
    have next := supplied.step event (quiet event List.mem_cons_self)
    have onwards := inductionHypothesis next fun other member =>
      quiet other (List.mem_cons_of_mem _ member)
    rw [observed, ← List.append_assoc]
    exact onwards

end Supplied

/-- A list that is at hand once stays at hand in a run that is quiet about the service, or another
one of the service does.

By induction on the events, each of which leaves the list or puts another one in its place. -/
theorem at_hand_run (world : World ω) (linesUp : world.LinesUp) (service : String)
    (events : List (Event ω)) (quiet : ∀ event ∈ events, event.Quiet service)
    (there : (world.client.router.cache.peek service).isSome = true) :
    ((world.run events).client.router.cache.peek service).isSome = true := by
  induction events generalizing world with
  | nil => exact there
  | cons event rest inductionHypothesis =>
    refine inductionHypothesis (world.step event) (linesUp.step event)
      (fun other member => quiet other (List.mem_cons_of_mem _ member)) ?_
    rcases (linesUp.cacheMoves event).peek service (quiet event List.mem_cons_self).kept with
      same | ⟨cached, -, left⟩
    · rw [same]
      exact there
    · rw [left]
      rfl

end World

end CallRouting
