import CallRouting.Proofs.Choices
import CallRouting.Proofs.ServiceStates

/-!
# Whoever looks up lists

Selections, invocations, sweeps, tasks and jobs look up lists, each of them one after the
other, and touch the cache in no other way. So what any of them does to the cache when it goes
on is a number of steps of lookups: the first meets the answer that has come, and each further
one belongs to a lookup that begins in the same breath. What such steps keep, all of them keep.
-/

namespace CallRouting

/-- The lookup that a selection is about, if it is about one. -/
def Selection.lookup? (selection : Selection) : Option Lookup :=
  match selection.phase with
  | .looking _ lookup => some lookup
  | .asked | .chosen _ => none

/-- The lookup that an invocation is about: the one of its selection. -/
def Invocation.lookup? (invocation : Invocation) : Option Lookup :=
  match invocation.phase with
  | .selecting selection => selection.lookup?
  | .working _ | .resting _ | .done _ => none

/-- The lookup that a sweep is about: the one for the service at which it has arrived. -/
def Sweep.lookup? : Sweep → Option Lookup
  | .running current _ => some current
  | .asked | .done => none

/-- The lookup that a task is about, whatever kind of task it is. -/
def Task.lookup? : Task → Option Lookup
  | .looking lookup => some lookup
  | .choosing selection => selection.lookup?
  | .invoking invocation => invocation.lookup?
  | .sweeping sweep => sweep.lookup?
  | .opening _ | .closing _ | .registration .. | .sleeping .. | .slept => none

/-- The lookup that a background job is about: a round of new tables is about none. -/
def Job.lookup? : Job → Option Lookup
  | .aggregating .. => none
  | .refreshing _ _ sweep => sweep.lookup?

/-- What going on does to the cache and to the lookup that somebody is about. Only the first
step meets the answer. -/
inductive LookupSteps (now : Instant) (ticket : Ticket) :
    Answer → Cache × Option Lookup → Cache × Option Lookup → Prop
  | stays (answer : Answer) (cache : Cache) (lookup? : Option Lookup) :
      LookupSteps now ticket answer (cache, lookup?) (cache, lookup?)
  | begins (answer : Answer) (cache : Cache) (service : String) (reload : Bool) :
      LookupSteps now ticket answer (cache, none) (cache, some ⟨service, .asked reload⟩)
  | goes (answer : Answer) (cache : Cache) (lookup : Lookup) :
      LookupSteps now ticket answer (cache, some lookup)
        ((lookup.resume cache now ticket answer).1, some (lookup.resume cache now ticket answer).2)
  /-- A lookup that has got its list is of no more use. -/
  | drops (answer : Answer) (cache : Cache) (service : String) (instances : List Instance) :
      LookupSteps now ticket answer (cache, some ⟨service, .answered instances⟩) (cache, none)
  | onward {answer : Answer} {first second third : Cache × Option Lookup}
      (before : LookupSteps now ticket answer first second)
      (after : LookupSteps now ticket .turn second third) :
      LookupSteps now ticket answer first third

/-- Who has got its list drops the lookup. -/
theorem LookupSteps.drop {now : Instant} {ticket : Ticket} {answer : Answer}
    {first : Cache × Option Lookup} {cache : Cache} {lookup : Lookup}
    (steps : LookupSteps now ticket answer first (cache, some lookup)) (instances : List Instance)
    (result : lookup.result? = some instances) :
    LookupSteps now ticket answer first (cache, none) := by
  obtain ⟨service, phase⟩ := lookup
  cases phase with
  | answered got => exact .onward steps (.drops .turn cache service got)
  | _ => cases result

section Steps

variable {ω : Type} [Weight ω]

/-- A selection settles on the answer to its lookup without the cache. -/
theorem Selection.lookupSteps_settle (selection : Selection) (router : Router ω) (moment : Moment ω)
    (strategy : Strategy) (lookup : Lookup) {now : Instant} {ticket : Ticket} {answer : Answer}
    {first : Cache × Option Lookup}
    (steps : LookupSteps now ticket answer first (router.cache, some lookup)) :
    LookupSteps now ticket answer first
      ((selection.settle router moment strategy lookup).1.cache,
        (selection.settle router moment strategy lookup).2.lookup?) := by
  unfold settle
  split
  · exact steps
  · rename_i instances result
    exact steps.drop instances result

/-- A selection that goes on takes steps with its lookup: it comes by one when it begins, lets
it go on, and is done with it when it chooses. -/
theorem Selection.lookupSteps_resume (selection : Selection) (router : Router ω) (moment : Moment ω)
    (answer : Answer) :
    LookupSteps moment.now moment.ticket answer (router.cache, selection.lookup?)
      ((selection.resume router moment answer).1.cache,
        (selection.resume router moment answer).2.lookup?) := by
  obtain ⟨service, wanted, failed, phase⟩ := selection
  cases phase with
  | asked =>
    cases answer with
    | turn =>
      exact lookupSteps_settle _ _ moment _ _
        (.onward (.begins .turn router.cache service false)
          (.goes .turn router.cache (.get service)))
    | _ => exact .stays ..
  | looking strategy lookup =>
    exact lookupSteps_settle _ _ moment _ _ (.goes answer router.cache lookup)
  | chosen result => exact .stays ..

namespace Invocation

omit [Weight ω] in
/-- What comes of a selection leaves the cache, and is about the same lookup. -/
theorem lookup?_engage (invocation : Invocation) (router : Router ω) (moment : Moment ω)
    (selection : Selection) :
    (invocation.engage router moment selection).1.cache = router.cache ∧
      (invocation.engage router moment selection).2.lookup? = selection.lookup? := by
  obtain ⟨service, wanted, failed, phase⟩ := selection
  cases phase with
  | asked => exact ⟨rfl, rfl⟩
  | looking strategy lookup => exact ⟨rfl, rfl⟩
  | chosen result => cases result <;> exact ⟨rfl, rfl⟩

/-- An invocation takes the steps of the selection with which it goes on: to engage an instance
is nothing to the cache. -/
theorem lookupSteps_advance (invocation : Invocation) (router : Router ω) (moment : Moment ω)
    (selection : Selection) (answer : Answer) :
    LookupSteps moment.now moment.ticket answer (router.cache, selection.lookup?)
      ((invocation.advance router moment selection answer).1.cache,
        (invocation.advance router moment selection answer).2.lookup?) := by
  unfold advance
  obtain ⟨cache, lookup⟩ := invocation.lookup?_engage (selection.resume router moment answer).1
    moment (selection.resume router moment answer).2
  rw [cache, lookup]
  exact selection.lookupSteps_resume router moment answer

/-- A further selection begins, whatever has come. -/
theorem lookupSteps_reselect (invocation : Invocation) (router : Router ω) (moment : Moment ω)
    (answer : Answer) :
    LookupSteps moment.now moment.ticket answer (router.cache, none)
      ((invocation.reselect router moment).1.cache,
        (invocation.reselect router moment).2.lookup?) :=
  .onward (.stays ..) (invocation.lookupSteps_advance router moment invocation.retrySelection .turn)

/-- An invocation takes steps with its lookup in whatever way it goes on. When an attempt is
over and the next one follows at once, the next selection begins from the cache as it was. -/
theorem lookupSteps_resume (invocation : Invocation) (router : Router ω) (moment : Moment ω)
    (answer : Answer) :
    LookupSteps moment.now moment.ticket answer (router.cache, invocation.lookup?)
      ((invocation.resume router moment answer).1.cache,
        (invocation.resume router moment answer).2.lookup?) := by
  obtain ⟨service, policy, ended, failed, phase⟩ := invocation
  cases phase with
  | selecting selection => exact lookupSteps_advance _ router moment selection answer
  | working attempt =>
    cases answer with
    | work outcome =>
      simp only [resume, conclude]
      split
      · exact .stays ..
      · split
        · exact lookupSteps_reselect _ (account router policy attempt moment.now outcome) moment _
        · exact .stays ..
    | _ => exact .stays ..
  | resting due =>
    cases answer with
    | time => exact lookupSteps_reselect _ router moment _
    | _ => exact .stays ..
  | done result => exact .stays ..

end Invocation

namespace Sweep

/-- A sweep goes over to the next service, whatever has come. -/
theorem lookupSteps_advance (cache : Cache) (now : Instant) (ticket : Ticket) (answer : Answer)
    (services : List String) :
    LookupSteps now ticket answer (cache, none)
      ((advance cache now ticket services).1, (advance cache now ticket services).2.lookup?) := by
  cases services with
  | nil => exact .stays ..
  | cons service remaining =>
    exact .onward (.begins answer cache service true) (.goes .turn cache (.refresh service))

/-- A sweep takes the steps of its current reload, and of the next one if that is over. -/
theorem lookupSteps_resume (sweep : Sweep) (cache : Cache) (now : Instant) (ticket : Ticket)
    (answer : Answer) :
    LookupSteps now ticket answer (cache, sweep.lookup?)
      ((sweep.resume cache now ticket answer).1,
        (sweep.resume cache now ticket answer).2.lookup?) := by
  cases sweep with
  | asked =>
    cases answer with
    | turn => exact lookupSteps_advance cache now ticket .turn cache.services
    | _ => exact .stays ..
  | running current remaining =>
    -- When the current list is there it is dropped, and the next reload begins at a turn of its
    -- own.
    have gone : LookupSteps now ticket answer (cache, some current) _ := .goes answer cache current
    simp only [resume]
    split
    · rename_i instances result
      exact .onward (gone.drop instances result) (lookupSteps_advance _ now ticket .turn remaining)
    · exact gone
  | done => exact .stays ..

end Sweep

namespace Task

/-- Who manages the client is about no lookup. -/
theorem Managing.lookup?_eq_none {task : Task} (managing : task.Managing) :
    task.lookup? = none := by
  cases task <;> first
    | rfl
    | exact managing.elim

/-- A task of any kind that goes on takes steps with what it looks up. -/
theorem lookupSteps_resume (task : Task) (client : Client ω) (moment : Moment ω) (answer : Answer) :
    LookupSteps moment.now moment.ticket answer (client.router.cache, task.lookup?)
      ((task.resume client moment answer).1.router.cache,
        (task.resume client moment answer).2.lookup?) := by
  -- Tasks that manage the client leave the cache, and come by no lookup.
  have managed (managing : task.Managing) :
      LookupSteps moment.now moment.ticket answer (client.router.cache, task.lookup?)
        ((task.resume client moment answer).1.router.cache,
          (task.resume client moment answer).2.lookup?) := by
    have further := managing_resume task client moment answer managing
    rw [router_resume task client moment answer managing, managing.lookup?_eq_none,
      further.lookup?_eq_none]
    exact .stays ..
  cases task with
  | looking lookup => exact .goes answer client.router.cache lookup
  | choosing selection => exact selection.lookupSteps_resume client.router moment answer
  | invoking invocation => exact invocation.lookupSteps_resume client.router moment answer
  | sweeping sweep => exact sweep.lookupSteps_resume client.router.cache _ _ answer
  | _ => exact managed trivial

omit [Weight ω] in
/-- A task that goes away drops its lookup. -/
theorem cache_abandon (task : Task) (client : Client ω) (ticket : Ticket) :
    (task.abandon client ticket).router.cache =
      task.lookup?.elim client.router.cache (·.abandon client.router.cache ticket) := by
  -- A selection that is not looking gives up nothing, and has no lookup.
  have selected (selection : Selection) : selection.abandon client.router.cache ticket =
      selection.lookup?.elim client.router.cache (·.abandon client.router.cache ticket) := by
    obtain ⟨service, wanted, failed, phase⟩ := selection
    cases phase <;> rfl
  cases task with
  | choosing selection => exact selected selection
  | invoking invocation =>
    obtain ⟨service, policy, ended, failed, phase⟩ := invocation
    cases phase with
    | selecting selection => exact selected selection
    | _ => rfl
  | sweeping sweep => cases sweep <;> rfl
  | _ => rfl

end Task

namespace Job

/-- A background job that goes on takes steps with what it looks up. -/
theorem lookupSteps_resume (job : Job) (router : Router ω) (moment : Moment ω) (answer : Answer) :
    LookupSteps moment.now moment.ticket answer (router.cache, job.lookup?)
      ((job.resume router moment answer).1.cache,
        (job.resume router moment answer).2.lookup?) := by
  cases job with
  | aggregating interval due =>
    have left : (resume (.aggregating interval due) router moment answer).1.cache = router.cache ∧
        (resume (.aggregating interval due) router moment answer).2.lookup? = none := by
      cases due <;> cases answer <;> exact ⟨rfl, rfl⟩
    rw [left.1, left.2]
    exact .stays ..
  | refreshing interval due sweep =>
    cases due with
    | none => cases answer <;> exact .stays ..
    | some due =>
      cases sweep with
      | asked => exact Sweep.lookupSteps_resume .asked router.cache _ _ answer
      | running current remaining =>
        exact Sweep.lookupSteps_resume (.running current remaining) router.cache _ _ answer
      | done =>
        cases answer with
        | time =>
          exact Sweep.lookupSteps_advance router.cache moment.now moment.ticket .time
            router.cache.services
        | _ => exact .stays ..

/-- A job that is stopped gives up the lookup that it is about. -/
theorem abandon_eq (job : Job) (cache : Cache) (ticket : Ticket) :
    job.abandon cache ticket = job.lookup?.elim cache (·.abandon cache ticket) := by
  cases job with
  | aggregating interval due => rfl
  | refreshing interval due sweep => cases sweep <;> rfl

end Job

end Steps

end CallRouting
