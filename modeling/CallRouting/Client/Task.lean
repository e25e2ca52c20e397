import CallRouting.Client

/-!
# What callers do with a client

Every operation of a client that may have to wait, as a task that goes on at
answers. Tasks change nothing but the client.
-/

namespace CallRouting

/-- How far a start has come. -/
inductive OpeningPhase
  | asked
  | initialising
  | done
  deriving DecidableEq

/-- How far a shutdown has come. -/
inductive ClosingPhase
  | asked
  | unregistering
  | closing
  | done
  deriving DecidableEq

/-- How far a registration has come. -/
inductive RegistrationPhase
  | asked
  | registering
  | done (result : Except RoutingError Unit)

/-- What a caller wants of a client, and how far it has come. -/
inductive Task
  | looking (lookup : Lookup)
  | choosing (selection : Selection)
  | invoking (invocation : Invocation)
  | sweeping (sweep : Sweep)
  | opening (phase : OpeningPhase)
  | closing (phase : ClosingPhase)
  | registration (target : Instance) (phase : RegistrationPhase)
  /-- Only wait; until when, once that is known. -/
  | sleeping (wait : Duration) (due : Option Instant)
  | slept

namespace Task

variable {ω : Type} [Weight ω]

/-- What the task waits for; nothing when it has ended. -/
def await? : Task → Option Await
  | .looking lookup => lookup.await?
  | .choosing selection => selection.await?
  | .invoking invocation => invocation.await?
  | .sweeping sweep => sweep.await?
  | .opening .asked => some .turn
  | .opening .initialising => some (.call .init)
  | .opening .done => none
  | .closing .asked => some .turn
  | .closing .unregistering => some (.call .unregister)
  | .closing .closing => some (.call .close)
  | .closing .done => none
  | .registration _ .asked => some .turn
  | .registration target .registering => some (.call (.register target))
  | .registration _ (.done _) => none
  | .sleeping _ none => some .turn
  | .sleeping _ (some due) => some (.time due)
  | .slept => none

/-- Go on at an answer. -/
def resume (task : Task) (client : Client ω) (moment : Moment ω) (answer : Answer) :
    Client ω × Task :=
  match task, answer with
  | .looking lookup, answer =>
    let (cache, lookup) := lookup.resume client.router.cache moment.now moment.ticket answer
    ({ client with router := { client.router with cache } }, .looking lookup)
  | .choosing selection, answer =>
    let (router, selection) := selection.resume client.router moment answer
    ({ client with router }, .choosing selection)
  | .invoking invocation, answer =>
    let (router, invocation) := invocation.resume client.router moment answer
    ({ client with router }, .invoking invocation)
  | .sweeping sweep, answer =>
    let (cache, sweep) := sweep.resume client.router.cache moment.now moment.ticket answer
    ({ client with router := { client.router with cache } }, .sweeping sweep)
  | .opening .asked, .turn => (client, .opening .initialising)
  | .opening .initialising, .call _ => (client.startJobs, .opening .done)
  | .closing .asked, .turn => (client.stopJobs, .closing .unregistering)
  | .closing .unregistering, .call _ => (client, .closing .closing)
  | .closing .closing, .call _ => (client, .closing .done)
  | .registration target .asked, .turn => (client, .registration target .registering)
  | .registration target .registering, .call answer =>
    let result := match answer with
      | .ok () => .ok ()
      | .error fault => .error (fault.routingError target.service)
    (client, .registration target (.done result))
  | .sleeping wait none, .turn => (client, .sleeping wait (some (moment.now + wait.nanos)))
  | .sleeping _ (some _), .time => (client, .slept)
  | task, _ => (client, task)

/-- Go away before the end. Locks and places in line are given up; nothing else is
undone. -/
def abandon (task : Task) (client : Client ω) (ticket : Ticket) : Client ω :=
  let cache := client.router.cache
  let cache := match task with
    | .looking lookup => lookup.abandon cache ticket
    | .choosing selection => selection.abandon cache ticket
    | .invoking invocation => invocation.abandon cache ticket
    | .sweeping sweep => sweep.abandon cache ticket
    | .opening _ | .closing _ | .registration .. | .sleeping .. | .slept => cache
  { client with router := { client.router with cache } }

/-- A task that is about the client as a whole, or only waits. -/
def Managing : Task → Prop
  | .opening _ | .closing _ | .registration .. | .sleeping .. | .slept => True
  | .looking _ | .choosing _ | .invoking _ | .sweeping _ => False

/-- A task that manages the client changes nothing about the router. -/
theorem router_resume (task : Task) (client : Client ω) (moment : Moment ω) (answer : Answer)
    (managing : task.Managing) : (task.resume client moment answer).1.router = client.router := by
  cases task with
  | opening phase =>
    cases phase <;> cases answer <;> first
      | rfl
      | exact client.router_startJobs
  | closing phase => cases phase <;> cases answer <;> rfl
  | registration target phase => cases phase <;> cases answer <;> rfl
  | sleeping wait due => cases due <;> cases answer <;> rfl
  | slept => rfl
  | _ => exact managing.elim

/-- A task that manages the client goes on managing it. -/
theorem managing_resume (task : Task) (client : Client ω) (moment : Moment ω) (answer : Answer)
    (managing : task.Managing) : (task.resume client moment answer).2.Managing := by
  cases task with
  | opening phase => cases phase <;> cases answer <;> exact trivial
  | closing phase => cases phase <;> cases answer <;> exact trivial
  | registration target phase => cases phase <;> cases answer <;> exact trivial
  | sleeping wait due => cases due <;> cases answer <;> exact trivial
  | slept => exact trivial
  | _ => exact managing.elim

end Task

end CallRouting
