import CallRouting.Proofs.Orderly
import CallRouting.Proofs.Scenes
import CallRouting.Proofs.Weighings

/-!
# What is done for one service

Of all that happens in a scene, some is done for a given service: a request for it and the
answers to the task that it becomes; the visits of those who load all lists, while they are
at the list of this service; the rounds of weights, and the new filters, which are for all
services; what callers adjust or read there, and the hooks in its book. Such a deed names
the tasks by their places among those on the service, and those who load all lists by their
tickets, so nothing in it tells of other services.

To each deed belongs what is found out by it: that the directory is asked for the list, the
instances that are chosen and called, results, tallies and tables. `occurrences` gives the
deeds at each act of a run with the time and the findings. `enact` does a deed in a scene of
its own, in which nothing else is there. A deed tells what is done, but not how far anybody has
come: that is found out again in the scene in which it is enacted.
-/

namespace CallRouting

/-- What is done for one service. -/
inductive Deed (ω : Type)
  | request (ticket : Ticket) (asked : Request)
  /-- A task on the service may go on, in a place among those on the service. -/
  | answer (place : Nat) (given : Answer)
  | leave (place : Nat)
  /-- Who loads all lists comes to the list of the service, or gets what they wait for there. -/
  | visit (ticket : Ticket) (given : Answer)
  /-- Who loads all lists leaves the line of the service. -/
  | withdraw (ticket : Ticket)
  /-- A round of new weight tables comes to the service. -/
  | round
  | adjust (adjustment : Adjustment ω)
  | hook (met : Hook)

/-- The deed with other tickets. -/
def Deed.renamed {ω : Type} (rename : Ticket → Ticket) : Deed ω → Deed ω
  | .request ticket asked => .request (rename ticket) asked
  | .visit ticket given => .visit (rename ticket) given
  | .withdraw ticket => .withdraw (rename ticket)
  | .answer place given => .answer place given
  | .leave place => .leave place
  | .round => .round
  | .adjust adjustment => .adjust adjustment
  | .hook met => .hook met

/-- What is found out by a deed. -/
inductive Finding (ω : Type)
  /-- The directory is asked for the list. -/
  | called
  | listed (instances : List Instance)
  | chosen (result : Option Instance)
  /-- An attempt begins. -/
  | attempted (number : Nat) (target : Instance)
  | ended (result : Except RoutingError Reply)
  | tallied (tally : Tally)
  | weighed (table : List ω)
  /-- So many tallies were taken out of the book. -/
  | purged (count : Nat)
  | read (view : Ledger.ServiceView ω)

/-- A deed with its time and its findings. -/
structure Occurrence (ω : Type) where
  now : Instant
  deed : Deed ω
  findings : List (Finding ω)

/-- What was done when, with other tickets. -/
def Occurrence.done {ω : Type} (rename : Ticket → Ticket) (occurrence : Occurrence ω) :
    Instant × Deed ω :=
  (occurrence.now, occurrence.deed.renamed rename)

/-- How far somebody who loads all lists has come with one of them when they get an answer:
that tells it, for they wait for each answer once. -/
def Answer.visitPhase : Answer → LookupPhase
  | .turn => .asked true
  | .lock => .queued none
  | .listing _ | .call _ | .work _ | .time => .loading

/-- The answer that a reload gets tells how far it has come: it waits for its turn, for the
lock and for the listing once each. -/
theorem Lookup.Reloads.visitPhase_eq {lookup : Lookup} (reloads : lookup.Reloads) (answer : Answer)
    (fits : lookup.await?.any (answer.fits ·) = true) : answer.visitPhase = lookup.phase := by
  obtain ⟨service, phase⟩ := lookup
  obtain ⟨asked, queued⟩ := reloads
  -- Only the two phases that a reload does not have would leave the answer open.
  cases phase with
  | asked reload =>
    cases answer with
    | turn =>
      cases reload with
      | false => exact absurd rfl asked
      | true => rfl
    | _ => cases fits
  | queued seen =>
    cases answer with
    | lock =>
      cases seen with
      | none => rfl
      | some count => exact absurd rfl (queued count)
    | _ => cases fits
  | loading =>
    cases answer with
    | listing listing => rfl
    | _ => cases fits
  | answered instances => cases fits

/-- Randomness for strategies that use none. -/
def Draw.none {ω : Type} : Draw ω := ⟨fun _ => 0, id⟩

/-- The service for which a request is. -/
def Request.service? : Request → Option String
  | .invoke service _ | .choose service _ _ | .get service | .refresh service => some service
  | .refreshAll | .start | .shutDown | .register _ | .sleep _ => none

namespace Adjustment

variable {ω : Type}

/-- The service to which an adjustment belongs, if it belongs to a single one. -/
def service? : Adjustment ω → Option String
  | .invalidate service | .aggregateService service _ | .purge service | .openBook service
  | .consult service _ | .pick _ _ service _ => some service
  | .addFilter _ | .registerStrategy _ | .declarePolicy _ | .aggregate => none

/-- The adjustment without its randomness. -/
def undrawn : Adjustment ω → Adjustment ω
  | .pick strategy _ service candidates => .pick strategy .none service candidates
  | adjustment => adjustment

/-- The deeds of an adjustment at a service. A round and a filter are deeds at every service. -/
def deeds (service : String) (adjustment : Adjustment ω) : List (Deed ω) :=
  match adjustment with
  | .aggregate => [.round]
  | .addFilter filter => [.adjust (.addFilter filter)]
  | adjustment => if adjustment.service? = some service then [.adjust adjustment.undrawn] else []

/-- What is found out by an adjustment. -/
def findings [Weight ω] (adjustment : Adjustment ω) (now : Instant) (router : Router ω) :
    List (Finding ω) :=
  let ledger := router.balance.ledger
  match adjustment with
  | .aggregateService service candidates => [.weighed (ledger.aggregate now service candidates).2]
  | .purge service => [.purged (ledger.expired now service)]
  | .openBook service => [.read (ledger.view service)]
  | .consult service x =>
    let (ledger, handle) := ledger.access now service x
    [.tallied (ledger.tally handle)]
  | .pick strategy draw service candidates =>
    [.chosen (router.balance.choose strategy draw now service candidates).2]
  | .addFilter _ | .registerStrategy _ | .declarePolicy _ | .invalidate _ | .aggregate => []

end Adjustment

variable {ω : Type}

/-- What shows of a lookup that has gone on. -/
def Lookup.findings (lookup : Lookup) : List (Finding ω) :=
  match lookup.phase with
  | .loading => [.called]
  | .answered instances => [.listed instances]
  | .asked _ | .queued _ => []

/-- What shows of a selection that has gone on: what shows of its lookup, or its choice. -/
def Selection.findings (selection : Selection) : List (Finding ω) :=
  match selection.phase with
  | .looking _ lookup => lookup.findings
  | .chosen result => [.chosen result]
  | .asked => []

/-- What shows of a task that has gone on. -/
def Task.findings : Task → List (Finding ω)
  | .looking lookup => lookup.findings
  | .choosing selection => selection.findings
  | .invoking invocation =>
    match invocation.phase with
    | .selecting selection => selection.findings
    | .working attempt => [.attempted (invocation.ended + 1) attempt.target]
    | .done result => [.ended result]
    | .resting _ => []
  | .sweeping _ | .opening _ | .closing _ | .registration .. | .sleeping .. | .slept => []

/-- Whether a lookup goes on at an answer. -/
def World.lets (world : World ω) (lookup : Lookup) (ticket : Ticket) (answer : Answer) : Bool :=
  lookup.await?.any fun await => world.permits ticket await answer

/-- What is found out when a task in a place may go on. -/
def World.findings [Weight ω] (world : World ω) (place : Nat) (draw : Draw ω) (answer : Answer) :
    List (Finding ω) :=
  match world.roused? place answer with
  | none => []
  | some (ticket, task) =>
    (task.resume world.client (world.moment ticket draw) answer).2.findings

/-- What a round does to a router for one service. -/
def Router.serve [Weight ω] (router : Router ω) (now : Instant) (service : String) : Router ω :=
  let ledger := router.balance.ledger
  if service ∈ ledger.services.keys then
    { router with
      balance :=
        { router.balance with ledger := ledger.serve now router.cachedCandidates service } }
  else router

namespace Scene

/-- What is found out by a hook. -/
def findings (scene : Scene ω) (hook : Hook) : List (Finding ω) :=
  match scene.reach hook with
  | none => []
  | some (_, handle) => [.tallied ((scene.meet hook).ledger.tally handle)]

/-- A lookup of somebody who loads all lists may go on. -/
def visit (scene : Scene ω) (lookup : Lookup) (ticket : Ticket) (answer : Answer) :
    Scene ω × List (Finding ω) :=
  if scene.world.lets lookup ticket answer then
    let (cache, after) := lookup.resume scene.router.cache scene.now ticket answer
    (scene.withCache cache, after.findings)
  else (scene, [])

variable [Weight ω]

/-- Do a deed of a service, and find out. -/
def enact (service : String) (scene : Scene ω) : Deed ω → Scene ω × List (Finding ω)
  | .request ticket request =>
    ({ scene with
        world := { scene.world with tasks := scene.world.tasks ++ [(ticket, request.task)] } }, [])
  | .answer place answer =>
    (scene.step (.event (.answer place .none answer)), scene.world.findings place .none answer)
  | .leave place => (scene.step (.event (.leave place)), [])
  | .visit ticket answer => scene.visit ⟨service, answer.visitPhase⟩ ticket answer
  | .withdraw ticket => (scene.withCache (scene.router.cache.leave ticket service), [])
  | .round => (scene.withRouter (scene.router.serve scene.now service), [])
  | .adjust adjustment =>
    (scene.step (.event (.adjust adjustment)), adjustment.findings scene.now scene.router)
  | .hook hook => (scene.meet hook, scene.findings hook)

/-- Do the deeds of a service one after the other, each at its time. -/
def replay (service : String) (scene : Scene ω) :
    List (Instant × Deed ω) → Scene ω × List (List (Finding ω))
  | [] => (scene, [])
  | (now, deed) :: rest =>
    let (next, found) := (scene.atTime now).enact service deed
    let (last, others) := next.replay service rest
    (last, found :: others)

end Scene

/-- Somebody who loads all lists comes to the first one of those that are left. -/
def Sweep.arrival (service : String) (now : Instant) (ticket : Ticket) (services : List String) :
    List (Occurrence ω) :=
  if services.head? = some service then [⟨now, .visit ticket .turn, []⟩] else []

/-- What is done for a service when somebody who loads all lists gets an answer, and may go on
at it or not. An answer of another kind than is waited for does nothing. -/
def Sweep.occurrences (service : String) (world : World ω) (ticket : Ticket) (answer : Answer)
    (permitted : Bool) : Sweep → List (Occurrence ω)
  | .asked =>
    if permitted then arrival service world.now ticket world.client.router.cache.services else []
  | .running current remaining =>
    let after := (current.resume world.client.router.cache world.now ticket answer).2
    let found : List (Finding ω) :=
      if world.lets current ticket answer then after.findings else []
    let here : List (Occurrence ω) :=
      if current.service = service ∧ current.await?.any (answer.fits ·) then
        [⟨world.now, .visit ticket answer, found⟩]
      else []
    here ++
      if permitted && after.result?.isSome then arrival service world.now ticket remaining else []
  | .done => []

/-- What is done for a service when somebody who loads all lists goes away. -/
def Sweep.withdrawals (service : String) (now : Instant) (ticket : Ticket) :
    Sweep → List (Occurrence ω)
  | .running current _ =>
    if current.service = service ∧ current.phase.inLine then [⟨now, .withdraw ticket, []⟩] else []
  | .asked | .done => []

/-- What is done for a service when a background job gets an answer. -/
def Job.occurrences (service : String) (world : World ω) (ticket : Ticket) (answer : Answer)
    (job : Job) : List (Occurrence ω) :=
  let permitted := world.permits ticket job.await answer
  match job with
  | .aggregating .. => if permitted then [⟨world.now, .round, []⟩] else []
  | .refreshing _ none _ => []
  | .refreshing _ (some _) .done => Sweep.asked.occurrences service world ticket answer permitted
  | .refreshing _ (some _) sweep => sweep.occurrences service world ticket answer permitted

/-- What is done for a service when a background job is stopped: it leaves the line in which it
stands. -/
def Job.withdrawals (service : String) (now : Instant) (ticket : Ticket) :
    Job → List (Occurrence ω)
  | .aggregating .. => []
  | .refreshing _ _ sweep => sweep.withdrawals service now ticket

namespace World

/-- The tasks on a service. -/
def tasksOn (world : World ω) (service : String) : List (Ticket × Task) :=
  world.tasks.filter fun entry => entry.2.service? = some service

/-- Where the task in a place stands among those on a service. -/
def placeOn (world : World ω) (service : String) (place : Nat) : Nat :=
  ((world.tasks.take place).filter fun entry => entry.2.service? = some service).length

variable [Weight ω]

/-- What is done for a service at an event. -/
def occurrences (service : String) (world : World ω) : Event ω → List (Occurrence ω)
  | .pass _ => []
  | .request request =>
    if request.service? = some service then
      [⟨world.now, .request world.client.nextTicket request, []⟩]
    else []
  | .answer place draw answer =>
    match world.tasks[place]? with
    | none => []
    | some (ticket, .sweeping sweep) =>
      sweep.occurrences service world ticket answer (world.roused? place answer).isSome
    | some (_, task) =>
      if task.service? = some service then
        [⟨world.now, .answer (world.placeOn service place) answer,
          world.findings place draw answer⟩]
      else []
  | .leave place =>
    match world.tasks[place]? with
    | none => []
    | some (ticket, .sweeping sweep) => sweep.withdrawals service world.now ticket
    | some (_, task) =>
      if task.service? = some service then
        [⟨world.now, .leave (world.placeOn service place), []⟩]
      else []
  | .work ticket _ answer =>
    match world.client.jobs.lookup ticket with
    | none => []
    | some job => job.occurrences service world ticket answer
  | .dismiss =>
    world.client.stopped.flatMap fun entry => entry.2.withdrawals service world.now entry.1
  | .adjust adjustment =>
    (adjustment.deeds service).map fun deed =>
      ⟨world.now, deed, adjustment.findings world.now world.client.router⟩

end World

namespace Scene

variable [Weight ω]

/-- What is done for a service at an act. -/
def occurrences (service : String) (scene : Scene ω) : Act ω → List (Occurrence ω)
  | .event event => scene.world.occurrences service event
  | .hook hook =>
    if hook.service = service then [⟨scene.now, .hook hook, scene.findings hook⟩] else []

/-- What is done for a service in a run. -/
def course (service : String) (scene : Scene ω) : List (Act ω) → List (Occurrence ω)
  | [] => []
  | act :: rest => scene.occurrences service act ++ (scene.step act).course service rest

end Scene

end CallRouting
