import CallRouting.Client.Task
import CallRouting.Simulation.Directory

/-!
# Simulated runs

A client runs here on a clock of its own, with a simulated directory and with
callers whose work follows a script. One task runs at a time, until it has to wait;
tasks that can go on at the same instant do so in a fixed order, the callers first
and the background jobs after them, again and again until none can go on. Callers whose
waits end one after the other pause after a while, so that jobs get their turn. When
none can go on, the clock moves, to the next instant at which something is due. Alarms
ring at whole milliseconds, and after thirty years at the latest.

A run is bounded by a number of steps, so that it is a total function. The bound is
far beyond what a run can use in practice.
-/

namespace CallRouting

/-- What the work of one attempt does: take some time, and then end. -/
structure ScriptedWork where
  time : Duration
  outcome : Except Failure Reply

/-- Work that is over at once. -/
def ScriptedWork.none : ScriptedWork := ⟨.zero, .ok (.integer 0)⟩

/-- What was seen when the work of an attempt began. -/
structure AttemptRecord where
  number : Nat
  target : Instance
  startedAt : Instant
  /-- The running calls to the target, this one included, and all calls to it. -/
  active : UInt64
  total : UInt64

/-- A task of a caller, with the instant from which on its wait can end. -/
structure Caller where
  ticket : Ticket
  task : Task
  wake : Instant
  script : List ScriptedWork
  attempts : List AttemptRecord
  endedAt : Option Instant

/-- A client with a directory, on a clock that runs only while somebody sleeps. -/
structure Simulation where
  now : Instant
  client : Client Float
  directory : SimulatedDirectory
  /-- From when on the waits of background jobs can end. -/
  wakes : Registry Ticket Instant
  /-- How much randomness was handed out. -/
  draws : Nat
  /-- How many more waits of callers may end before callers pause. -/
  waitsLeft : Nat

/-- The `n`-th of a sequence of draws that are spread evenly: places go round, and
numbers step through their range by the golden ratio. -/
def evenDraw (n : Nat) : Draw Float where
  place length := n % length
  point last :=
    let steps := (n.toFloat + 0.5) * 0.6180339887498949
    (steps - steps.floor) * last

/-- The first whole millisecond that is not before an instant. -/
def wholeMillisecond (instant : Instant) : Instant := (instant + 999999) / 1000000 * 1000000

/-- The longest time that an alarm is set for: thirty years of 365 days. -/
def longestAlarm : Nat := 30 * 365 * 86400 * 1000000000

/-- When an alarm rings that is set now. -/
def alarm (now due : Instant) : Instant := wholeMillisecond (min due (now + longestAlarm))

/-- The work of the `n`-th attempt, counted from one: the last entry of the script
stands for all further ones. -/
def scriptedWork (script : List ScriptedWork) (n : Nat) : ScriptedWork :=
  (script[n - 1]? <|> script.getLast?).getD .none

/-- The attempt that a task works on, and its number. -/
def Task.attempt? : Task → Option (Nat × Attempt)
  | .invoking { phase := .working attempt, ended, .. } => some (ended + 1, attempt)
  | _ => none

/-- The work that a caller is about; none takes no time. -/
def Caller.work (caller : Caller) : ScriptedWork :=
  match caller.task.attempt? with
  | some (number, _) => scriptedWork caller.script number
  | none => .none

namespace Simulation

/-- How many waits of callers may end in a row. -/
def waitsInTurn : Nat := 128

/-- The number of steps that a run may take. -/
def patience : Nat := 1000000000000

/-- A simulation in which nothing has happened yet. -/
def start (client : Client Float) (directory : SimulatedDirectory) : Simulation :=
  ⟨0, client, directory, ∅, 0, waitsInTurn⟩

/-- The milliseconds since the start. -/
def millis (simulation : Simulation) : Nat := simulation.now / 1000000

/-- Hand out randomness. -/
def moment (simulation : Simulation) (ticket : Ticket) : Simulation × Moment Float :=
  ({ simulation with draws := simulation.draws + 1 },
    ⟨simulation.now, ticket, evenDraw simulation.draws⟩)

/-- The simulation with a change of the routing. -/
def mapRouter (simulation : Simulation) (change : Router Float → Router Float) : Simulation :=
  { simulation with
    client := { simulation.client with router := change simulation.client.router } }

/-- The simulation with a change of the statistics. -/
def mapLedger (simulation : Simulation) (change : Ledger Float → Ledger Float) : Simulation :=
  simulation.mapRouter fun router =>
    { router with balance := { router.balance with ledger := change router.balance.ledger } }

/-- A task begins to wait, for work of a given length if for work: from when on the
wait can end. -/
def beginWait (simulation : Simulation) (await : Await) (work : Duration) : Simulation × Instant :=
  match await with
  | .turn | .lock _ | .call _ => (simulation, simulation.now)
  | .listing _ =>
    ({ simulation with directory := simulation.directory.beginListing },
      alarm simulation.now (simulation.now + simulation.directory.delay.nanos))
  | .work => (simulation, alarm simulation.now (simulation.now + work.nanos))
  | .time due => (simulation, alarm simulation.now due)

/-- The answer that ends a wait, if it can end now. -/
def answer? (simulation : Simulation) (ticket : Ticket) (await : Await) (wake : Instant)
    (outcome : Except Failure Reply) : Option (Simulation × Answer) :=
  match await with
  | .turn => some (simulation, .turn)
  | .lock service =>
    if simulation.client.router.cache.admits ticket service then some (simulation, .lock) else none
  | .call call =>
    let (directory, answer) := simulation.directory.call call
    some ({ simulation with directory }, .call answer)
  | .listing service =>
    if wake ≤ simulation.now then some (simulation, .listing (simulation.directory.listing service))
    else none
  | .work => if wake ≤ simulation.now then some (simulation, .work outcome) else none
  | .time _ => if wake ≤ simulation.now then some (simulation, .time) else none

/-- Whether what a caller waits for is there in any case, so that it need not wait. -/
def isAtHand (simulation : Simulation) (caller : Caller) : Await → Bool
  | .turn | .call _ => true
  | .listing _ => simulation.directory.delay.isZero
  | .work => caller.work.time.isZero
  | .lock _ | .time _ => false

/-- The answer that ends a caller's wait, if it can end now and callers do not pause. -/
def answerCaller? (simulation : Simulation) (caller : Caller) (await : Await) :
    Option (Simulation × Answer) :=
  let answer? (simulation : Simulation) :=
    simulation.answer? caller.ticket await caller.wake caller.work.outcome
  if simulation.isAtHand caller await then answer? simulation
  else
    match simulation.waitsLeft with
    | 0 => none
    | waitsLeft + 1 => answer? { simulation with waitsLeft }

/-- Note an attempt whose work begins. Its target's statistics are read on the way. -/
def note (simulation : Simulation) (number : Nat) (attempt : Attempt) :
    Simulation × AttemptRecord :=
  let (ledger, handle) :=
    simulation.client.router.balance.ledger.tallyOf simulation.now attempt.target
  let tally := ledger.tally handle
  (simulation.mapLedger fun _ => ledger,
    ⟨number, attempt.target, simulation.now, tally.active, tally.total⟩)

/-- A caller's task has gone on: note what it begins. -/
def settleCaller (simulation : Simulation) (caller : Caller) : Simulation × Caller :=
  match caller.task.await? with
  | none => (simulation, { caller with endedAt := some simulation.now })
  | some await =>
    let (simulation, attempts) :=
      match caller.task.attempt? with
      | some (number, attempt) =>
        let (simulation, record) := simulation.note number attempt
        (simulation, caller.attempts ++ [record])
      | none => (simulation, caller.attempts)
    let (simulation, wake) := simulation.beginWait await caller.work.time
    (simulation, { caller with wake, attempts })

/-- Run a caller until it has to wait. The flag says whether it went on at all. -/
def runCaller : Nat → Simulation → Caller → Simulation × Caller × Bool
  | 0, simulation, caller => (simulation, caller, false)
  | fuel + 1, simulation, caller =>
    match caller.task.await? with
    | none => (simulation, caller, false)
    | some await =>
      match simulation.answerCaller? caller await with
      | none => (simulation, caller, false)
      | some (simulation, answer) =>
        let (simulation, moment) := simulation.moment caller.ticket
        let (client, task) := caller.task.resume simulation.client moment answer
        let (simulation, caller) :=
          { simulation with client }.settleCaller { caller with task }
        let (simulation, caller, _) := runCaller fuel simulation caller
        (simulation, caller, true)

/-- Run a background job until it has to wait. -/
def runJob : Nat → Simulation → Ticket → Simulation × Bool
  | 0, simulation, _ => (simulation, false)
  | fuel + 1, simulation, ticket =>
    match simulation.client.jobs.lookup ticket with
    | none => (simulation, false)
    | some job =>
      let wake := (simulation.wakes.find? ticket).getD simulation.now
      match simulation.answer? ticket job.await wake ScriptedWork.none.outcome with
      | none => (simulation, false)
      | some (simulation, answer) =>
        let (simulation, moment) := simulation.moment ticket
        let client := simulation.client.resumeJob moment answer
        let simulation := { simulation with client }
        match client.jobs.lookup ticket with
        | none => (simulation, true)
        | some job =>
          let (simulation, wake) := simulation.beginWait job.await .zero
          let simulation := { simulation with wakes := simulation.wakes.put ticket wake }
          ((runJob fuel simulation ticket).1, true)

/-- Run all callers in order. -/
def runCallers (fuel : Nat) (simulation : Simulation) : List Caller →
    Simulation × List Caller × Bool
  | [] => (simulation, [], false)
  | caller :: rest =>
    let (simulation, caller, moved) := runCaller fuel simulation caller
    let (simulation, rest, restMoved) := runCallers fuel simulation rest
    (simulation, caller :: rest, moved || restMoved)

/-- Let stopped jobs go, and run all other background jobs in order. -/
def runJobs (fuel : Nat) (simulation : Simulation) : Simulation × Bool :=
  (simulation.client.jobs.map Prod.fst).foldl
    (fun (simulation, moved) ticket =>
      let (simulation, jobMoved) := runJob fuel simulation ticket
      (simulation, moved || jobMoved))
    ({ simulation with client := simulation.client.dismissStopped },
      !simulation.client.stopped.isEmpty)

/-- Let the background jobs run until all of them wait. -/
def letJobsRun : Nat → Simulation → Simulation
  | 0, simulation => simulation
  | fuel + 1, simulation =>
    match simulation.runJobs fuel with
    | (simulation, true) => letJobsRun fuel simulation
    | (simulation, false) => simulation

/-- The next instant at which something is due. -/
def nextInstant? (simulation : Simulation) (callers : List Caller) : Option Instant :=
  let ofCallers := callers.filterMap fun caller =>
    if caller.task.await?.isSome then some caller.wake else none
  let ofJobs := simulation.client.jobs.filterMap fun entry => simulation.wakes.find? entry.1
  ((ofCallers ++ ofJobs).filter (simulation.now < ·)).min?

/-- Run callers until all have ended, or none can ever go on. -/
def runAll : Nat → Simulation → List Caller → Simulation × List Caller
  | 0, simulation, callers => (simulation, callers)
  | fuel + 1, simulation, callers =>
    let (simulation, callers, moved) := runCallers fuel simulation callers
    if callers.all fun caller => caller.task.await?.isNone then (simulation, callers)
    else
      let (simulation, jobsMoved) := { simulation with waitsLeft := waitsInTurn }.runJobs fuel
      if moved || jobsMoved then runAll fuel simulation callers
      else
        match simulation.nextInstant? callers with
        | some now => runAll fuel { simulation with now } callers
        | none => (simulation, callers)

/-- Callers for tasks with scripts. They get their tickets in order. -/
def enroll (simulation : Simulation) (tasks : List (Task × List ScriptedWork)) :
    Simulation × List Caller :=
  let first := simulation.client.nextTicket
  let callers := tasks.zipIdx.map fun ((task, script), place) =>
    (⟨first + place, task, simulation.now, script, [], none⟩ : Caller)
  ({ simulation with client := { simulation.client with nextTicket := first + tasks.length } },
    callers)

/-- Run tasks side by side until all have ended. -/
def perform (simulation : Simulation) (tasks : List (Task × List ScriptedWork)) :
    Simulation × List Caller :=
  let (simulation, callers) := simulation.enroll tasks
  runAll patience simulation callers

/-- Run one task without work of its own. -/
def performOne (simulation : Simulation) (task : Task) : Simulation × Task :=
  match simulation.perform [(task, [])] with
  | (simulation, [caller]) => (simulation, caller.task)
  | (simulation, _) => (simulation, task)

/-- Start the client, and let its jobs run until they wait. -/
def startClient (simulation : Simulation) : Simulation :=
  let simulation := (simulation.performOne (.opening .asked)).1
  letJobsRun patience { simulation with waitsLeft := waitsInTurn }

/-- The simulation after the client was shut down. -/
def stopClient (simulation : Simulation) : Simulation :=
  (simulation.performOne (.closing .asked)).1

/-- Let time pass. -/
def sleep (simulation : Simulation) (wait : Duration) : Simulation :=
  (simulation.performOne (.sleeping wait none)).1

/-- Choose once from given candidates. -/
def chooseFrom (simulation : Simulation) (strategy : Strategy) (service : String)
    (candidates : List Instance) : Simulation × Option Instance :=
  let (simulation, moment) := simulation.moment 0
  let router := simulation.client.router
  let (balance, picked) :=
    router.balance.choose strategy moment.draw simulation.now service candidates
  (simulation.mapRouter fun router => { router with balance }, picked)

/-- Choose many times from given candidates, and count what is chosen by the text of
its identity. -/
def countChoices (strategy : Strategy) (service : String) (candidates : List Instance) :
    Nat → Simulation → Registry String Nat → Simulation × Registry String Nat
  | 0, simulation, counts => (simulation, counts)
  | n + 1, simulation, counts =>
    let (simulation, picked) := simulation.chooseFrom strategy service candidates
    let name := (picked.map (·.identity.text)).getD "none"
    countChoices strategy service candidates n simulation
      (counts.put name ((counts.find? name).getD 0 + 1))

/-- A share in quarters, rounded to the nearest. -/
def quarters (count total : Nat) : Nat := (8 * count + total) / (2 * total)

end Simulation

end CallRouting
