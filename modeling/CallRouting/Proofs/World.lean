import CallRouting.Client.Task

/-!
# The world around a client

Callers ask a client for something at any time, and each request becomes a task. A
task goes on when what it waits for has come; the callers, the directory, the clock and
the draws decide which task that is and what its answer says. So a run is a list of
events about which nothing is assumed, and the events of one list are one interleaving
of the tasks at the points where they wait.

An event that cannot happen changes nothing: an answer reaches a task only if it is of
the kind for which the task waits, a load lock lets nobody in but its holder, and no
timer rings before it is due. What is observed of a run is written down beside it, by an
observer that sees each event and the world before it.
-/

namespace CallRouting

/-- What callers ask a client for. -/
inductive Request
  | invoke (service : String) (policy : RetryPolicy)
  | choose (service : String) (wanted : Option Strategy) (failed : List Identity)
  | get (service : String)
  | refresh (service : String)
  | refreshAll
  | start
  | shutDown
  | register (target : Instance)
  | sleep (wait : Duration)

/-- The task that a request becomes. -/
def Request.task : Request → Task
  | .invoke service policy => .invoking (.start service policy)
  | .choose service wanted failed => .choosing ⟨service, wanted, failed, .asked⟩
  | .get service => .looking (.get service)
  | .refresh service => .looking (.refresh service)
  | .refreshAll => .sweeping .asked
  | .start => .opening .asked
  | .shutDown => .closing .asked
  | .register target => .registration target .asked
  | .sleep wait => .sleeping wait none

/-- What callers do with a client that never has to wait. -/
inductive Adjustment (ω : Type)
  | addFilter (filter : Filter)
  | registerStrategy (strategy : Strategy)
  /-- Look up the policy that a call's declaration stands for. -/
  | declarePolicy (declared : Option RetryPolicy)
  | invalidate (service : String)
  /-- One round of new weight tables. -/
  | aggregate
  | aggregateService (service : String) (candidates : List Instance)
  | purge (service : String)
  /-- Read the statistics of a service, or of an instance in its book. -/
  | openBook (service : String)
  | consult (service : String) (x : Instance)
  /-- Choose from a list without a call. -/
  | pick (strategy : Strategy) (draw : Draw ω) (service : String) (candidates : List Instance)

namespace Adjustment

variable {ω : Type} [Weight ω]

/-- What an adjustment does to the statistics and the turns. -/
def balance (adjustment : Adjustment ω) (now : Instant) (router : Router ω) : Balance ω :=
  let balance := router.balance
  let ledger := balance.ledger
  match adjustment with
  | .aggregate => (router.aggregate now).1.balance
  | .aggregateService service candidates =>
    { balance with ledger := (ledger.aggregate now service candidates).1 }
  | .purge service => { balance with ledger := ledger.purge now service }
  | .openBook service => { balance with ledger := ledger.openBook service }
  | .consult service x => { balance with ledger := (ledger.access now service x).1 }
  | .pick strategy draw service candidates =>
    (balance.choose strategy draw now service candidates).1
  | .addFilter _ | .registerStrategy _ | .declarePolicy _ | .invalidate _ => balance

/-- The router after an adjustment. -/
def apply (adjustment : Adjustment ω) (now : Instant) (router : Router ω) : Router ω :=
  let router := { router with balance := adjustment.balance now router }
  match adjustment with
  | .addFilter filter => { router with filters := router.filters ++ [filter] }
  | .registerStrategy strategy => { router with strategies := router.strategies.register strategy }
  | .declarePolicy declared => { router with policies := (router.policies.resolve declared).1 }
  | .invalidate service => { router with cache := router.cache.invalidate service }
  | .aggregate | .aggregateService .. | .purge _ | .openBook _ | .consult .. | .pick .. => router

end Adjustment

/-- What can happen. Tasks go by their places in the list of those that have not been
left. -/
inductive Event (ω : Type)
  | pass (span : Nat)
  | request (request : Request)
  | answer (place : Nat) (draw : Draw ω) (answer : Answer)
  /-- A caller goes away before the end. -/
  | leave (place : Nat)
  /-- A background job goes on. -/
  | work (ticket : Ticket) (draw : Draw ω) (answer : Answer)
  /-- The jobs that were stopped are let go. -/
  | dismiss
  | adjust (adjustment : Adjustment ω)

/-- A client with its callers and the time. -/
structure World (ω : Type) where
  now : Instant
  client : Client ω
  /-- The tasks in the order in which they were asked for, ended ones included. -/
  tasks : List (Ticket × Task)

/-- To change the entry in a place, or to drop it, leaves the others in order. -/
theorem split_at_place {α : Type} (entries : List α) (place : Nat) (entry : α)
    (found : entries[place]? = some entry) :
    ∃ before after, entries = before ++ entry :: after ∧
      (∀ other, entries.set place other = before ++ other :: after) ∧
      entries.eraseIdx place = before ++ after := by
  obtain ⟨inside, rfl⟩ := List.getElem?_eq_some_iff.mp found
  refine ⟨entries.take place, entries.drop (place + 1), ?_, ?_,
    List.eraseIdx_eq_take_drop_succ entries place⟩
  · rw [List.getElem_cons_drop, List.take_append_drop]
  · intro other
    rw [List.set_eq_take_append_cons_drop, if_pos inside]

namespace World

variable {ω : Type}

/-- A world in which nobody has asked for anything yet. -/
def around (client : Client ω) (now : Instant) : World ω := ⟨now, client, []⟩

/-- Whether an answer can end a wait now. -/
def permits (world : World ω) (ticket : Ticket) (await : Await) (answer : Answer) : Bool :=
  answer.fits await &&
    match await with
    | .lock service => world.client.router.cache.admits ticket service
    | .time due => decide (due ≤ world.now)
    | .turn | .listing _ | .call _ | .work => true

/-- The task in a place, if an answer ends its wait. -/
def roused? (world : World ω) (place : Nat) (answer : Answer) : Option (Ticket × Task) := do
  let (ticket, task) ← world.tasks[place]?
  let await ← task.await?
  if world.permits ticket await answer then some (ticket, task) else none

/-- A task that goes on is in its place, waits, and gets an answer that fits. -/
theorem roused?_eq_some (world : World ω) (place : Nat) (answer : Answer) (ticket : Ticket)
    (task : Task) (roused : world.roused? place answer = some (ticket, task)) :
    world.tasks[place]? = some (ticket, task) ∧
      ∃ await, task.await? = some await ∧ answer.fits await = true ∧
        world.permits ticket await answer = true := by
  unfold roused? at roused
  cases found : world.tasks[place]? with
  | none => simp [found] at roused
  | some entry =>
    obtain ⟨owner, candidate⟩ := entry
    cases waits : candidate.await? with
    | none => simp [found, waits] at roused
    | some await =>
      simp only [found, waits, Option.bind_eq_bind, Option.bind_some, Option.ite_none_right_eq_some,
        Option.some.injEq, Prod.mk.injEq] at roused
      obtain ⟨permitted, rfl, rfl⟩ := roused
      exact ⟨rfl, await, waits, (Bool.and_eq_true_iff.mp permitted).1, permitted⟩

/-- What a task meets when it goes on. -/
def moment (world : World ω) (ticket : Ticket) (draw : Draw ω) : Moment ω :=
  ⟨world.now, ticket, draw⟩

variable [Weight ω]

/-- The world after an event. -/
def step (world : World ω) : Event ω → World ω
  | .pass span => { world with now := world.now + span }
  | .request request =>
    let ticket := world.client.nextTicket
    { world with
      client := { world.client with nextTicket := ticket + 1 }
      tasks := world.tasks ++ [(ticket, request.task)] }
  | .answer place draw answer =>
    match world.roused? place answer with
    | none => world
    | some (ticket, task) =>
      let (client, task) := task.resume world.client (world.moment ticket draw) answer
      { world with client, tasks := world.tasks.set place (ticket, task) }
  | .leave place =>
    match world.tasks[place]? with
    | none => world
    | some (ticket, task) =>
      { world with
        client := task.abandon world.client ticket
        tasks := world.tasks.eraseIdx place }
  | .work ticket draw answer =>
    match world.client.jobs.lookup ticket with
    | none => world
    | some job =>
      if world.permits ticket job.await answer then
        { world with client := world.client.resumeJob (world.moment ticket draw) answer }
      else world
  | .dismiss => { world with client := world.client.dismissStopped }
  | .adjust adjustment =>
    { world with
      client :=
        { world.client with router := adjustment.apply world.now world.client.router } }

/-- A task was there before an event, or has been asked for by it, or has gone on.

A task that goes on is put in its place; all other events add a task, take one away or leave them
all. -/
theorem mem_tasks_step (world : World ω) (event : Event ω) (ticket : Ticket) (task : Task)
    (member : (ticket, task) ∈ (world.step event).tasks) :
    (ticket, task) ∈ world.tasks ∨
      (∃ request, event = .request request ∧ task = request.task) ∨
      ∃ place draw answer earlier, event = .answer place draw answer ∧
        world.roused? place answer = some (ticket, earlier) ∧
        task = (earlier.resume world.client (world.moment ticket draw) answer).2 := by
  cases event with
  | request request =>
    rcases List.mem_append.mp member with old | new
    · exact .inl old
    · exact .inr (.inl ⟨request, rfl, congrArg Prod.snd (List.mem_singleton.mp new)⟩)
  | answer place draw answer =>
    cases roused : world.roused? place answer with
    | none => exact .inl (by simpa only [step, roused] using member)
    | some entry =>
      simp only [step, roused] at member
      rcases List.mem_or_eq_of_mem_set member with old | new
      · exact .inl old
      · obtain ⟨rfl, rfl⟩ := Prod.mk.inj new
        exact .inr (.inr ⟨place, draw, answer, entry.2, rfl, roused, rfl⟩)
  | leave place =>
    simp only [step] at member
    split at member
    · exact .inl member
    · exact .inl (List.mem_of_mem_eraseIdx member)
  | work ticket draw answer =>
    simp only [step] at member
    split at member
    · exact .inl member
    · split at member <;> exact .inl member
  | pass span => exact .inl member
  | dismiss => exact .inl member
  | adjust adjustment => exact .inl member

/-- The world after a run. -/
def run (world : World ω) (events : List (Event ω)) : World ω := events.foldl step world

/-- A run may be cut in two. -/
theorem run_append (world : World ω) (events more : List (Event ω)) :
    world.run (events ++ more) = (world.run events).run more :=
  List.foldl_append

/-- A run with one more event is that event after the run. -/
theorem run_concat (world : World ω) (events : List (Event ω)) (event : Event ω) :
    world.run (events ++ [event]) = (world.run events).step event :=
  world.run_append events [event]

/-- What an observer writes down in a run. -/
def observed {ρ : Type} (observer : World ω → Event ω → List ρ) (world : World ω) :
    List (Event ω) → List ρ
  | [] => []
  | event :: rest => observer world event ++ observed observer (world.step event) rest

/-- What is observed in a run in two parts is what is observed in each part. -/
theorem observed_append {ρ : Type} (observer : World ω → Event ω → List ρ) (world : World ω)
    (events more : List (Event ω)) :
    world.observed observer (events ++ more) =
      world.observed observer events ++ (world.run events).observed observer more := by
  induction events generalizing world with
  | nil => rfl
  | cons event rest inductionHypothesis =>
    simp only [List.cons_append, observed, inductionHypothesis, List.append_assoc]
    rfl

/-- What an observer writes down, it writes down at an event of the run. -/
theorem exists_of_mem_observed {ρ : Type} (observer : World ω → Event ω → List ρ)
    (world : World ω) (events : List (Event ω)) (note : ρ)
    (member : note ∈ world.observed observer events) :
    ∃ earlier event later, events = earlier ++ event :: later ∧
      note ∈ observer (world.run earlier) event := by
  induction events generalizing world with
  | nil => cases member
  | cons event rest inductionHypothesis =>
    rcases List.mem_append.mp member with now | later
    · exact ⟨[], event, rest, rfl, now⟩
    · obtain ⟨earlier, found, after, split, noted⟩ := inductionHypothesis _ later
      exact ⟨event :: earlier, found, after, by rw [split, List.cons_append], noted⟩

/-- What a run keeps. If each event carries a relation between what was written down and
the world on to the next one, then so does the run. -/
theorem observed_induction {ρ : Type} (observer : World ω → Event ω → List ρ)
    (Holds : List ρ → World ω → Prop)
    (step : ∀ written world event, Holds written world →
      Holds (written ++ observer world event) (world.step event))
    (written : List ρ) (world : World ω) (events : List (Event ω)) (start : Holds written world) :
    Holds (written ++ world.observed observer events) (world.run events) := by
  induction events generalizing written world with
  | nil => simpa only [observed, run, List.append_nil, List.foldl_nil] using start
  | cons event rest inductionHypothesis =>
    have next := step written world event start
    have onwards := inductionHypothesis _ _ next
    simpa only [observed, run, List.append_assoc, List.foldl_cons] using onwards

end World

end CallRouting
