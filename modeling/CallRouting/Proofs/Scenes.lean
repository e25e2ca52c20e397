import CallRouting.Proofs.Accounts

/-!
# Scenes

Callers may also count calls that they make without an invocation. They take the current
tally of an instance from the statistics and keep its handle under a name, and tell on the
handle when a call starts or ends; or they tell it on the tally that is current just then.
A scene is a world together with the handles that callers keep, and its runs are made of
the events of the world and of such hooks.
-/

namespace CallRouting

/-- What is told to a tally. -/
inductive Count
  | start
  | success (ms : UInt64)
  | failure (ms : UInt64)

/-- What a tally makes of it. -/
def Count.apply : Count → Tally → Tally
  | .start => .started
  | .success ms => (·.succeeded ms)
  | .failure ms => (·.failedAfter ms)

/-- What is told to a tally does not change when it was created. -/
theorem Count.createdAt_apply (count : Count) (tally : Tally) :
    (count.apply tally).createdAt = tally.createdAt := by
  cases count <;> rfl

/-- What callers do with the statistics themselves. -/
inductive Hook
  /-- Keep the handle of an instance in the book of a service. -/
  | hold (service : String) (x : Instance) (name : String)
  /-- Count on a handle that is kept. -/
  | held (service name : String) (count : Count)
  /-- Count on the current tally of an instance. -/
  | current (x : Instance) (count : Count)

/-- The service in whose book a hook counts. -/
def Hook.service : Hook → String
  | .hold service _ _ | .held service _ _ => service
  | .current x _ => x.service

/-- What can happen in a scene. -/
inductive Act (ω : Type)
  | event (event : Event ω)
  | hook (hook : Hook)

/-- A world, and what its callers keep for counting. -/
structure Scene (ω : Type) where
  world : World ω
  /-- The handles that callers keep, by service and name. -/
  kept : Registry (String × String) Handle

namespace Scene

variable {ω : Type}

/-- A scene in which nothing has happened yet. -/
def around (client : Client ω) (now : Instant) : Scene ω := ⟨.around client now, ∅⟩

/-- The time in a scene. -/
def now (scene : Scene ω) : Instant := scene.world.now

/-- The router of its client. -/
def router (scene : Scene ω) : Router ω := scene.world.client.router

/-- The statistics of that router. -/
def ledger (scene : Scene ω) : Ledger ω := scene.router.balance.ledger

/-- The scene at another time. -/
def atTime (scene : Scene ω) (now : Instant) : Scene ω :=
  { scene with world := { scene.world with now } }

/-- The scene with another router. -/
def withRouter (scene : Scene ω) (router : Router ω) : Scene ω :=
  { scene with
    world := { scene.world with client := { scene.world.client with router } } }

/-- The scene with other cached lists. -/
def withCache (scene : Scene ω) (cache : Cache) : Scene ω :=
  scene.withRouter { scene.router with cache }

/-- The scene with other statistics. -/
def withLedger (scene : Scene ω) (ledger : Ledger ω) : Scene ω :=
  scene.withRouter { scene.router with balance := { scene.router.balance with ledger } }

/-- The tally that a hook is about, found or opened. -/
def reach (scene : Scene ω) : Hook → Option (Ledger ω × Handle)
  | .hold service x _ => some (scene.ledger.access scene.now service x)
  | .held service name _ => (scene.kept.find? (service, name)).map (scene.ledger, ·)
  | .current x _ => some (scene.ledger.tallyOf scene.now x)

/-- The scene after a hook. To count on a handle that nobody keeps does nothing. -/
def meet (scene : Scene ω) (hook : Hook) : Scene ω :=
  match scene.reach hook with
  | none => scene
  | some (ledger, handle) =>
    match hook with
    | .hold service _ name =>
      { scene.withLedger ledger with kept := scene.kept.put (service, name) handle }
    | .held _ _ count | .current _ count => scene.withLedger (ledger.change handle count.apply)

variable [Weight ω]

/-- The scene after an act. -/
def step (scene : Scene ω) : Act ω → Scene ω
  | .event event => { scene with world := scene.world.step event }
  | .hook hook => scene.meet hook

/-- An answer that ends no wait changes nothing. -/
theorem step_answer_of_rests (scene : Scene ω) (place : Nat) (draw : Draw ω) (answer : Answer)
    (rests : scene.world.roused? place answer = none) :
    scene.step (.event (.answer place draw answer)) = scene := by
  simp only [step, World.step, rests]

/-- Nothing changes if somebody is to leave who is not there. -/
theorem step_leave_of_absent (scene : Scene ω) (place : Nat)
    (absent : scene.world.tasks[place]? = none) : scene.step (.event (.leave place)) = scene := by
  simp only [step, World.step, absent]

/-- Nothing changes if a job is to go on that does not run. -/
theorem step_work_of_absent (scene : Scene ω) (ticket : Ticket) (draw : Draw ω) (answer : Answer)
    (absent : scene.world.client.jobs.lookup ticket = none) :
    scene.step (.event (.work ticket draw answer)) = scene := by
  simp only [step, World.step, absent]

/-- The scene after a run. -/
def run (scene : Scene ω) (acts : List (Act ω)) : Scene ω := acts.foldl step scene

/-- A run may be cut in two. -/
theorem run_append (scene : Scene ω) (acts more : List (Act ω)) :
    scene.run (acts ++ more) = (scene.run acts).run more :=
  List.foldl_append

end Scene

end CallRouting
