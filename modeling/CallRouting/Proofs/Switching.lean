import CallRouting.Proofs.CacheMoves
import CallRouting.Proofs.Departures
import Mathlib.Data.List.Nodup

/-!
# Switching the jobs on and off

A start switches the background jobs on when the directory has answered its call, and a shutdown
switches them off when it begins, before it calls the directory. What runs at a moment is told by
the last switch: after that of a start the jobs that the settings ask for, each once, however many
starts there were; after that of a shutdown, or before any, nothing.

So a shutdown is final only if no start is under way when it begins and none is asked for later. A
start that waits for the directory meanwhile switches the jobs on again afterwards, also if the
shutdown has returned by then.
-/

namespace CallRouting

variable {ω : Type}

/-- What a task does to the jobs when it next goes on: switch them on or off, or neither. -/
def Task.switch? : Task → Option Bool
  | .opening .initialising => some true
  | .closing .asked => some false
  | _ => none

/-- Whether a task is a start that is under way. -/
def Task.isStarting : Task → Bool
  | .opening .asked | .opening .initialising => true
  | _ => false

/-- A task that goes on changes no settings, and switches the jobs as it is about to: a start when
its directory is initialised, and a shutdown at its first turn. -/
theorem Task.jobs_resume_eq [Weight ω] (task : Task) (client : Client ω) (moment : Moment ω)
    (await : Await) (answer : Answer) (waits : task.await? = some await)
    (fits : answer.fits await = true) :
    (task.resume client moment answer).1.settings = client.settings ∧
      (task.resume client moment answer).1.jobs =
        match task.switch? with
        | some true => client.startJobs.jobs
        | some false => client.stopJobs.jobs
        | none => client.jobs := by
  have settings : client.startJobs.settings = client.settings := by
    unfold Client.startJobs
    split <;> rfl
  cases task with
  | opening phase =>
    cases phase with
    | asked => cases answer <;> exact ⟨rfl, rfl⟩
    | initialising =>
      obtain rfl := Option.some.inj waits
      cases answer with
      | call answer => exact ⟨settings, rfl⟩
      | _ => cases fits
    | done => cases waits
  | closing phase =>
    cases phase with
    | asked =>
      obtain rfl := Option.some.inj waits
      cases answer with
      | turn => exact ⟨rfl, rfl⟩
      | _ => cases fits
    | unregistering => cases answer <;> exact ⟨rfl, rfl⟩
    | closing => cases answer <;> exact ⟨rfl, rfl⟩
    | done => cases waits
  | registration target phase => cases phase <;> cases answer <;> exact ⟨rfl, rfl⟩
  | sleeping wait due => cases due <;> cases answer <;> exact ⟨rfl, rfl⟩
  | _ => exact ⟨rfl, rfl⟩

/-- Only a request makes a start. -/
theorem Task.isStarting_resume [Weight ω] (task : Task) (client : Client ω) (moment : Moment ω)
    (answer : Answer) (starting : (task.resume client moment answer).2.isStarting = true) :
    task.isStarting = true := by
  cases task with
  | opening phase =>
    cases phase with
    | done => cases answer <;> cases starting
    | _ => rfl
  | closing phase => cases phase <;> cases answer <;> cases starting
  | registration target phase => cases phase <;> cases answer <;> cases starting
  | sleeping wait due => cases due <;> cases answer <;> cases starting
  | _ => cases starting

/-- A task that is about to switch the jobs on is a start. -/
theorem Task.isStarting_of_switch? (task : Task) (on : task.switch? = some true) :
    task.isStarting = true := by
  cases task with
  | opening phase =>
    cases phase with
    | initialising => rfl
    | _ => cases on
  | closing phase => cases phase <;> cases on
  | _ => cases on

/-- A job that goes on keeps its kind. -/
theorem Job.isAggregating_resume [Weight ω] (job : Job) (router : Router ω) (moment : Moment ω)
    (answer : Answer) : (job.resume router moment answer).2.isAggregating = job.isAggregating := by
  unfold Job.resume
  split <;> simp only [isAggregating]

/-- The jobs of a client that were last switched on or off. -/
structure Client.Switched (settings : Settings) (on : Bool) (client : Client ω) : Prop where
  same : client.settings = settings
  tickets : (client.jobs.map Prod.fst).Nodup
  kinds : client.jobs.map (·.2.isAggregating) =
    if on then (Client.wantedJobs settings).map Job.isAggregating else []

namespace Client.Switched

variable {settings : Settings} {on : Bool} {client : Client ω}

/-- A client that is created runs no jobs. -/
theorem create (created : Client.create settings = .ok client) :
    client.Switched settings false := by
  unfold Client.create at created
  split at created
  · cases created
  · obtain rfl := Except.ok.inj created
    exact ⟨rfl, List.nodup_nil, rfl⟩

/-- What leaves the settings and the jobs leaves them switched as they are. -/
theorem congr {other : Client ω} (switched : client.Switched settings on)
    (same : other.settings = client.settings) (jobs : other.jobs = client.jobs) :
    other.Switched settings on :=
  ⟨same.trans switched.same, jobs ▸ switched.tickets, jobs ▸ switched.kinds⟩

/-- Jobs that were switched off do not run. -/
theorem jobs_eq_nil (switched : client.Switched settings false) : client.jobs = [] :=
  List.map_eq_nil_iff.mp switched.kinds

/-- To start the jobs switches them on. If some are running already they are all running, and
nothing happens. -/
theorem startJobs (switched : client.Switched settings on) :
    client.startJobs.Switched settings true := by
  unfold Client.startJobs
  split
  · refine ⟨switched.same, ?_, ?_⟩
    · dsimp only
      -- The new jobs get the next tickets in order.
      rw [List.map_fst_zip (by simp)]
      exact List.Nodup.map (fun _ _ => Nat.add_left_cancel) List.nodup_range
    · change List.map (Job.isAggregating ∘ Prod.snd) _ = _
      rw [← List.map_map, List.map_snd_zip (by simp), ← switched.same]
      rfl
  · rename_i running
    cases on with
    | true => exact switched
    | false => simp [switched.jobs_eq_nil] at running

/-- To stop the jobs switches them off. -/
theorem stopJobs (switched : client.Switched settings on) :
    client.stopJobs.Switched settings false :=
  ⟨switched.same, List.nodup_nil, rfl⟩

/-- A job that goes on keeps its ticket and its kind. -/
theorem resumeJob [Weight ω] (switched : client.Switched settings on) (moment : Moment ω)
    (answer : Answer) : (client.resumeJob moment answer).Switched settings on := by
  unfold Client.resumeJob
  split
  · exact switched
  · rename_i job found
    have kind := job.isAggregating_resume client.router moment answer
    obtain ⟨before, after, jobs, replaced⟩ :=
      replace_amid client.jobs switched.tickets moment.ticket job found
    have tickets := switched.tickets
    have kinds := switched.kinds
    rw [jobs] at tickets kinds
    refine ⟨switched.same, ?_, ?_⟩
    · dsimp only
      rw [replaced]
      simpa using tickets
    · dsimp only
      rw [replaced, ← kinds]
      simp [kind]

/-- At most one job of each kind runs. -/
theorem count_kind (switched : client.Switched settings on) (kind : Bool) :
    (client.jobs.map (·.2.isAggregating)).count kind ≤ 1 := by
  rw [switched.kinds]
  cases on with
  | false => exact Nat.zero_le 1
  | true =>
    unfold Client.wantedJobs
    cases settings.aggregation? <;> cases settings.cacheRefresh? <;> cases kind <;>
      simp [Job.isAggregating]

/-- A task that goes on switches the jobs as it is about to, and otherwise they stay as they were
switched. -/
theorem resumeTask [Weight ω] (switched : client.Switched settings on) (task : Task)
    (moment : Moment ω) (await : Await) (answer : Answer) (waits : task.await? = some await)
    (fits : answer.fits await = true) :
    (task.resume client moment answer).1.Switched settings (task.switch?.getD on) := by
  obtain ⟨same, jobs⟩ := task.jobs_resume_eq client moment await answer waits fits
  cases switch : task.switch? with
  | none =>
    rw [switch] at jobs
    exact switched.congr same jobs
  | some now =>
    rw [switch] at jobs
    cases now with
    | true => exact switched.startJobs.congr (same.trans (switched.same.trans
        switched.startJobs.same.symm)) jobs
    | false => exact switched.stopJobs.congr same jobs

end Client.Switched

namespace World

variable [Weight ω]

/-- The switches of the jobs: on at the end of a start, off at the beginning of a shutdown. -/
def switches (world : World ω) : Event ω → List Bool
  | .answer place _ answer => ((world.roused? place answer).bind (·.2.switch?)).toList
  | _ => []

/-- An event leaves the jobs as they were switched last.

Only a task that goes on may switch them; a job that goes on keeps its kind, and whoever is
dropped switches nothing. -/
theorem switched_step (settings : Settings) (on : Bool) (world : World ω) (event : Event ω)
    (switched : world.client.Switched settings on) :
    (world.step event).client.Switched settings ((world.switches event).getLast?.getD on) := by
  cases event with
  | answer place draw answer =>
    simp only [step, switches]
    cases roused : world.roused? place answer with
    | none => exact switched
    | some entry =>
      obtain ⟨ticket, task⟩ := entry
      obtain ⟨-, await, waits, fits, -⟩ := world.roused?_eq_some place answer ticket task roused
      have next :=
        switched.resumeTask task (world.moment ticket draw) await answer waits fits
      simp only [Option.bind_some]
      cases switch : task.switch? <;> simpa [switch] using next
  | leave place =>
    simp only [step]
    split
    · exact switched
    · exact switched.congr rfl rfl
  | work ticket draw answer =>
    simp only [step]
    split
    · exact switched
    · split
      · exact switched.resumeJob _ _
      · exact switched
  | request request => exact switched.congr rfl rfl
  | pass span => exact switched
  | dismiss => exact switched.congr rfl rfl
  | adjust adjustment => exact switched.congr rfl rfl

/-- The jobs of a run are those of its last switch. -/
theorem switched_run (settings : Settings) (client : Client ω)
    (created : Client.create settings = .ok client) (now : Instant) (events : List (Event ω)) :
    ((around client now).run events).client.Switched settings
      (((around client now).observed switches events).getLast?.getD false) := by
  refine observed_induction switches
    (fun log world => world.client.Switched settings (log.getLast?.getD false)) ?_ []
    (around client now) events (.create created)
  intro log world event switched
  have next := switched_step settings _ world event switched
  rwa [← Option.getD_or, ← List.getLast?_append] at next

/-- Whether no start is under way. -/
def StartFree (world : World ω) : Prop := ∀ entry ∈ world.tasks, entry.2.isStarting = false

/-- If no start is under way and none is asked for, none gets under way, and the jobs are not
switched on.

Only a start that goes on switches them on, and it was under way before. -/
theorem startFree_step (world : World ω) (event : Event ω) (free : world.StartFree)
    (unasked : event ≠ .request .start) :
    (world.step event).StartFree ∧ true ∉ world.switches event := by
  constructor
  · rintro ⟨ticket, task⟩ member
    obtain old | ⟨request, rfl, rfl⟩ | ⟨place, draw, answer, earlier, rfl, roused, rfl⟩ :=
      world.mem_tasks_step event ticket task member
    · exact free _ old
    · cases request with
      | start => exact absurd rfl unasked
      | _ => rfl
    · -- What is a start after it has gone on was one before.
      have there := List.mem_of_getElem? (world.roused?_eq_some _ _ _ _ roused).1
      have before := free _ there
      by_contra starting
      rw [Bool.not_eq_false] at starting
      rw [earlier.isStarting_resume _ _ _ starting] at before
      cases before
  · intro on
    cases event with
    | answer place draw answer =>
      simp only [switches, Option.mem_toList, Option.bind_eq_some_iff] at on
      obtain ⟨⟨ticket, task⟩, roused, switch⟩ := on
      have there := List.mem_of_getElem? (world.roused?_eq_some _ _ _ _ roused).1
      have before := free _ there
      rw [task.isStarting_of_switch? switch] at before
      cases before
    | _ => cases on

/-- If no start is under way and none is asked for, jobs that were switched off stay so through a
run.

By induction on the events: none of them switches the jobs on or lets a start get under way. -/
theorem jobs_run_of_startFree (settings : Settings) (world : World ω)
    (switched : world.client.Switched settings false) (free : world.StartFree)
    (events : List (Event ω)) (unasked : .request .start ∉ events) :
    (world.run events).client.Switched settings false := by
  induction events generalizing world with
  | nil => exact switched
  | cons event rest inductionHypothesis =>
    obtain ⟨first, others⟩ := not_or.mp (List.mem_cons.not.mp unasked)
    obtain ⟨kept, off⟩ := world.startFree_step event free (Ne.symm first)
    have next := switched_step settings false world event switched
    have still : (world.switches event).getLast?.getD false = false := by
      cases last : (world.switches event).getLast? with
      | none => rfl
      | some on =>
        cases on with
        | false => rfl
        | true => exact absurd (List.mem_of_getLast? last) off
    rw [still] at next
    exact inductionHypothesis (world.step event) next kept others

/-- The services for which a background job asks the directory at an event. -/
def jobQueries (world : World ω) : Event ω → List String
  | .work ticket draw answer =>
    match world.client.jobs.lookup ticket with
    | none => []
    | some job =>
      if world.permits ticket job.await answer then
        match (job.resume world.client.router (world.moment ticket draw) answer).2.await with
        | .listing service => [service]
        | _ => []
      else []
  | _ => []

/-- Without jobs the directory is not asked by any. -/
theorem jobQueries_eq_nil (world : World ω) (idle : world.client.jobs = []) (event : Event ω) :
    world.jobQueries event = [] := by
  cases event with
  | work ticket draw answer => simp [jobQueries, idle]
  | _ => rfl

/-- What shutdown does, whatever happens in between. At every moment just those jobs run that the
settings ask for, each once, if the last switch was that of a start, and none otherwise; so there
is at most one job of each kind. If no start is under way when a shutdown stops the jobs, and none
is asked for later, no job runs from then on, and no job asks the directory for a list.

By induction over the run the jobs are those of the last switch. Only a start that is under way
can switch them on again, and without one none comes to be unless it is asked for. -/
theorem shutdown_final (settings : Settings) (client : Client ω)
    (created : Client.create settings = .ok client) (now : Instant) (events : List (Event ω)) :
    let world := (around client now).run events
    let kinds := world.client.jobs.map (·.2.isAggregating)
    (kinds =
      if ((around client now).observed switches events).getLast? = some true then
        (Client.wantedJobs settings).map Job.isAggregating
      else []) ∧
    (∀ kind, kinds.count kind ≤ 1) ∧
    ∀ place ticket draw later, world.roused? place .turn = some (ticket, .closing .asked) →
      world.StartFree → .request .start ∉ later →
      let stopped := world.step (.answer place draw .turn)
      (stopped.run later).client.jobs = [] ∧ stopped.observed jobQueries later = [] := by
  intro world kinds
  have switched := switched_run settings client created now events
  refine ⟨?_, switched.count_kind, ?_⟩
  · refine switched.kinds.trans ?_
    cases ((around client now).observed switches events).getLast? with
    | none => rfl
    | some on => cases on <;> rfl
  · intro place ticket draw later roused free unasked stopped
    have off : stopped.client.Switched settings false := by
      have next := switched_step settings _ world (.answer place draw .turn) switched
      simpa [switches, roused, Task.switch?] using next
    have still : stopped.StartFree :=
      (world.startFree_step (.answer place draw .turn) free nofun).1
    have idle (events : List (Event ω)) (unasked : .request .start ∉ events) :
        (stopped.run events).client.jobs = [] :=
      (jobs_run_of_startFree settings stopped off still events unasked).jobs_eq_nil
    -- A job that asks runs just before it does so, but the jobs stay stopped up to any event.
    refine ⟨idle later unasked, List.eq_nil_iff_forall_not_mem.mpr fun service asked => ?_⟩
    obtain ⟨before, event, after, rfl, now⟩ :=
      exists_of_mem_observed jobQueries stopped later service asked
    have before' : .request .start ∉ before :=
      fun member => unasked (List.mem_append_left _ member)
    rw [jobQueries_eq_nil _ (idle before before')] at now
    cases now

/-- Draws that take the first place. -/
def steadyDraw : Draw Float := ⟨fun _ => 0, id⟩

/-- A start comes to its end, and a shutdown is asked for. -/
def startDone : List (Event Float) :=
  [.request .start, .answer 0 steadyDraw .turn, .answer 0 steadyDraw (.call (.ok ())),
    .request .shutDown]

/-- The shutdown goes on to its end, and time passes. -/
def shutdownDone : List (Event Float) :=
  [.answer 1 steadyDraw (.call (.ok ())), .answer 1 steadyDraw (.call (.ok ())),
    .pass 60000000000, .work 1 steadyDraw .turn, .work 2 steadyDraw .turn]

/-- Both jobs run after a start, one of each kind, and none after the shutdown that follows. -/
theorem shutdown_final_startDone :
    let world := (around gateway 0).run startDone
    let stopped := world.step (.answer 1 steadyDraw .turn)
    world.client.jobs.map (·.2.isAggregating) = [true, false] ∧
      world.roused? 1 .turn = some (3, .closing .asked) ∧ world.StartFree ∧
      (stopped.run shutdownDone).client.jobs = [] ∧
      stopped.observed jobQueries shutdownDone = [] := by
  intro world stopped
  obtain ⟨kinds, -, final⟩ :=
    shutdown_final { serviceName := "gateway" } gateway rfl 0 startDone
  have roused : world.roused? 1 .turn = some (3, .closing .asked) := by rfl
  have free : world.StartFree := by
    have tasks : world.tasks = [(0, .opening .done), (3, .closing .asked)] := by rfl
    simp [StartFree, tasks, Task.isStarting]
  exact ⟨kinds.trans (by decide +kernel), roused, free,
    final 1 3 steadyDraw shutdownDone roused free (by simp [shutdownDone])⟩

/-- A caller has a list, and a start waits for the directory. -/
def startUnderWay : List (Event Float) :=
  [.request (.get "order"), .answer 0 steadyDraw .turn, .answer 0 steadyDraw .lock,
    .answer 0 steadyDraw (.listing (.ok [.ofAddress "order" "10.0.0.1" 80])), .request .start,
    .answer 1 steadyDraw .turn]

/-- A shutdown from its beginning to its end. -/
def shutdownReturns : List (Event Float) :=
  [.request .shutDown, .answer 2 steadyDraw .turn, .answer 2 steadyDraw (.call (.ok ())),
    .answer 2 steadyDraw (.call (.ok ()))]

/-- The directory answers the start, and the job that refreshes lists goes on. -/
def jobsGoOn : List (Event Float) :=
  [.answer 1 steadyDraw (.call (.ok ())), .work 4 steadyDraw .turn,
    .pass 60000000000, .work 4 steadyDraw .time, .work 4 steadyDraw .lock]

/-- A start that waits for the directory while a shutdown begins and returns switches the jobs on
afterwards. No start is asked for or begins after the shutdown has returned, and a job asks the
directory for a list again. -/
theorem exists_revived :
    let returned := (around gateway 0).run (startUnderWay ++ shutdownReturns)
    Client.create { serviceName := "gateway" } = .ok gateway ∧
      (2, .closing .done) ∈ returned.tasks ∧ returned.client.jobs = [] ∧
      (∀ ticket, (ticket, .opening .asked) ∉ returned.tasks) ∧ .request .start ∉ jobsGoOn ∧
      (returned.run jobsGoOn).client.jobs.length = 2 ∧
      returned.observed jobQueries jobsGoOn = ["order"] := by
  intro returned
  have tasks : returned.tasks =
      [(0, .looking ⟨"order", .answered [.ofAddress "order" "10.0.0.1" 80]⟩),
        (1, .opening .initialising), (2, .closing .done)] := by rfl
  refine ⟨rfl, ?_, by rfl, ?_, ?_, by decide +kernel, by decide +kernel⟩
  · simp [tasks]
  · simp [tasks]
  · simp [jobsGoOn]

end World

end CallRouting
