import CallRouting.Proofs.Visits

/-!
# Services do not disturb each other

In two runs of one client the same may be done for a service, at the same times and with the
same answers, while for other services the one run does this and the other one that. Then the
service cannot tell the runs apart: whatever is found out there is the same, call by call, and
so are its list, its tallies and its table in the end.

Each run is replayed by a scene of the service alone. What the replay comes to depends on the
deeds and on nothing else, and the deeds are the same; so both runs are alike to one scene.

It is assumed that lists keep to their names, for a call to an instance that carries another
name is counted there, and that choices at the service go by turns or by running calls, for
others draw or weigh.
-/

namespace CallRouting

variable {ω : Type} {service : String} {rename : Ticket → Ticket} {places : List Handle}

/-- A request that goes by a steady strategy, if it is for a choice at the service. -/
def Request.Proper (service : String) : Request → Prop
  | .choose other wanted _ =>
    other = service → ∀ strategy ∈ wanted, strategy.Steady
  | .invoke .. | .get _ | .refresh _ | .refreshAll | .start | .shutDown | .register _ | .sleep _ =>
    True

/-- The task of a proper request keeps to its service, and to a steady strategy. -/
theorem Request.orderly_task (request : Request) (proper : request.Proper service) :
    request.task.Orderly service := by
  cases request with
  | invoke other policy => exact Invocation.orderly_start other policy
  | choose other wanted failed =>
    refine ⟨fun _ _ phase => (nomatch phase), fun here => ⟨proper here, ?_⟩⟩
    exact fun _ _ phase => (nomatch phase)
  | _ => exact trivial

variable [Weight ω]

namespace Scene

/-- An act that keeps lists to their names, the strategy for first attempts to what it is, and
choices at the service to steady strategies. -/
def Proper (service : String) (scene : Scene ω) : Act ω → Prop
  | .event (.request request) => request.Proper service
  | .event (.answer place _ answer) =>
    ∀ entry ∈ scene.world.tasks[place]?, answer.Keeps entry.2.await?
  | .event (.work ticket _ answer) =>
    ∀ job ∈ scene.world.client.jobs.lookup ticket, answer.Keeps (some job.await)
  | .event (.adjust adjustment) => adjustment.Proper service scene.router
  | .event (.pass _) | .event (.leave _) | .event .dismiss | .hook _ => True

instance (scene : Scene ω) (place : Nat) (draw : Draw ω) (answer : Answer) :
    Decidable (scene.Proper service (.event (.answer place draw answer))) :=
  inferInstanceAs (Decidable (∀ entry ∈ scene.world.tasks[place]?, answer.Keeps entry.2.await?))

/-- Each act of a run is proper when it comes. -/
def ProperRun (service : String) (scene : Scene ω) : List (Act ω) → Prop
  | [] => True
  | act :: rest => scene.Proper service act ∧ (scene.step act).ProperRun service rest

/-- A proper act keeps a scene orderly.

Only answers, jobs and adjustments reach the lists and the rules, and for each of them there is
a lemma; a request brings a task that keeps to its service, and a leaving caller takes one
away. -/
theorem Orderly.step {scene : Scene ω} (tidy : scene.Orderly service) (act : Act ω)
    (proper : scene.Proper service act) : (scene.step act).Orderly service := by
  cases act with
  | hook hook =>
    have rules : (scene.meet hook).router.cache = scene.router.cache ∧
        (scene.meet hook).router.filters = scene.router.filters ∧
        (scene.meet hook).router.strategy = scene.router.strategy ∧
        (scene.meet hook).world.tasks = scene.world.tasks ∧
        (scene.meet hook).world.client.jobs = scene.world.client.jobs := by
      unfold meet
      split
      · exact ⟨rfl, rfl, rfl, rfl, rfl⟩
      · split <;> exact ⟨rfl, rfl, rfl, rfl, rfl⟩
    obtain ⟨cache, filters, strategy, tasks, jobs⟩ := rules
    exact ⟨⟨cache ▸ tidy.router.named, filters ▸ tidy.router.keep, strategy ▸ tidy.router.steady⟩,
      tasks ▸ tidy.tasks, jobs ▸ tidy.jobs⟩
  | event event =>
    cases event with
    | pass span => exact ⟨tidy.router, tidy.tasks, tidy.jobs⟩
    | request request =>
      refine ⟨tidy.router, fun entry member => ?_, tidy.jobs⟩
      rcases List.mem_append.mp member with old | new
      · exact tidy.tasks entry old
      · exact List.mem_singleton.mp new ▸ request.orderly_task proper
    | answer place draw answer =>
      cases roused : scene.world.roused? place answer with
      | none =>
        rw [scene.step_answer_of_rests place draw answer roused]
        exact tidy
      | some entry =>
        obtain ⟨ticket, task⟩ := entry
        obtain ⟨found, _⟩ := scene.world.roused?_eq_some place answer ticket task roused
        obtain ⟨router, next⟩ := task.orderly_resume service scene.world.client
          (scene.world.moment ticket draw) answer (tidy.tasks _ (List.mem_of_getElem? found))
          tidy.router (proper (ticket, task) found)
        simp only [Scene.step, World.step, roused]
        refine ⟨router, fun entry member => ?_, task.reloads_jobs _ _ answer tidy.jobs⟩
        rcases List.mem_or_eq_of_mem_set member with old | new
        · exact tidy.tasks entry old
        · exact new ▸ next
    | leave place =>
      cases found : scene.world.tasks[place]? with
      | none =>
        rw [scene.step_leave_of_absent place found]
        exact tidy
      | some entry =>
        simp only [Scene.step, World.step, found]
        exact ⟨entry.2.orderly_abandon scene.world.client entry.1 tidy.router, fun other member =>
          tidy.tasks other (List.mem_of_mem_eraseIdx member), tidy.jobs⟩
    | work ticket draw answer =>
      cases found : scene.world.client.jobs.lookup ticket with
      | none =>
        rw [scene.step_work_of_absent ticket draw answer found]
        exact tidy
      | some job =>
        have router := job.orderly_resume scene.router (scene.world.moment ticket draw) answer
          tidy.router (proper job found)
        simp only [Scene.step, World.step, found]
        split
        · refine ⟨?_, tidy.tasks, ?_⟩
          · simp only [Scene.router, Client.resumeJob, World.moment, found] at router ⊢
            exact router
          · exact scene.world.client.reloads_resumeJob _ answer tidy.jobs
        · exact tidy
    | dismiss =>
      exact ⟨scene.world.client.orderly_dismissStopped tidy.router, tidy.tasks, tidy.jobs⟩
    | adjust adjustment =>
      exact ⟨adjustment.orderly_apply proper tidy.router scene.now, tidy.tasks, tidy.jobs⟩

/-- What is done for the service at an act is replayed by a scene of the service alone.

One case for each kind of act. An act at the service is replayed by its own lemma; one
elsewhere leaves the scenes alike and replays nothing. Sweeps, jobs, rounds and withdrawals are
about several services at once, and replay what they do for this one. -/
theorem Alike.replayed_step {scene alone : Scene ω}
    (alike : scene.Alike service rename places alone) (injective : Function.Injective rename)
    (tidy : scene.Orderly service) (act : Act ω) (proper : scene.Proper service act) :
    (scene.step act).Replayed service rename alone (scene.occurrences service act) := by
  cases act with
  | hook hook =>
    simp only [occurrences]
    split
    · rename_i here
      obtain ⟨⟨wider, alikeAfter⟩, found⟩ := (alike.atTime scene.now).replayed_hook rfl hook here
      exact .one _ (.hook hook) _ alikeAfter found
    · rename_i away
      exact .none (alike.hook_elsewhere hook away)
  | event event =>
    cases event with
    | pass span => exact .none (alike.of_same rfl rfl rfl fun _ among _ => among)
    | request request =>
      simp only [occurrences, World.occurrences]
      split
      · rename_i here
        exact alike.replayed_request request here
      · rename_i away
        exact .none (alike.request_elsewhere request away)
    | answer place draw answer =>
      cases found : scene.world.tasks[place]? with
      | none =>
        have rests : scene.world.roused? place answer = none := by
          simp [World.roused?, found]
        rw [scene.step_answer_of_rests place draw answer rests]
        simp only [occurrences, World.occurrences, found]
        exact .none alike
      | some entry =>
        obtain ⟨ticket, task⟩ := entry
        have keeps := proper (ticket, task) found
        have onward (single : ∀ sweep, task ≠ .sweeping sweep) :
            (scene.step (.event (.answer place draw answer))).Replayed service rename alone
              (if task.service? = some service then
                [⟨scene.now, .answer (scene.world.placeOn service place) answer,
                  scene.world.findings place draw answer⟩]
              else []) := by
          split
          · rename_i here
            exact alike.replayed_answer injective tidy place draw answer ticket task found here
              keeps
          · rename_i away
            exact .none
              (alike.answer_elsewhere tidy place draw answer ticket task found away single keeps)
        simp only [occurrences, World.occurrences, found]
        cases task with
        | sweeping sweep =>
          have reloads := tidy.tasks _ (List.mem_of_getElem? found)
          exact alike.replayed_answer_sweep injective place draw answer ticket sweep reloads found
        | _ => exact onward (by simp)
    | leave place =>
      cases found : scene.world.tasks[place]? with
      | none =>
        rw [scene.step_leave_of_absent place found]
        simp only [occurrences, World.occurrences, found]
        exact .none alike
      | some entry =>
        obtain ⟨ticket, task⟩ := entry
        have onward (single : ∀ sweep, task ≠ .sweeping sweep) :
            (scene.step (.event (.leave place))).Replayed service rename alone
              (if task.service? = some service then
                [⟨scene.now, .leave (scene.world.placeOn service place), []⟩]
              else []) := by
          split
          · rename_i here
            exact alike.replayed_leave injective tidy place ticket task found here
          · rename_i away
            exact .none (alike.leave_elsewhere tidy place ticket task found away single)
        simp only [occurrences, World.occurrences, found]
        cases task with
        | sweeping sweep => exact alike.replayed_leave_sweep injective place ticket sweep found
        | _ => exact onward (by simp)
    | work ticket draw answer =>
      cases found : scene.world.client.jobs.lookup ticket with
      | none =>
        rw [scene.step_work_of_absent ticket draw answer found]
        simp only [occurrences, World.occurrences, found]
        exact .none alike
      | some job =>
        simp only [occurrences, World.occurrences, found]
        have reloads := tidy.jobs _ (mem_of_lookup found)
        exact alike.replayed_work injective ticket draw answer job reloads found
    | dismiss =>
      have replayed := alike.replayed_withdrawals injective scene.world.client.stopped
      refine replayed.imp fun _ _ alikeNext => ?_
      exact alikeNext.of_same rfl rfl rfl fun _ among _ => among
    | adjust adjustment => exact alike.replayed_adjust adjustment proper

/-- What is done for the service in a run is replayed by a scene of the service alone, by
induction over the acts. -/
theorem Alike.replayed_run {scene alone : Scene ω}
    (alike : scene.Alike service rename places alone) (injective : Function.Injective rename)
    (tidy : scene.Orderly service) (acts : List (Act ω)) (proper : scene.ProperRun service acts) :
    (scene.run acts).Replayed service rename alone (scene.course service acts) := by
  induction acts generalizing scene alone places with
  | nil => exact .none alike
  | cons act rest inductionHypothesis =>
    exact (alike.replayed_step injective tidy act proper.1).append fun _ _ alikeNext =>
      inductionHypothesis alikeNext (tidy.step act proper.1) proper.2

omit [Weight ω] in
/-- A scene around a new client is alike to itself. -/
theorem Alike.of_create (settings : Settings) (client : Client ω)
    (made : Client.create settings = .ok client) (service : String) (rename : Ticket → Ticket)
    (now : Instant) :
    (around client now).Alike service rename [] (around client now) := by
  unfold Client.create at made
  split at made
  · cases made
  · obtain rfl := Except.ok.inj made
    exact
      { router := ⟨⟨rfl, rfl⟩, rfl, rfl, rfl, rfl, .of_empty _ service⟩
        tasks := .nil
        kept := fun _ => .none
        strangers := fun handle stranger => by cases stranger <;> contradiction }

omit [Weight ω] in
/-- A scene around a new client that has a steady strategy is orderly. -/
theorem Orderly.of_create (settings : Settings) (client : Client ω)
    (made : Client.create settings = .ok client) (steady : client.router.strategy.Steady)
    (service : String) (now : Instant) : (around client now).Orderly service := by
  unfold Client.create at made
  split at made
  · cases made
  · obtain rfl := Except.ok.inj made
    exact ⟨⟨fun _ _ found => (nomatch found), fun _ member => (nomatch member), steady⟩,
      fun _ member => (nomatch member), fun _ member => (nomatch member)⟩

/-- Services do not disturb each other. If the same is done for a service in two runs, up to the
tickets, then the same is found out by it each time, and the list that is kept in the end and
all that is read of the statistics are the same, whatever is done for other services.

Each run is compared with a scene in which the service is alone, and in which only what
concerns it is done. An act on the service is done there as well, and keeps the two alike; an
act elsewhere is not, and leaves them alike. Since the same is done for the service in both
runs, they are compared with one and the same scene. -/
theorem services_apart (settings : Settings) (client : Client ω)
    (made : Client.create settings = .ok client)
    (strategy : client.router.strategy = .roundRobin ∨ client.router.strategy = .bestAvailable)
    (now : Instant) (service : String) (rename : Ticket → Ticket)
    (injective : Function.Injective rename) (acts others : List (Act ω))
    (proper : (around client now).ProperRun service acts)
    (properToo : (around client now).ProperRun service others)
    (same : ((around client now).course service acts).map (·.done rename) =
      ((around client now).course service others).map (·.done id)) :
    ((around client now).course service acts).map (·.findings) =
        ((around client now).course service others).map (·.findings) ∧
      ((around client now).run acts).router.cache.peek service =
        ((around client now).run others).router.cache.peek service ∧
      ((around client now).run acts).ledger.view service =
        ((around client now).run others).ledger.view service := by
  have steady : client.router.strategy.Steady := by
    rcases strategy with turns | best
    · rw [turns]
      exact trivial
    · rw [best]
      exact trivial
  have tidy := Orderly.of_create settings client made steady service now
  have start (rename : Ticket → Ticket) :
      (around client now).Alike service rename [] (around client now) :=
    .of_create settings client made service rename now
  obtain ⟨⟨places, alike⟩, found⟩ := (start rename).replayed_run injective tidy acts proper
  obtain ⟨⟨placesToo, alikeToo⟩, foundToo⟩ :=
    (start id).replayed_run Function.injective_id tidy others properToo
  rw [same] at alike found
  refine ⟨found.symm.trans foundToo, ?_, ?_⟩
  · exact alike.router.cache.peek.symm.trans alikeToo.router.cache.peek
  · exact alike.router.balance.ledger.view.trans alikeToo.router.balance.ledger.view.symm

/-- A client that chooses by turns and counts in whole numbers. -/
def byTurns : Client Int where
  settings := {}
  router :=
    { cache := .empty (.ofMillis 30000)
      balance := .empty (.ofSeconds 3600)
      filters := []
      strategies := .standard
      configured := "RoundRobin"
      policies := .empty ((RetryPolicy.named "default").withWait (.ofMillis 1000)) 9999 }
  jobs := []
  stopped := []
  nextTicket := 0

/-- An order is placed while all lists are loaded anew, and a round follows. -/
def quiet : List (Act Int) :=
  [.request (.invoke "orders" (.named "default")), .answer 0 .none .turn, .answer 0 .none .lock,
    .answer 0 .none (.listing (.ok [.ofAddress "orders" "10.0.0.1" 80])), .request .refreshAll,
    .answer 1 .none .turn, .answer 1 .none .lock,
    .answer 1 .none (.listing (.ok [.ofAddress "orders" "10.0.0.1" 80])), .pass 3000000,
    .answer 0 .none (.work (.ok (.integer 7))), .adjust .aggregate].map .event

/-- The same beside a call of another service, which fails, and whose list is loaded first. -/
def busy : List (Act Int) :=
  [.request (.invoke "users" (.named "default")), .answer 0 .none .turn,
    .request (.invoke "orders" (.named "default")), .answer 1 .none .turn, .answer 0 .none .lock,
    .answer 0 .none (.listing (.ok [.ofAddress "users" "10.0.0.2" 80])), .answer 1 .none .lock,
    .answer 1 .none (.listing (.ok [.ofAddress "orders" "10.0.0.1" 80])), .request .refreshAll,
    .answer 2 .none .turn, .answer 2 .none .lock,
    .answer 2 .none (.listing (.ok [.ofAddress "users" "10.0.0.2" 80])), .answer 2 .none .lock,
    .answer 2 .none (.listing (.ok [.ofAddress "orders" "10.0.0.1" 80])), .pass 3000000,
    .answer 0 .none (.work (.error .formatting)), .answer 1 .none (.work (.ok (.integer 7))),
    .adjust .aggregate].map .event

/-- Nobody asks for another strategy in the quiet run, and its lists keep to their names. -/
theorem proper_quiet : (around byTurns 0).ProperRun "orders" quiet := by
  refine ⟨trivial, ?_, ?_, ?_, trivial, ?_, ?_, ?_, trivial, ?_, trivial, trivial⟩
  all_goals decide +kernel

/-- Nobody asks for another strategy in the busy run either, and its lists keep to their names. -/
theorem proper_busy : (around byTurns 0).ProperRun "orders" busy := by
  refine ⟨trivial, ?_, trivial, ?_, ?_, ?_, ?_, ?_, trivial, ?_, ?_, ?_, ?_, ?_, trivial, ?_, ?_,
    trivial, trivial⟩
  all_goals decide +kernel

/-- For the orders the runs do the same, with later tickets in the busy one. For the users the
quiet run does next to nothing. The orders are called alike, and what is kept about them in the
end is the same. -/
theorem services_apart_quiet_busy :
    ((around byTurns 0).course "users" quiet).length = 1 ∧
      ((around byTurns 0).course "users" busy).length = 9 ∧
      ((around byTurns 0).course "orders" quiet).map (·.done Nat.succ) =
        ((around byTurns 0).course "orders" busy).map (·.done id) ∧
      ((around byTurns 0).course "orders" quiet).map (·.findings) =
        ((around byTurns 0).course "orders" busy).map (·.findings) ∧
      ((around byTurns 0).run quiet).router.cache.peek "orders" =
        ((around byTurns 0).run busy).router.cache.peek "orders" ∧
      ((around byTurns 0).run quiet).ledger.view "orders" =
        ((around byTurns 0).run busy).ledger.view "orders" := by
  have same : ((around byTurns 0).course "orders" quiet).map (·.done Nat.succ) =
      ((around byTurns 0).course "orders" busy).map (·.done id) := rfl
  refine ⟨rfl, rfl, same, ?_⟩
  exact services_apart {} byTurns rfl (.inl rfl) 0 "orders" Nat.succ Nat.succ_injective quiet busy
    proper_quiet proper_busy same

end Scene

end CallRouting
