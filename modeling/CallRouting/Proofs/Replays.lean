import CallRouting.Proofs.AlikeScenes

/-!
# Replays

Each deed that is done for a service in a scene is enacted in the one of the service alone,
to which it stays alike, and the findings are the same. What is done elsewhere is not
enacted, and leaves the two scenes alike.

This module is about requests and the tasks that they become, about hooks and about what
callers adjust.
-/

namespace CallRouting

variable {ω : Type} {service : String} {rename : Ticket → Ticket} {places : List Handle}

/-- The task of a request is on the service of the request. -/
theorem Request.service?_task (request : Request) : request.task.service? = request.service? := by
  cases request <;> rfl

variable [Weight ω]

namespace Scene

section Replays

variable (service) (alone : Scene ω)

/-- To replay deeds in two parts comes to the same scene. -/
theorem replay_append_fst (first second : List (Instant × Deed ω)) :
    (alone.replay service (first ++ second)).1 =
      ((alone.replay service first).1.replay service second).1 := by
  induction first generalizing alone with
  | nil => rfl
  | cons deed rest inductionHypothesis => exact inductionHypothesis _

/-- To replay deeds in two parts finds out what each part does. -/
theorem replay_append_snd (first second : List (Instant × Deed ω)) :
    (alone.replay service (first ++ second)).2 =
      (alone.replay service first).2 ++
        ((alone.replay service first).1.replay service second).2 := by
  induction first generalizing alone with
  | nil => rfl
  | cons deed rest inductionHypothesis =>
    exact congrArg (List.cons _) (inductionHypothesis _)

end Replays

/-- A scene to which one alone comes alike by the deeds of some occurrences, and with the same
findings. -/
structure Replayed (service : String) (rename : Ticket → Ticket) (after alone : Scene ω)
    (occurrences : List (Occurrence ω)) : Prop where
  alike : ∃ places, after.Alike service rename places
    (alone.replay service (occurrences.map (·.done rename))).1
  found : (alone.replay service (occurrences.map (·.done rename))).2 =
    occurrences.map (·.findings)

namespace Replayed

variable {scene middle after alone : Scene ω}

/-- Nothing has to be replayed for a scene that is alike already. -/
theorem none (alike : after.Alike service rename places alone) :
    after.Replayed service rename alone [] := ⟨⟨places, alike⟩, rfl⟩

/-- A single deed replays an occurrence if it leaves the scenes alike and finds out the same. -/
theorem one (now : Instant) (deed : Deed ω) (findings : List (Finding ω))
    (alike : after.Alike service rename places
      ((alone.atTime now).enact service (deed.renamed rename)).1)
    (found : ((alone.atTime now).enact service (deed.renamed rename)).2 = findings) :
    after.Replayed service rename alone [⟨now, deed, findings⟩] :=
  ⟨⟨places, alike⟩, congrArg (fun found => [found]) found⟩

/-- What is replayed up to a middle scene, and from there on, is replayed as a whole. -/
theorem append {occurrences more : List (Occurrence ω)}
    (first : middle.Replayed service rename alone occurrences)
    (second : ∀ places next, middle.Alike service rename places next →
      after.Replayed service rename next more) :
    after.Replayed service rename alone (occurrences ++ more) := by
  obtain ⟨⟨places, alike⟩, found⟩ := first
  obtain ⟨⟨wider, alikeAfter⟩, foundAfter⟩ := second places _ alike
  refine ⟨⟨wider, ?_⟩, ?_⟩
  · rw [List.map_append, replay_append_fst]
    exact alikeAfter
  · rw [List.map_append, replay_append_snd, found, foundAfter, List.map_append]

/-- If a scene is replayed, so is whatever is alike to every scene that the replay may come to:
the same deeds lead there, with the same findings. -/
theorem imp {occurrences : List (Occurrence ω)}
    (replayed : middle.Replayed service rename alone occurrences)
    (onward : ∀ places next, middle.Alike service rename places next →
      after.Alike service rename places next) :
    after.Replayed service rename alone occurrences := by
  obtain ⟨⟨places, alike⟩, found⟩ := replayed
  exact ⟨⟨places, onward places _ alike⟩, found⟩

end Replayed

section Tasks

variable {scene alone : Scene ω} (alike : scene.Alike service rename places alone)
include alike

/-- A request for the service is replayed as a request. The two tasks have the same ticket up to
renaming, and neither runs an attempt yet. -/
theorem Alike.replayed_request (request : Request) (here : request.service? = some service) :
    (scene.step (.event (.request request))).Replayed service rename alone
      [⟨scene.now, .request scene.world.client.nextTicket request, []⟩] := by
  refine .one _ _ _ ⟨alike.router, ?_, alike.kept, ?_⟩ rfl
  · have added : (scene.step (.event (.request request))).world.tasksOn service =
        scene.world.tasksOn service ++ [(scene.world.client.nextTicket, request.task)] := by
      simp [step, World.step, World.tasksOn, request.service?_task, here]
    rw [added]
    exact List.rel_append alike.tasks (.cons ⟨rfl, .same _ request.attempt?_task⟩ .nil)
  · intro handle stranger
    refine alike.strangers handle (stranger.of_fewer ?_ fun _ _ _ => rfl)
    intro entry member away
    rcases List.mem_append.mp member with old | new
    · exact fun _ => old
    · rw [List.mem_singleton.mp new] at away
      exact absurd (request.service?_task.trans here) away

/-- A request for something else adds a task that is not on the service, so the scenes stay alike
without a deed. -/
theorem Alike.request_elsewhere (request : Request) (away : request.service? ≠ some service) :
    (scene.step (.event (.request request))).Alike service rename places alone := by
  refine ⟨alike.router, ?_, alike.kept, ?_⟩
  · have left : (scene.step (.event (.request request))).world.tasksOn service =
        scene.world.tasksOn service := by
      simp [step, World.step, World.tasksOn, request.service?_task, away]
    exact left ▸ alike.tasks
  · intro handle stranger
    refine alike.strangers handle (stranger.of_fewer ?_ fun _ _ _ => rfl)
    intro entry member _ running
    rcases List.mem_append.mp member with old | new
    · exact old
    · rw [List.mem_singleton.mp new] at running
      exact absurd request.attempt?_task running

omit [Weight ω] in
/-- A task on the service has one in its place that waits alike, and an answer ends the wait of
both or of none. -/
theorem Alike.roused? (injective : Function.Injective rename) (now : alone.now = scene.now)
    (place : Nat) (ticket : Ticket) (task : Task)
    (found : scene.world.tasks[place]? = some (ticket, task))
    (here : task.service? = some service) (orderly : task.Orderly service) :
    ∃ own, alone.world.tasks[scene.world.placeOn service place]? = some (rename ticket, own) ∧
      task.Alike places own ∧ ∀ answer,
        (scene.world.roused? place answer = none ∧
          alone.world.roused? (scene.world.placeOn service place) answer = none) ∨
        (scene.world.roused? place answer = some (ticket, task) ∧
          alone.world.roused? (scene.world.placeOn service place) answer =
            some (rename ticket, own)) := by
  -- The place of the task among those on the service is the one in the other scene.
  have picked := getElem?_filter_take
    (fun entry : Ticket × Task => decide (entry.2.service? = some service)) scene.world.tasks place
    (ticket, task) found (decide_eq_true here)
  obtain ⟨⟨_, own⟩, foundAlone, rfl, same⟩ := exists_of_forall₂ alike.tasks _ picked
  refine ⟨own, foundAlone, same, fun answer => ?_⟩
  have foundAlone : alone.world.tasks[scene.world.placeOn service place]? =
    some (rename ticket, own) := foundAlone
  have waits := same.await?_eq
  have permits (await : Await) (awaits : task.await? = some await) :
      alone.world.permits (rename ticket) await answer =
        scene.world.permits ticket await answer := by
    -- An answer is refused where a line is not free yet or a time has not come, and both are the
    -- same in the two scenes.
    cases await with
    | lock other =>
      obtain rfl := task.service_of_lock here orderly other awaits
      exact congrArg (answer.fits _ && ·) (alike.router.cache.admits injective ticket)
    | time due =>
      exact congrArg (fun now => answer.fits _ && decide (due ≤ now)) now
    | _ => rfl
  simp only [World.roused?, found, foundAlone, ← waits, Option.bind_eq_bind, Option.bind_some]
  cases awaits : task.await? with
  | none => exact .inl ⟨rfl, rfl⟩
  | some await =>
    simp only [Option.bind_some, permits await awaits]
    split
    · exact .inr ⟨rfl, rfl⟩
    · exact .inl ⟨rfl, rfl⟩

/-- A task on the service may go on.

The task goes on in both scenes, where it has the same phase and waits for the same; so it ends
up the same, with its attempt on a handle in the same place. -/
theorem Alike.replayed_answer (injective : Function.Injective rename) (tidy : scene.Orderly service)
    (place : Nat) (draw : Draw ω) (answer : Answer) (ticket : Ticket) (task : Task)
    (found : scene.world.tasks[place]? = some (ticket, task))
    (here : task.service? = some service) (keeps : answer.Keeps task.await?) :
    (scene.step (.event (.answer place draw answer))).Replayed service rename alone
      [⟨scene.now, .answer (scene.world.placeOn service place) answer,
        scene.world.findings place draw answer⟩] := by
  have orderly := tidy.tasks _ (List.mem_of_getElem? found)
  have more := (scene.world.moves_step (.answer place draw answer)).size_le
  obtain ⟨own, foundAlone, same, roused⟩ := (alike.atTime scene.now).roused? injective rfl place
    ticket task found here orderly
  -- The answer rouses both tasks or none.
  rcases roused answer with ⟨rests, restsAlone⟩ | ⟨goes, goesAlone⟩
  · rw [scene.step_answer_of_rests place draw answer rests]
    refine .one _ _ _ (?_ : scene.Alike service rename places _) ?_
    · simp only [enact, Deed.renamed, step, World.step, restsAlone]
      exact alike.atTime scene.now
    · simp only [enact, Deed.renamed, World.findings, rests, restsAlone]
  · have moments : Moment.Alike rename (scene.world.moment ticket draw)
        ((alone.atTime scene.now).world.moment (rename ticket) .none) := ⟨rfl, rfl⟩
    obtain ⟨wider, grown, routers, tasks⟩ := task.alike_resume service own here same orderly
      scene.world.client alone.world.client alike.router tidy.router moments answer keeps
    have service?_next := task.service?_resume scene.world.client (scene.world.moment ticket draw)
      answer
    have alikeAfter : (scene.step (.event (.answer place draw answer))).Alike service rename wider
        ((alone.atTime scene.now).enact service
          (.answer (scene.world.placeOn service place) answer)).1 := by
      refine ⟨?_, ?_, fun name => Placed.mono? grown.isPrefix (alike.kept name), ?_⟩
      · simp only [enact, step, World.step, goes, goesAlone]
        exact routers
      · simp only [enact, step, World.step, goes, goesAlone, World.tasksOn]
        rw [filter_set _ _ _ _ found _ (by simp only [service?_next]),
          if_pos (decide_eq_true here)]
        exact forall₂_set (alike.tasks_wider grown) _ ⟨rfl, tasks⟩
      · refine alike.strangers_wider grown more fun handle stranger => stranger.of_fewer ?_ ?_
        · intro entry member away _
          simp only [step, World.step, goes] at member
          rcases List.mem_or_eq_of_mem_set member with old | new
          · exact old
          · rw [new] at away
            exact absurd (service?_next.trans here) away
        · exact fun _ _ _ => rfl
    refine .one _ _ _ alikeAfter ?_
    simp only [enact, Deed.renamed, World.findings, goes, goesAlone]
    exact tasks.findings.symm

/-- A task that is neither on the service nor loads all lists may go on.

What the task does to the cache, the turns and the rules is about its own service; what it
opens and counts in the ledger is in other books, on handles that stand for none of the places. -/
theorem Alike.answer_elsewhere (tidy : scene.Orderly service) (place : Nat) (draw : Draw ω)
    (answer : Answer) (ticket : Ticket) (task : Task)
    (found : scene.world.tasks[place]? = some (ticket, task))
    (away : task.service? ≠ some service) (single : ∀ sweep, task ≠ .sweeping sweep)
    (keeps : answer.Keeps task.await?) :
    (scene.step (.event (.answer place draw answer))).Alike service rename places alone := by
  have member := List.mem_of_getElem? found
  have orderly := tidy.tasks _ member
  cases roused : scene.world.roused? place answer with
  | none =>
    rw [scene.step_answer_of_rests place draw answer roused]
    exact alike
  | some entry =>
    obtain ⟨owner, same⟩ := entry
    obtain ⟨again, _⟩ := scene.world.roused?_eq_some place answer owner same roused
    obtain ⟨rfl, rfl⟩ := Prod.mk.inj (Option.some.inj (found.symm.trans again))
    have service?_next := task.service?_resume scene.world.client (scene.world.moment ticket draw)
      answer
    have leaves := task.leaves_resume away single orderly scene.world.client
      (scene.world.moment ticket draw) answer
    -- What the task counts on is open for another service, and stands for no place.
    have minds : task.Minds (· ≠ service) (· ∉ places)
        ⟨scene.router, scene.world.moment ticket draw, answer⟩ :=
      task.minds orderly scene.router tidy.router _ answer keeps
        (fun other own here => away (own.trans (congrArg some here)))
        fun number attempt running =>
          (alike.strangers _ (.running ticket task number attempt member away running)).2
    have moves := task.moves_resume scene.world.client (scene.world.moment ticket draw) answer
      alike.router.balance.ledger.free minds
    refine alike.elsewhere scene.now ?_ ?_ ?_ (fun _ => rfl) ?_
    · simp only [step, World.step, roused, Scene.router]
      exact leaves
    · simp only [step, World.step, roused, Scene.ledger, Scene.router]
      exact moves
    · simp only [step, World.step, roused, World.tasksOn]
      rw [filter_set _ _ _ _ found _ (by simp only [service?_next]), if_neg (by simpa using away)]
    · intro handle stranger
      cases stranger with
      | running other later number attempt among apart running =>
        simp only [step, World.step, roused] at among
        rcases List.mem_or_eq_of_mem_set among with old | new
        · exact .inl (.running other later number attempt old apart running)
        · obtain ⟨rfl, rfl⟩ := Prod.mk.inj new
          -- A running attempt has the handle it had, or one that was found or opened just now.
          rcases task.leads_attempt? scene.world.client (scene.world.moment _ draw) answer orderly
            tidy.router keeps number attempt running with ⟨earlier, before⟩ | ⟨own, key, works, led⟩
          · exact .inl (.running _ task earlier attempt member away before)
          · refine .inr ⟨own, key, fun here => away (here ▸ works), ?_⟩
            simp only [step, World.step, roused, Scene.ledger, Scene.router]
            exact led
      | kept other name handle apart kept => exact .inl (.kept other name handle apart kept)

/-- A task on the service is dropped, and the one that stands for it as well: both give up what
they hold. -/
theorem Alike.replayed_leave (injective : Function.Injective rename) (tidy : scene.Orderly service)
    (place : Nat) (ticket : Ticket) (task : Task)
    (found : scene.world.tasks[place]? = some (ticket, task))
    (here : task.service? = some service) :
    (scene.step (.event (.leave place))).Replayed service rename alone
      [⟨scene.now, .leave (scene.world.placeOn service place), []⟩] := by
  have orderly := tidy.tasks _ (List.mem_of_getElem? found)
  obtain ⟨own, foundAlone, same, _⟩ := (alike.atTime scene.now).roused? injective rfl place
    ticket task found here orderly
  have routers := task.alike_abandon service own here same orderly scene.world.client
    alone.world.client alike.router injective ticket
  have alikeAfter : (scene.step (.event (.leave place))).Alike service rename places
      ((alone.atTime scene.now).enact service (.leave (scene.world.placeOn service place))).1 := by
    refine ⟨?_, ?_, alike.kept, ?_⟩
    · simp only [enact, step, World.step, found, foundAlone]
      exact routers
    · simp only [enact, step, World.step, found, foundAlone, World.tasksOn]
      rw [filter_eraseIdx _ _ _ _ found, if_pos (decide_eq_true here)]
      exact forall₂_eraseIdx alike.tasks _
    · simp only [step, World.step, found]
      intro handle stranger
      refine alike.strangers handle (stranger.of_fewer ?_ fun _ _ _ => rfl)
      exact fun entry member _ _ => List.mem_of_mem_eraseIdx member
  exact .one _ _ _ alikeAfter rfl

/-- A task that is neither on the service nor loads all lists is dropped, and at the service
nothing changes. -/
theorem Alike.leave_elsewhere (tidy : scene.Orderly service) (place : Nat) (ticket : Ticket)
    (task : Task) (found : scene.world.tasks[place]? = some (ticket, task))
    (away : task.service? ≠ some service) (single : ∀ sweep, task ≠ .sweeping sweep) :
    (scene.step (.event (.leave place))).Alike service rename places alone := by
  have orderly := tidy.tasks _ (List.mem_of_getElem? found)
  have leaves := task.leaves_abandon away single orderly scene.world.client ticket
  refine alike.elsewhere scene.now ?_ ?_ ?_ (fun _ => rfl) ?_
  · simp only [step, World.step, found, Scene.router]
    exact leaves
  · simp only [step, World.step, found, Scene.ledger, Scene.router]
    exact .refl _
  · simp only [step, World.step, found, World.tasksOn]
    rw [filter_eraseIdx _ _ _ _ found, if_neg (by simpa using away)]
  · simp only [step, World.step, found]
    intro handle stranger
    refine .inl (stranger.of_fewer ?_ fun _ _ _ => rfl)
    exact fun entry member _ _ => List.mem_of_mem_eraseIdx member

end Tasks

section Hooks

omit [Weight ω] in
/-- A hook in the book of the service leaves the scenes alike, and finds out the same in both.

It finds or opens the same entry in both, with handles in one place, so it counts the same and
keeps handles that are alike. -/
theorem Alike.replayed_hook {scene alone : Scene ω}
    (alike : scene.Alike service rename places alone) (now : alone.now = scene.now) (hook : Hook)
    (here : hook.service = service) :
    (∃ wider, (scene.meet hook).Alike service rename wider (alone.meet hook)) ∧
      alone.findings hook = scene.findings hook := by
  cases hook with
  | hold other x name =>
    obtain rfl : other = service := here
    obtain ⟨wider, grown, opened, placed⟩ := alike.router.balance.ledger.access scene.now x
    have base := alike.withRouter grown (scene.ledger.size_le_access scene.now other x)
      (alike.router.withLedger opened)
    simp only [meet, reach, findings, now]
    refine ⟨⟨wider, base.router, base.tasks, fun asked => ?_, ?_⟩, ?_⟩
    · simp only [Registry.find?_put]
      split
      · exact .some placed
      · exact base.kept asked
    · intro handle stranger
      refine base.strangers handle (stranger.of_fewer (fun _ among _ _ => among) ?_)
      intro third asked away
      rw [Registry.find?_put, if_neg fun same => away (Prod.mk.inj same).1.symm]
      rfl
    · exact congrArg (fun tally => [Finding.tallied tally]) (opened.tally_eq placed).symm
  | held other name count =>
    obtain rfl : other = service := here
    have kept := alike.kept name
    simp only [meet, reach, findings]
    generalize scene.kept.find? (other, name) = found at kept ⊢
    generalize alone.kept.find? (other, name) = foundAlone at kept ⊢
    cases kept with
    | none => exact ⟨⟨places, alike⟩, rfl⟩
    | some placed =>
      have changed := alike.router.balance.ledger.change placed count.apply
      refine ⟨⟨places, alike.withRouter (.refl _ places) ?_ (alike.router.withLedger changed)⟩, ?_⟩
      · simp [Ledger.change, Scene.ledger]
      · exact congrArg (fun tally => [Finding.tallied tally]) (changed.tally_eq placed).symm
  | current x count =>
    obtain rfl : x.service = service := here
    obtain ⟨wider, grown, opened, placed⟩ := alike.router.balance.ledger.access scene.now x
    have changed := opened.change placed count.apply
    have more := scene.ledger.size_le_access scene.now x.service x
    simp only [meet, reach, findings, now]
    refine ⟨⟨wider, alike.withRouter grown ?_ (alike.router.withLedger changed)⟩, ?_⟩
    · simpa [Ledger.change, Ledger.tallyOf] using more
    · exact congrArg (fun tally => [Finding.tallied tally]) (changed.tally_eq placed).symm

omit [Weight ω] in
/-- A hook in another book leaves the scenes alike without a deed, for it opens and counts tallies
of other services only. -/
theorem Alike.hook_elsewhere {scene alone : Scene ω}
    (alike : scene.Alike service rename places alone) (hook : Hook)
    (away : hook.service ≠ service) :
    (scene.meet hook).Alike service rename places alone := by
  have free := alike.router.balance.ledger.free
  cases hook with
  | hold other x name =>
    obtain ⟨moves, leads⟩ : Ledger.Moves scene.now (· ≠ service) (· ∉ places) scene.ledger _ ∧ _ :=
      scene.ledger.moves_access other x away
    refine alike.elsewhere scene.now (.withLedger _ _) moves rfl (fun asked => ?_) ?_
    -- Under the name of another service a handle is kept that leads into a book of that service.
    · simp only [meet, reach]
      rw [Registry.find?_put, if_neg fun same : (other, name) = (service, asked) =>
        away (Prod.mk.inj same).1]
    · intro handle stranger
      cases stranger with
      | running ticket task number attempt member apart running =>
        exact .inl (.running ticket task number attempt member apart running)
      | kept third asked handle apart found =>
        simp only [meet, reach, Registry.find?_put] at found
        split at found
        · exact .inr ⟨other, x.identity, away, Option.some.inj found ▸ leads⟩
        · exact .inl (.kept third asked handle apart found)
  | held other name count =>
    simp only [meet, reach]
    cases found : scene.kept.find? (other, name) with
    | none => exact alike
    | some handle =>
      -- A handle that is kept for another service stands for no place, so what is counted on it is
      -- not seen here.
      have absent := (alike.strangers handle (.kept other name handle away found)).2
      have moves : Ledger.Moves scene.now (· ≠ service) (· ∉ places) scene.ledger
        (scene.ledger.change handle count.apply) := .change _ _ _ absent count.createdAt_apply
      exact alike.elsewhere scene.now (.withLedger _ _) moves rfl (fun _ => rfl) fun _ stranger =>
        .inl (stranger.of_fewer (fun _ among _ _ => among) fun _ _ _ => rfl)
  | current x count =>
    obtain ⟨moves, leads⟩ : Ledger.Moves scene.now (· ≠ service) (· ∉ places) scene.ledger _ ∧ _ :=
      scene.ledger.moves_access x.service x away
    have absent := (free.moves moves).led _ _ _ away leads
    have told := moves.trans (.change _ _ _ absent count.createdAt_apply)
    exact alike.elsewhere scene.now (.withLedger _ _) told rfl (fun _ => rfl) fun _ stranger =>
      .inl (stranger.of_fewer (fun _ among _ _ => among) fun _ _ _ => rfl)

end Hooks

section Adjustments

variable {scene alone : Scene ω} (alike : scene.Alike service rename places alone)
include alike

/-- What is adjusted or read at the service is replayed; so are a filter for everybody and a round
over all services, while what concerns other services needs no deed. -/
theorem Alike.replayed_adjust (adjustment : Adjustment ω)
    (proper : adjustment.Proper service scene.router) :
    (scene.step (.event (.adjust adjustment))).Replayed service rename alone
      (scene.world.occurrences service (.adjust adjustment)) := by
  have more : scene.ledger.tallies.size ≤
      (adjustment.apply scene.now scene.router).balance.ledger.tallies.size :=
    (scene.world.moves_step (.adjust adjustment)).size_le
  -- Most adjustments concern one service, which is the given one or another.
  have single (here : adjustment.service? = some service) :
      (scene.step (.event (.adjust adjustment))).Replayed service rename alone
        [⟨scene.now, .adjust adjustment.undrawn, adjustment.findings scene.now scene.router⟩] := by
    obtain ⟨wider, grown, routers, found⟩ :=
      adjustment.alike_apply here proper alike.router scene.now
    exact .one _ _ _ ((alike.atTime _).withRouter grown more routers) found
  have elsewhere (away : adjustment.service? ≠ some service) (other : adjustment ≠ .aggregate)
      (noFilter : ∀ filter, adjustment ≠ .addFilter filter) :
      (scene.step (.event (.adjust adjustment))).Replayed service rename alone [] :=
    .none (alike.withRouter (.refl _ places) more
      (adjustment.alike_elsewhere away other noFilter proper alike.router scene.now))
  cases adjustment with
  | aggregate =>
    obtain ⟨wider, grown, routers⟩ := alike.router.aggregate scene.now
    exact .one _ .round _ ((alike.atTime _).withRouter grown more routers) rfl
  | addFilter filter =>
    have routers : ((Adjustment.addFilter filter).apply scene.now scene.router).Alike service rename
        places ((Adjustment.addFilter filter).apply scene.now alone.router) :=
      ⟨alike.router.cache, congrArg (· ++ [filter]) alike.router.filters, alike.router.strategy,
        alike.router.balance⟩
    exact .one _ _ _ ((alike.atTime _).withRouter (.refl _ places) more routers) rfl
  | _ =>
    simp only [World.occurrences, Adjustment.deeds]
    split
    · rename_i here
      exact single here
    · rename_i away
      exact elsewhere away (by simp) (by simp)

end Adjustments

end Scene

end CallRouting
