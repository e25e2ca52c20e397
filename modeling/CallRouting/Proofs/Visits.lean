import CallRouting.Proofs.Replays

/-!
# Those who load all lists

A task or a job that loads all lists goes from one to the next. While it is at the list of a
given service it visits that, and the visits are replayed in the scene of the service alone;
while it is at other lists, and between two of them, nothing is done for the service.
-/

namespace CallRouting

variable {ω : Type} {service : String} {rename : Ticket → Ticket} {places : List Handle}
  [Weight ω]

namespace Scene

section Sweeps

variable {scene alone : Scene ω} (alike : scene.Alike service rename places alone)
include alike

omit [Weight ω] in
/-- A step that changes the cache at other services only leaves the scene alike to the one of the
service alone, which does not move. -/
theorem Alike.cache_elsewhere {cache : Cache} (leaves : scene.router.cache.Leaves service cache) :
    (scene.withCache cache).Alike service rename places alone := by
  have moves : Ledger.Moves scene.now (· ≠ service) (· ∉ places) scene.ledger
    (scene.withCache cache).ledger := .refl _
  exact alike.elsewhere scene.now (.withCache _ leaves) moves rfl (fun _ => rfl) fun _ stranger =>
    .inl (stranger.of_fewer (fun _ among _ _ => among) fun _ _ _ => rfl)

omit [Weight ω] in
/-- Whoever loads all lists and is at the list of the service goes on at it in both scenes alike,
and finds out the same. -/
theorem Alike.visit (injective : Function.Injective rename) (now : alone.now = scene.now)
    (phase : LookupPhase) (ticket : Ticket) (answer : Answer) :
    (scene.visit ⟨service, phase⟩ ticket answer).1.Alike service rename places
        (alone.visit ⟨service, phase⟩ (rename ticket) answer).1 ∧
      (alone.visit ⟨service, phase⟩ (rename ticket) answer).2 =
        (scene.visit ⟨service, phase⟩ ticket answer).2 := by
  -- Only a place in the line depends on the ticket, and the lines are alike.
  have lets : alone.world.lets ⟨service, phase⟩ (rename ticket) answer =
      scene.world.lets ⟨service, phase⟩ ticket answer := by
    have admits := alike.router.cache.admits injective ticket
    cases phase with
    | queued seen => exact congrArg (answer.fits _ && ·) admits
    | _ => rfl
  have before : scene.router.cache.Alike (Lookup.mk service phase).service rename
    alone.router.cache := alike.router.cache
  obtain ⟨caches, same⟩ := before.resume scene.now ticket answer
  unfold Scene.visit
  rw [lets, now]
  split
  · exact ⟨alike.withCache caches, congrArg Lookup.findings same⟩
  · exact ⟨alike, rfl⟩

/-- Whoever loads all lists goes on at one of them. If that is the list of the service, the scene
of the service alone replays it as a visit; if not, nothing is to be replayed. -/
theorem Alike.replayed_visit (injective : Function.Injective rename) (lookup : Lookup)
    (reloads : lookup.Reloads) (ticket : Ticket) (answer : Answer) :
    (scene.visit lookup ticket answer).1.Replayed service rename alone
      (if lookup.service = service ∧ lookup.await?.any (answer.fits ·) then
        [⟨scene.now, .visit ticket answer, (scene.visit lookup ticket answer).2⟩]
      else []) := by
  split
  · rename_i here
    obtain ⟨rfl, fits⟩ := here
    obtain ⟨alikeAfter, same⟩ :=
      (alike.atTime scene.now).visit injective rfl lookup.phase ticket answer
    refine .one _ (.visit ticket answer) _ (?_ : Alike _ _ places _ _) ?_
    · simp only [enact, Deed.renamed, reloads.visitPhase_eq answer fits]
      exact alikeAfter
    · simp only [enact, Deed.renamed, reloads.visitPhase_eq answer fits]
      exact same
  · rename_i away
    refine .none (?_ : Alike _ _ places _ _)
    unfold Scene.visit
    split
    · rename_i goes
      obtain ⟨await, waits, permitted⟩ := Option.any_eq_true _ _ |>.mp goes
      have fits : lookup.await?.any (answer.fits ·) = true :=
        Option.any_eq_true _ _ |>.mpr ⟨await, waits, (Bool.and_eq_true_iff.mp permitted).1⟩
      exact alike.cache_elsewhere (lookup.leaves_resume (fun here => away ⟨here, fits⟩) _ _ _ _)
    · exact alike

/-- Whoever loads all lists begins with the next one, which is the first part of a visit there.
Nothing is to be replayed if there is no further list. -/
theorem Alike.replayed_arrival (injective : Function.Injective rename) (ticket : Ticket)
    (services : List String) :
    (scene.withCache (Sweep.advance scene.router.cache scene.now ticket services).1).Replayed
      service rename alone (Sweep.arrival service scene.now ticket services) := by
  cases services with
  | nil => exact .none alike
  | cons first rest =>
    have visited :=
      alike.replayed_visit injective (.refresh first) (Lookup.reloads_refresh first) ticket .turn
    have quiet : scene.visit (.refresh first) ticket .turn =
        (scene.withCache
          (Sweep.advance scene.router.cache scene.now ticket (first :: rest)).1, []) := rfl
    -- A lookup that just begins waits for its turn, so the visit takes place.
    have waits : (Lookup.refresh first).await?.any (Answer.turn.fits ·) = true := rfl
    rw [quiet] at visited
    simp only [waits, and_true] at visited
    simp only [Sweep.arrival, List.head?_cons, Option.some.injEq]
    exact visited

/-- Whoever loads all lists gets an answer, at which they may go on or not.

A sweep that goes on with its current service visits it there, and arrives at the next one when
that visit is over. Both are replayed, but for the visits elsewhere. -/
theorem Alike.replayed_sweep (injective : Function.Injective rename) (sweep : Sweep)
    (reloads : sweep.Reloads) (ticket : Ticket) (answer : Answer) (permitted : Bool)
    (permits : ∀ await, sweep.await? = some await →
      permitted = scene.world.permits ticket await answer) :
    (if permitted then
        scene.withCache (sweep.resume scene.router.cache scene.now ticket answer).1
      else scene).Replayed service rename alone
      (sweep.occurrences service scene.world ticket answer permitted) := by
  cases sweep with
  | asked =>
    cases permitted with
    | false => exact .none alike
    | true =>
      have fits := permits .turn rfl
      cases answer with
      | turn => exact alike.replayed_arrival injective ticket _
      | _ => cases fits
  | done => cases permitted <;> exact .none alike
  | running current remaining =>
    have visited := alike.replayed_visit injective current reloads ticket answer
    have found : (scene.visit current ticket answer).2 =
        if scene.world.lets current ticket answer then
          (current.resume scene.router.cache scene.now ticket answer).2.findings
        else [] := by
      unfold Scene.visit
      split <;> rfl
    -- The visit needs what the whole sweep needs, so a sweep that may not go on has no visit
    -- either.
    have lets : scene.world.lets current ticket answer = true → permitted = true := by
      intro goes
      obtain ⟨await, waits, permitted⟩ := Option.any_eq_true _ _ |>.mp goes
      exact (permits await waits).trans permitted
    rw [found] at visited
    refine visited.append fun places next alikeNext => ?_
    cases permitted with
    | false =>
      -- Without permission the visit leaves everything as it is.
      have stays : (scene.visit current ticket answer).1 = scene := by
        unfold Scene.visit
        rw [if_neg fun goes => Bool.noConfusion (lets goes)]
      exact .none (stays ▸ alikeNext)
    | true =>
      have moved : (scene.visit current ticket answer).1 =
          scene.withCache (current.resume scene.router.cache scene.now ticket answer).1 := by
        obtain ⟨name, phase⟩ := current
        unfold Scene.visit
        cases phase with
        | answered instances => split <;> rfl
        | _ =>
          rw [if_pos]
          exact (permits _ rfl).symm
      rw [moved] at alikeNext
      -- The sweep turns to the next list once the current one is there.
      have onward := alikeNext.replayed_arrival injective ticket remaining
      simp only [Bool.true_and, if_true, Sweep.resume]
      simp only [Scene.router, Scene.now] at alikeNext onward ⊢
      generalize current.resume scene.world.client.router.cache scene.world.now ticket answer =
        after at alikeNext onward ⊢
      obtain ⟨cache, lookup⟩ := after
      cases lookup.result? with
      | none => exact .none alikeNext
      | some instances => exact onward

end Sweeps

section Jobs

variable {scene alone : Scene ω} (alike : scene.Alike service rename places alone)
include alike

/-- A caller who loads all lists gets an answer: the scene of the service alone replays what the
sweep of the caller does for the service, whether or not the caller is roused. -/
theorem Alike.replayed_answer_sweep (injective : Function.Injective rename) (place : Nat)
    (draw : Draw ω) (answer : Answer) (ticket : Ticket) (sweep : Sweep) (reloads : sweep.Reloads)
    (found : scene.world.tasks[place]? = some (ticket, .sweeping sweep)) :
    (scene.step (.event (.answer place draw answer))).Replayed service rename alone
      (sweep.occurrences service scene.world ticket answer
        (scene.world.roused? place answer).isSome) := by
  -- The caller is roused exactly when its sweep may go on with the answer.
  have permits (await : Await) (waits : sweep.await? = some await) :
      (scene.world.roused? place answer).isSome = scene.world.permits ticket await answer := by
    have waits : (Task.sweeping sweep).await? = some await := waits
    simp only [World.roused?, found, waits, Option.bind_eq_bind, Option.bind_some]
    split <;> simp [*]
  have replayed := alike.replayed_sweep injective sweep reloads ticket answer _ permits
  refine replayed.imp fun wider next alikeNext => ?_
  cases roused : scene.world.roused? place answer with
  | none =>
    rw [roused] at alikeNext
    rw [scene.step_answer_of_rests place draw answer roused]
    exact alikeNext
  | some entry =>
    obtain ⟨owner, same⟩ := entry
    obtain ⟨again, _⟩ := scene.world.roused?_eq_some place answer owner same roused
    obtain ⟨rfl, rfl⟩ := Prod.mk.inj (Option.some.inj (found.symm.trans again))
    rw [roused] at alikeNext
    refine alikeNext.of_same ?_ ?_ rfl ?_
    · simp only [step, World.step, roused, Scene.router]
      rfl
    · simp only [step, World.step, roused, World.tasksOn]
      exact filter_set _ _ _ _ found _ rfl
    · intro entry among running
      simp only [step, World.step, roused] at among
      rcases List.mem_or_eq_of_mem_set among with old | new
      · exact old
      · rw [new] at running
        exact absurd rfl running

/-- The job that loads all lists at intervals gets an answer: what it does for the service is
replayed, with the beginning of the next sweep at its time. -/
theorem Alike.replayed_refreshing (injective : Function.Injective rename) (ticket : Ticket)
    (draw : Draw ω) (answer : Answer) (interval : Duration) (due : Option Instant) (sweep : Sweep)
    (reloads : sweep.Reloads) :
    let job := Job.refreshing interval due sweep
    (if scene.world.permits ticket job.await answer then
        scene.withRouter (job.resume scene.router (scene.world.moment ticket draw) answer).1
      else scene).Replayed service rename alone
      (job.occurrences service scene.world ticket answer) := by
  intro job
  cases due with
  | none =>
    -- A job before its first turn only notes when to begin.
    have stays : (job.resume scene.router (scene.world.moment ticket draw) answer).1 =
        scene.router := by
      cases answer <;> rfl
    rw [stays]
    split <;> exact .none alike
  | some due =>
    have goes (permits : ∀ await, sweep.await? = some await → job.await = await) :=
      alike.replayed_sweep injective sweep reloads ticket answer
        (scene.world.permits ticket job.await answer) fun await waits => by rw [permits await waits]
    cases sweep with
    | asked => exact goes fun await waits => Option.some.inj waits
    | running current remaining =>
      exact goes fun await waits => by simp only [job, Job.await, waits, Option.getD_some]
    | done =>
      simp only [Job.occurrences]
      cases permitted : scene.world.permits ticket job.await answer with
      | false => exact .none alike
      | true =>
        cases answer with
        | time => exact alike.replayed_arrival injective ticket _
        | _ => cases permitted

/-- A background job may go on.

A round weighs all services in one go, so it is replayed as a round. A job that loads lists
goes on like any sweep, and begins a new one at its time. -/
theorem Alike.replayed_work (injective : Function.Injective rename) (ticket : Ticket)
    (draw : Draw ω) (answer : Answer) (job : Job) (reloads : job.Reloads)
    (found : scene.world.client.jobs.lookup ticket = some job) :
    (scene.step (.event (.work ticket draw answer))).Replayed service rename alone
      (job.occurrences service scene.world ticket answer) := by
  have resumed : (if scene.world.permits ticket job.await answer then
        scene.withRouter (job.resume scene.router (scene.world.moment ticket draw) answer).1
      else scene).Replayed service rename alone
      (job.occurrences service scene.world ticket answer) := by
    cases job with
    | aggregating interval due =>
      unfold Job.occurrences
      dsimp only
      cases permitted :
          scene.world.permits ticket (Job.aggregating interval due).await answer with
      | false => exact .none alike
      | true =>
        -- Whether the job waits for its turn or for its time, what it does is one round.
        have round : ((Job.aggregating interval due).resume scene.router
            (scene.world.moment ticket draw) answer).1 = (scene.router.aggregate scene.now).1 := by
          cases due <;> cases answer <;> first
            | rfl
            | cases permitted
        have moves : Ledger.Moves scene.now (fun _ => True) (fun _ => True) scene.ledger
            (scene.router.aggregate scene.now).1.balance.ledger :=
          scene.router.moves_aggregate scene.now fun _ _ => trivial
        obtain ⟨wider, grown, routers⟩ := alike.router.aggregate scene.now
        rw [if_pos rfl, if_pos rfl, round]
        exact .one _ .round _ ((alike.atTime _).withRouter grown moves.size_le routers) rfl
    | refreshing interval due sweep =>
      exact alike.replayed_refreshing injective ticket draw answer interval due sweep reloads
  refine resumed.imp fun wider next alikeNext => ?_
  simp only [step, World.step, found]
  split
  · rename_i permitted
    rw [if_pos permitted] at alikeNext
    refine alikeNext.of_same ?_ rfl rfl fun _ among _ => among
    simp only [Scene.router, Client.resumeJob, World.moment, found]
    rfl
  · rename_i refused
    rw [if_neg refused] at alikeNext
    exact alikeNext

/-- Whoever loads all lists goes away in the middle: a place in the line for the load of the
service is given up in both scenes, and anything else concerns the cache elsewhere, or nothing. -/
theorem Alike.replayed_withdraw (injective : Function.Injective rename) (sweep : Sweep)
    (ticket : Ticket) :
    (scene.withCache (sweep.abandon scene.router.cache ticket)).Replayed service rename alone
      (sweep.withdrawals service scene.now ticket) := by
  cases sweep with
  | running current remaining =>
    -- At the list of the service, both sweeps give up the same place in the line.
    have caches (here : current.service = service) :
        (current.abandon scene.router.cache ticket).Alike service rename
          (current.abandon alone.router.cache (rename ticket)) := by
      subst here
      exact alike.router.cache.abandon injective ticket
    simp only [Sweep.withdrawals]
    split
    · rename_i here
      have left : current.abandon alone.router.cache (rename ticket) =
          alone.router.cache.leave (rename ticket) service := by
        obtain ⟨name, phase⟩ := current
        obtain ⟨rfl, inLine⟩ := here
        cases phase <;> first
          | rfl
          | cases inLine
      exact .one _ (.withdraw ticket) _ ((alike.atTime _).withCache (left ▸ caches here.1)) rfl
    · rename_i away
      by_cases here : current.service = service
      · have rests : current.abandon scene.router.cache ticket = scene.router.cache := by
          obtain ⟨name, phase⟩ := current
          cases phase <;> first
            | rfl
            | exact absurd ⟨here, rfl⟩ away
        exact .none (rests.symm ▸ alike.withCache alike.router.cache)
      · exact .none (alike.cache_elsewhere (current.leaves_abandon here _ ticket))
  | asked => exact .none alike
  | done => exact .none alike

/-- Jobs that were stopped are let go one after the other, and what each of them gives up is
replayed in that order. -/
theorem Alike.replayed_withdrawals (injective : Function.Injective rename)
    (stopped : List (Ticket × Job)) :
    (scene.withCache (stopped.foldl (fun cache entry => entry.2.abandon cache entry.1)
        scene.router.cache)).Replayed service rename alone
      (stopped.flatMap fun entry => entry.2.withdrawals service scene.now entry.1) := by
  induction stopped generalizing scene alone places with
  | nil => exact .none alike
  | cons entry rest inductionHypothesis =>
    obtain ⟨ticket, job⟩ := entry
    have first : (scene.withCache (job.abandon scene.router.cache ticket)).Replayed service rename
        alone (job.withdrawals service scene.now ticket) := by
      cases job with
      | aggregating interval due => exact .none alike
      | refreshing interval due sweep => exact alike.replayed_withdraw injective sweep ticket
    exact first.append fun _ _ alikeNext => inductionHypothesis alikeNext

/-- A caller who loads all lists is dropped, and what its sweep gives up is replayed. -/
theorem Alike.replayed_leave_sweep (injective : Function.Injective rename) (place : Nat)
    (ticket : Ticket) (sweep : Sweep)
    (found : scene.world.tasks[place]? = some (ticket, .sweeping sweep)) :
    (scene.step (.event (.leave place))).Replayed service rename alone
      (sweep.withdrawals service scene.now ticket) := by
  refine (alike.replayed_withdraw injective sweep ticket).imp fun wider next alikeNext => ?_
  refine alikeNext.of_same ?_ ?_ rfl ?_
  · simp only [step, World.step, found, Scene.router]
    rfl
  · simp only [step, World.step, found, World.tasksOn]
    exact filter_eraseIdx _ _ _ _ found
  · intro entry among _
    simp only [step, World.step, found] at among
    exact List.mem_of_mem_eraseIdx among

end Jobs

end Scene

end CallRouting
