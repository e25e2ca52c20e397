import CallRouting.Proofs.AlikeAdjustments

/-!
# Scenes alike in a service

Beside a scene stands another one, in which there is nothing but the service: its tasks are
those on the service, in their order, and callers keep handles of the service alone. What
happens in the first scene for the service happens in the second one in the same way, and
whatever else happens there leaves the two alike.

The attempts of other tasks and the handles that callers keep for other services are
strangers. None of them stands in a place, so what is counted on them does not matter.
-/

namespace CallRouting

section Picked

variable {α : Type} (picked : α → Bool) (entries : List α) (place : Nat) (entry : α)

/-- What stands before the entry in a place, and after it. -/
theorem exists_beside (found : entries[place]? = some entry) :
    ∃ before after, entries = before ++ entry :: after ∧ before.length = place := by
  obtain ⟨inside, rfl⟩ := List.getElem?_eq_some_iff.mp found
  refine ⟨entries.take place, entries.drop (place + 1), ?_, ?_⟩
  · rw [List.getElem_cons_drop, List.take_append_drop]
  · rw [List.length_take, Nat.min_eq_left (Nat.le_of_lt inside)]

/-- Where the entry in a place stands among those that are picked. -/
theorem getElem?_filter_take (found : entries[place]? = some entry) (picks : picked entry = true) :
    (entries.filter picked)[((entries.take place).filter picked).length]? = some entry := by
  obtain ⟨before, after, rfl, rfl⟩ := exists_beside entries place entry found
  simp [picks]

/-- To change an entry that is picked changes it there. -/
theorem filter_set (found : entries[place]? = some entry) (other : α)
    (same : picked other = picked entry) :
    (entries.set place other).filter picked =
      if picked entry then
        (entries.filter picked).set ((entries.take place).filter picked).length other
      else entries.filter picked := by
  obtain ⟨before, after, rfl, rfl⟩ := exists_beside entries place entry found
  cases picks : picked entry <;> simp [picks, same]

/-- To drop an entry that is picked drops it there. -/
theorem filter_eraseIdx (found : entries[place]? = some entry) :
    (entries.eraseIdx place).filter picked =
      if picked entry then
        (entries.filter picked).eraseIdx ((entries.take place).filter picked).length
      else entries.filter picked := by
  obtain ⟨before, after, rfl, rfl⟩ := exists_beside entries place entry found
  cases picks : picked entry <;> simp [picks, List.eraseIdx_append]

end Picked

section Related

variable {α β : Type} {related : α → β → Prop} {entries : List α} {others : List β}

/-- Entries that are related one by one stay so when related ones are put into one place. -/
theorem forall₂_set (each : List.Forall₂ related entries others) (place : Nat) {entry : α}
    {other : β} (new : related entry other) :
    List.Forall₂ related (entries.set place entry) (others.set place other) := by
  rw [List.set_eq_take_append_cons_drop, List.set_eq_take_append_cons_drop, each.length_eq]
  split
  · exact List.rel_append (List.forall₂_take place each) (.cons new (List.forall₂_drop _ each))
  · exact each

/-- Entries that are related one by one stay so when those in one place are dropped. -/
theorem forall₂_eraseIdx (each : List.Forall₂ related entries others) (place : Nat) :
    List.Forall₂ related (entries.eraseIdx place) (others.eraseIdx place) := by
  rw [List.eraseIdx_eq_take_drop_succ, List.eraseIdx_eq_take_drop_succ]
  exact List.rel_append (List.forall₂_take place each) (List.forall₂_drop _ each)

/-- An entry in a place is related to the other one in that place. -/
theorem exists_of_forall₂ (each : List.Forall₂ related entries others) (place : Nat) {entry : α}
    (found : entries[place]? = some entry) :
    ∃ other, others[place]? = some other ∧ related entry other := by
  obtain ⟨inside, rfl⟩ := List.getElem?_eq_some_iff.mp found
  have beside : place < others.length := each.length_eq ▸ inside
  exact ⟨others[place], List.getElem?_eq_getElem beside, each.get inside beside⟩

end Related

variable {ω : Type} {service : String} {rename : Ticket → Ticket} {places : List Handle}

/-- An orderly task on a service waits in no other line. -/
theorem Task.service_of_lock (task : Task) (here : task.service? = some service)
    (orderly : task.Orderly service) (other : String) (waits : task.await? = some (.lock other)) :
    other = service := by
  -- Only a lookup waits for a lock, and it is that of its own service.
  have looked (lookup : Lookup) (own : lookup.service = service)
      (waits : lookup.await? = some (.lock other)) : other = service := by
    obtain ⟨name, phase⟩ := lookup
    cases phase <;> cases waits
    exact own
  have selected (selection : Selection) (own : selection.service = service)
      (ready : selection.Orderly) (waits : selection.await? = some (.lock other)) :
      other = service := by
    cases phase : selection.phase with
    | looking strategy lookup =>
      simp only [Selection.await?, phase] at waits
      exact looked lookup ((ready strategy lookup phase).1.trans own) waits
    | asked => simp [Selection.await?, phase] at waits
    | chosen result => simp [Selection.await?, phase] at waits
  cases task with
  | looking lookup => exact looked lookup (Option.some.inj here) waits
  | choosing selection => exact selected selection (Option.some.inj here) orderly.1 waits
  | invoking invocation =>
    cases phase : invocation.phase with
    | selecting selection =>
      simp only [await?, Invocation.await?, phase] at waits
      have serves := orderly.serves selection phase
      exact selected selection (serves.own.trans (Option.some.inj here)) serves.orderly waits
    | working attempt => simp [await?, Invocation.await?, phase] at waits
    | resting due => simp [await?, Invocation.await?, phase] at waits
    | done result => simp [await?, Invocation.await?, phase] at waits
  | _ => cases here

/-- Tasks that are alike show the same findings, for a running attempt shows its target and not
its handle. -/
theorem Task.Alike.findings {task alone : Task} (alike : task.Alike places alone) :
    (task.findings : List (Finding ω)) = alone.findings := by
  cases alike <;> rfl

namespace Scene

/-- The handles that belong to others: those of the attempts of other tasks, and those that
callers keep for other services. -/
inductive Stranger (service : String) (scene : Scene ω) : Handle → Prop
  | running (ticket : Ticket) (task : Task) (number : Nat) (attempt : Attempt)
      (member : (ticket, task) ∈ scene.world.tasks) (away : task.service? ≠ some service)
      (running : task.attempt? = some (number, attempt)) : Stranger service scene attempt.handle
  | kept (other name : String) (handle : Handle) (away : other ≠ service)
      (found : scene.kept.find? (other, name) = some handle) : Stranger service scene handle

/-- A scene that is alike to one of the service alone. -/
structure Alike (service : String) (rename : Ticket → Ticket) (places : List Handle)
    (scene alone : Scene ω) : Prop where
  router : scene.router.Alike service rename places alone.router
  tasks : List.Forall₂ (fun entry own => own.1 = rename entry.1 ∧ entry.2.Alike places own.2)
    (scene.world.tasksOn service) alone.world.tasks
  kept : ∀ name, Option.Rel (Placed places) (scene.kept.find? (service, name))
    (alone.kept.find? (service, name))
  strangers : ∀ handle, scene.Stranger service handle →
    handle < scene.ledger.tallies.size ∧ handle ∉ places

/-- The router is orderly, and so are the tasks and the jobs. -/
structure Orderly (service : String) (scene : Scene ω) : Prop where
  router : scene.router.Orderly
  tasks : ∀ entry ∈ scene.world.tasks, entry.2.Orderly service
  jobs : ∀ entry ∈ scene.world.client.jobs, entry.2.Reloads

/-- Who is a stranger was one before, if no other attempt begins and no handle is kept. -/
theorem Stranger.of_fewer {scene after : Scene ω} {handle : Handle}
    (stranger : after.Stranger service handle)
    (tasks : ∀ entry ∈ after.world.tasks, entry.2.service? ≠ some service →
      entry.2.attempt? ≠ none → entry ∈ scene.world.tasks)
    (kept : ∀ other name, other ≠ service →
      after.kept.find? (other, name) = scene.kept.find? (other, name)) :
    scene.Stranger service handle := by
  cases stranger with
  | running ticket task number attempt member away running =>
    exact .running ticket task number attempt
      (tasks _ member away (by simp [running])) away running
  | kept other name handle away found =>
    exact .kept other name handle away (kept other name away ▸ found)

namespace Alike

variable {scene alone : Scene ω}

/-- The time of the second scene does not matter. -/
theorem atTime (alike : scene.Alike service rename places alone) (now : Instant) :
    scene.Alike service rename places (alone.atTime now) :=
  ⟨alike.router, alike.tasks, alike.kept, alike.strangers⟩

/-- Strangers stay out of places that are added. -/
theorem strangers_wider (alike : scene.Alike service rename places alone) {wider : List Handle}
    (grown : scene.ledger.Widens places wider) {after : Scene ω}
    (more : scene.ledger.tallies.size ≤ after.ledger.tallies.size)
    (fewer : ∀ handle, after.Stranger service handle → scene.Stranger service handle)
    (handle : Handle) (stranger : after.Stranger service handle) :
    handle < after.ledger.tallies.size ∧ handle ∉ wider := by
  obtain ⟨there, absent⟩ := alike.strangers handle (fewer handle stranger)
  exact ⟨Nat.lt_of_lt_of_le there more, grown.notMem there absent⟩

/-- The tasks of the service stay alike when more places come in. -/
theorem tasks_wider (alike : scene.Alike service rename places alone) {wider : List Handle}
    (grown : scene.ledger.Widens places wider) :
    List.Forall₂ (fun entry own => own.1 = rename entry.1 ∧ entry.2.Alike wider own.2)
      (scene.world.tasksOn service) alone.world.tasks :=
  alike.tasks.imp fun _ _ same => ⟨same.1, same.2.mono grown.isPrefix⟩

/-- Scenes stay alike when both get routers that are alike. The places may grow with them, and
what the other tasks and callers keep is still none of the places. -/
theorem withRouter (alike : scene.Alike service rename places alone) {wider : List Handle}
    (grown : scene.ledger.Widens places wider) {router routerAlone : Router ω}
    (more : scene.ledger.tallies.size ≤ router.balance.ledger.tallies.size)
    (routers : router.Alike service rename wider routerAlone) :
    (scene.withRouter router).Alike service rename wider (alone.withRouter routerAlone) where
  router := routers
  tasks := alike.tasks_wider grown
  kept name := Placed.mono? grown.isPrefix (alike.kept name)
  strangers := by
    refine alike.strangers_wider grown more fun handle stranger => stranger.of_fewer ?_ ?_
    · exact fun entry member _ _ => member
    · exact fun other name _ => rfl

/-- Scenes that are alike still are so with other lists that are alike. -/
theorem withCache (alike : scene.Alike service rename places alone) {cache cacheAlone : Cache}
    (caches : cache.Alike service rename cacheAlone) :
    (scene.withCache cache).Alike service rename places (alone.withCache cacheAlone) :=
  alike.withRouter (.refl _ places) (Nat.le_refl _) (alike.router.withCache caches)

/-- The first scene changes elsewhere: new strangers are led to by books of other services. -/
theorem elsewhere (alike : scene.Alike service rename places alone) {after : Scene ω}
    (now : Instant) (leaves : scene.router.Leaves service after.router)
    (moves : Ledger.Moves now (· ≠ service) (· ∉ places) scene.ledger after.ledger)
    (tasks : after.world.tasksOn service = scene.world.tasksOn service)
    (kept : ∀ name, after.kept.find? (service, name) = scene.kept.find? (service, name))
    (strangers : ∀ handle, after.Stranger service handle → scene.Stranger service handle ∨
      ∃ other key, other ≠ service ∧ after.ledger.Leads other key handle) :
    after.Alike service rename places alone where
  router := alike.router.elsewhere leaves moves
  tasks := tasks ▸ alike.tasks
  kept name := kept name ▸ alike.kept name
  strangers handle stranger := by
    rcases strangers handle stranger with old | ⟨other, key, away, led⟩
    · obtain ⟨there, absent⟩ := alike.strangers handle old
      exact ⟨Nat.lt_of_lt_of_le there moves.size_le, absent⟩
    · exact (alike.router.elsewhere leaves moves).balance.ledger.apart other key handle away led

/-- Tasks that are not on the service, jobs and the time do not matter. -/
theorem of_same (alike : scene.Alike service rename places alone) {after : Scene ω}
    (router : after.router = scene.router)
    (tasks : after.world.tasksOn service = scene.world.tasksOn service)
    (kept : after.kept = scene.kept)
    (fewer : ∀ entry ∈ after.world.tasks, entry.2.attempt? ≠ none → entry ∈ scene.world.tasks) :
    after.Alike service rename places alone := by
  refine ⟨router ▸ alike.router, tasks ▸ alike.tasks, kept ▸ alike.kept, fun handle stranger => ?_⟩
  have ledger : after.ledger = scene.ledger := congrArg (·.balance.ledger) router
  rw [ledger]
  exact alike.strangers handle
    (stranger.of_fewer (fun entry among _ => fewer entry among) fun _ _ _ => by rw [kept])

end Alike

end Scene

end CallRouting
