import CallRouting.Proofs.Gets
import CallRouting.Proofs.Orderly

/-!
# Lists that are kept fresh

A job that loads all lists anew after every interval goes from one service to the next. While it
does so others come for lists, old ones and new ones, and load some themselves. If the directory
answers before time passes and never fails, the job is through with its round when time goes on,
and then no list is more than one interval older than the next round. So whoever comes for a
list that is at hand finds one that is at most one interval old. If the interval is no longer than
the time to live, that list is fresh, also at the very instant of a round, and nobody has to ask
the directory for it.
-/

namespace CallRouting

/-- When the next round of a job is due; nothing before its first turn. -/
def Job.due? : Job → Option Instant
  | .aggregating _ due => due
  | .refreshing _ due _ => due

/-- A lookup that loads in any case and waits either goes on waiting, and leaves all lists, or it
has loaded the list of its service just now.

It never takes a list that somebody else has loaded, so it has one only from the directory; that
is given without a fault here. -/
theorem Lookup.Reloads.waits_or_loads {lookup : Lookup} (reloads : lookup.Reloads)
    (waits : lookup.phase.inLine = true) (cache : Cache) (now : Instant) (ticket : Ticket)
    (answer : Answer) (succeeds : ∀ fault, answer ≠ .listing (.error fault)) :
    ((lookup.resume cache now ticket answer).2.result? = none ∧
        (lookup.resume cache now ticket answer).2.phase.inLine = true ∧
        ∀ service, (lookup.resume cache now ticket answer).1.peek service = cache.peek service) ∨
      ∃ instances, (lookup.resume cache now ticket answer).2.result? = some instances ∧
        ∀ service, (lookup.resume cache now ticket answer).1.peek service =
          if lookup.service = service then some ⟨instances, now⟩ else cache.peek service := by
  obtain ⟨own, phase⟩ := lookup
  cases phase with
  | asked reload => cases waits
  | queued seen =>
    cases seen with
    | some count => exact absurd rfl (reloads.2 count)
    | none => cases answer <;> exact .inl ⟨rfl, rfl, fun _ => rfl⟩
  | loading =>
    cases answer with
    | listing listing =>
      cases listing with
      | error fault => exact absurd rfl (succeeds fault)
      | ok instances =>
        refine .inr ⟨instances, ?_, fun service => cache.peek_complete_ok now own service instances⟩
        simp [resume, Cache.complete, result?, CacheSlot.instances]
    | _ => exact .inl ⟨rfl, rfl, fun _ => rfl⟩
  | answered instances => cases waits

/-- The job that loads all lists anew, and how it stands with the list of a service. Before its
first turn no time has passed since the list came. Between two rounds the list is at most one
interval older than the next one, and so it is within a round, or the job is still on its way to
the service. -/
inductive Job.KeepsFresh (interval : Duration) (service : String) (now : Instant) (cache : Cache) :
    Job → Prop
  | begins
      (lists : ∀ cached, cache.peek service = some cached → now ≤ cached.loadedAt) :
      KeepsFresh interval service now cache (.refreshing interval none .done)
  | between (due : Instant) (late : now ≤ due) (early : due ≤ now + interval.nanos)
      (lists : ∀ cached, cache.peek service = some cached →
        due ≤ cached.loadedAt + interval.nanos) :
      KeepsFresh interval service now cache (.refreshing interval (some due) .done)
  | within (due : Instant) (current : Lookup) (remaining : List String)
      (late : now ≤ due) (early : due ≤ now + interval.nanos)
      (reloads : current.Reloads) (waits : current.phase.inLine = true)
      (lists : ∀ cached, cache.peek service = some cached →
        now ≤ cached.loadedAt + interval.nanos ∧
          (due ≤ cached.loadedAt + interval.nanos ∨ service ∈ current.service :: remaining)) :
      KeepsFresh interval service now cache
        (.refreshing interval (some due) (.running current remaining))

namespace Job.KeepsFresh

variable {interval : Duration} {service : String} {now : Instant} {cache : Cache} {job : Job}

/-- While a job keeps a list fresh, the list is never older than one interval. -/
theorem loaded_lately (keeps : job.KeepsFresh interval service now cache) (cached : CachedList)
    (there : cache.peek service = some cached) : now ≤ cached.loadedAt + interval.nanos := by
  cases keeps with
  | begins lists => exact Nat.le_trans (lists cached there) (Nat.le_add_right _ _)
  | between due late early lists => exact Nat.le_trans late (lists cached there)
  | within due current remaining late early reloads waits lists => exact (lists cached there).1

/-- What others do keeps the list of the service fresh, if they leave it or put one in its place
that comes now: a list that comes now lasts beyond the next round. -/
theorem of_peek (keeps : job.KeepsFresh interval service now cache) {after : Cache}
    (left : after.peek service = cache.peek service ∨
      ∃ cached, cached.loadedAt = now ∧ after.peek service = some cached) :
    job.KeepsFresh interval service now after := by
  have either (cached : CachedList) (there : after.peek service = some cached) :
      cache.peek service = some cached ∨ cached.loadedAt = now := by
    rcases left with same | ⟨other, came, found⟩
    · exact .inl (same ▸ there)
    · obtain rfl := Option.some.inj (found.symm.trans there)
      exact .inr came
  cases keeps with
  | begins lists =>
    refine .begins fun cached there => ?_
    rcases either cached there with known | came
    · exact lists cached known
    · exact Nat.le_of_eq came.symm
  | between due late early lists =>
    refine .between due late early fun cached there => ?_
    rcases either cached there with known | came
    · exact lists cached known
    · rw [came]
      exact early
  | within due current remaining late early reloads waits lists =>
    refine .within due current remaining late early reloads waits fun cached there => ?_
    rcases either cached there with known | came
    · exact lists cached known
    · rw [came]
      exact ⟨Nat.le_add_right _ _, .inl early⟩

/-- Time passes between two rounds, and not beyond the next one. -/
theorem pass (keeps : job.KeepsFresh interval service now cache) (span : Nat)
    (free : ∀ lookup, job.lookup? = some lookup → lookup.phase.inLine = false) (due : Instant)
    (next : job.due? = some due) (before : now + span ≤ due) :
    job.KeepsFresh interval service (now + span) cache := by
  cases keeps with
  | begins lists => cases next
  | between due late early lists =>
    cases next
    refine .between due before (Nat.le_trans early ?_) lists
    exact Nat.add_le_add_right (Nat.le_add_right now span) _
  | within due current remaining late early reloads waits lists =>
    rw [free current rfl] at waits
    cases waits

/-- The job goes over to the next service, if there is one; if not, its round is over.

What is left to load is no more than before, and nothing has changed in the lists yet. -/
theorem advance (due : Instant) (late : now ≤ due) (early : due ≤ now + interval.nanos)
    (ticket : Ticket) (services : List String)
    (lists : ∀ cached, cache.peek service = some cached →
      now ≤ cached.loadedAt + interval.nanos ∧
        (due ≤ cached.loadedAt + interval.nanos ∨ service ∈ services)) :
    (Job.refreshing interval (some due) (Sweep.advance cache now ticket services).2).KeepsFresh
      interval service now (Sweep.advance cache now ticket services).1 := by
  cases services with
  | nil =>
    refine .between due late early fun cached there => ?_
    exact (lists cached there).2.resolve_right List.not_mem_nil
  | cons first remaining =>
    have begun := (Lookup.refresh first).reloads_resume cache now ticket .turn
      (Lookup.reloads_refresh first)
    refine .within due _ remaining late early begun rfl fun cached there => ?_
    exact lists cached ((cache.peek_come now ticket first service true).symm.trans there)

/-- The job that loads all lists goes on at an answer, and still keeps the list of the service
fresh.

Between its rounds, the list is not older than the interval when the next round is due. In a round
that holds of the round after it, unless the service is still to be loaded; and when it has been
loaded, its list is new. -/
theorem resume {ω : Type} [Weight ω] {router : Router ω} {moment : Moment ω}
    (keeps : job.KeepsFresh interval service moment.now router.cache) (answer : Answer)
    (timely : ∀ due, job.await = .time due → answer = .time → due ≤ moment.now)
    (succeeds : ∀ fault, answer ≠ .listing (.error fault)) :
    (job.resume router moment answer).2.KeepsFresh interval service moment.now
      (job.resume router moment answer).1.cache := by
  cases keeps with
  | begins lists =>
    cases answer with
    | turn =>
      refine .between _ (Nat.le_add_right _ _) (Nat.le_refl _) fun cached there => ?_
      exact Nat.add_le_add_right (lists cached there) _
    | _ => exact .begins lists
  | between due late early lists =>
    cases answer with
    | time =>
      have now : due = moment.now := Nat.le_antisymm (timely due rfl rfl) late
      refine advance (due + interval.nanos) (Nat.le_trans late (Nat.le_add_right _ _)) ?_
        moment.ticket router.cache.services fun cached there => ⟨?_, .inr ?_⟩
      · exact Nat.add_le_add_right (Nat.le_of_eq now) _
      · exact Nat.le_trans late (lists cached there)
      · -- A service with a list is known.
        cases found : router.cache.slots.find? service with
        | some slot => exact router.cache.slots.mem_keys_of_find? service slot found
        | none =>
          rw [Cache.peek, Cache.slot, found] at there
          cases there
    | _ => exact .between due late early lists
  | within due current remaining late early reloads waits lists =>
    have next := reloads.waits_or_loads waits router.cache moment.now moment.ticket answer succeeds
    have further := current.reloads_resume router.cache moment.now moment.ticket answer reloads
    have own := current.service_resume router.cache moment.now moment.ticket answer
    simp only [Job.resume, Sweep.resume]
    rcases next with ⟨open', inLine, left⟩ | ⟨instances, got, left⟩
    · rw [open']
      refine .within due _ remaining late early further inLine fun cached there => ?_
      rw [own]
      exact lists cached ((left service).symm.trans there)
    · rw [got]
      refine advance due late early moment.ticket remaining fun cached there => ?_
      have found := (left service).symm.trans there
      by_cases here : current.service = service
      · rw [if_pos here] at found
        obtain rfl := Option.some.inj found
        exact ⟨Nat.le_add_right _ _, .inl early⟩
      · rw [if_neg here] at found
        obtain ⟨lately, rounds⟩ := lists cached found
        refine ⟨lately, rounds.imp_right fun among => ?_⟩
        exact (List.mem_cons.mp among).resolve_left (Ne.symm here)

end Job.KeepsFresh

/-- To replace the job with a ticket leaves those with other tickets. -/
theorem lookup_replaced (jobs : List (Ticket × Job)) (ticket other : Ticket) (next : Job) :
    (jobs.map fun entry => if entry.1 = ticket then (entry.1, next) else entry).lookup other =
      if other = ticket then (jobs.lookup other).map fun _ => next else jobs.lookup other := by
  induction jobs with
  | nil => simp
  | cons entry rest inductionHypothesis =>
    obtain ⟨owner, job⟩ := entry
    have first : (if owner = ticket then (owner, next) else (owner, job)) =
        (owner, if owner = ticket then next else job) := by
      split <;> rfl
    rw [List.map_cons, first, List.lookup_cons, List.lookup_cons, inductionHypothesis]
    by_cases here : other = owner
    · subst here
      simp only [beq_self_eq_true, Option.map_some]
      split <;> rfl
    · have elsewhere : (other == owner) = false := beq_false_of_ne here
      simp only [elsewhere]

/-- A job that goes on is found under its ticket as it has gone on. -/
theorem Client.resumeJob_own {ω : Type} [Weight ω] (client : Client ω) (moment : Moment ω)
    (answer : Answer) (job : Job) (found : client.jobs.lookup moment.ticket = some job) :
    (client.resumeJob moment answer).router = (job.resume client.router moment answer).1 ∧
      (client.resumeJob moment answer).jobs.lookup moment.ticket =
        some (job.resume client.router moment answer).2 := by
  simp only [resumeJob, found, lookup_replaced, if_true, Option.map_some]
  exact ⟨trivial, trivial⟩

/-- When a job goes on, all others are found as they were. -/
theorem Client.lookup_resumeJob_of_ne {ω : Type} [Weight ω] (client : Client ω)
    (moment : Moment ω) (answer : Answer) (ticket : Ticket) (differs : ticket ≠ moment.ticket) :
    (client.resumeJob moment answer).jobs.lookup ticket = client.jobs.lookup ticket := by
  unfold resumeJob
  split
  · rfl
  · exact (lookup_replaced _ _ _ _).trans (if_neg differs)

namespace World

variable {ω : Type} [Weight ω]

/-- A job that goes on running stays as it is until it is its own turn.

Jobs are found by their tickets. Another job that goes on is put back under its own ticket, and
a start that finds jobs running leaves them. -/
theorem lookup_jobs_step (world : World ω) (event : Event ω) (ticket : Ticket) (job : Job)
    (found : world.client.jobs.lookup ticket = some job)
    (others : ∀ draw answer, event ≠ .work ticket draw answer)
    (runs : ((world.step event).client.jobs.lookup ticket).isSome = true) :
    (world.step event).client.jobs.lookup ticket = some job := by
  cases event with
  | answer place draw answer =>
    simp only [step] at runs ⊢
    split
    · exact found
    · rename_i owner task roused
      simp only [roused] at runs
      rcases task.jobs_resume world.client (world.moment owner draw) answer with
        ⟨same, -, -⟩ | starts | stops
      · rw [same]
        exact found
      · dsimp only
        rw [starts, Client.startJobs, if_neg]
        · exact found
        · intro none
          rw [List.isEmpty_iff.mp none] at found
          cases found
      · rw [stops] at runs
        cases runs
  | leave place =>
    simp only [step]
    split <;> exact found
  | work other draw answer =>
    have differs : ticket ≠ other := by
      rintro rfl
      exact others draw answer rfl
    simp only [step]
    split
    · exact found
    · split
      · exact (world.client.lookup_resumeJob_of_ne _ answer ticket differs).trans found
      · exact found
  | _ => exact found

/-- The job goes on running, and time passes only in a world at rest and not beyond the job's next
round. -/
structure OnSchedule (ticket : Ticket) (world : World ω) (event : Event ω) : Prop where
  runs : ((world.step event).client.jobs.lookup ticket).isSome = true
  prompt : ∀ span, event = .pass span → world.AtRest ∧ ∃ job due,
    world.client.jobs.lookup ticket = some job ∧ job.due? = some due ∧ world.now + span ≤ due

/-- A world in which a job keeps the list of a service fresh. -/
def KeepsFresh (ticket : Ticket) (interval : Duration) (service : String) (world : World ω) :
    Prop :=
  ∃ job, world.client.jobs.lookup ticket = some job ∧
    job.KeepsFresh interval service world.now world.client.router.cache

namespace KeepsFresh

variable {ticket : Ticket} {interval : Duration} {service : String} {world : World ω}

/-- At its own turn the job keeps the list of the service fresh, whether it may go on or not. -/
theorem work (keeps : world.KeepsFresh ticket interval service) (draw : Draw ω) (answer : Answer)
    (succeeds : ∀ fault, answer ≠ .listing (.error fault)) :
    (world.step (.work ticket draw answer)).KeepsFresh ticket interval service := by
  obtain ⟨job, found, keeps⟩ := keeps
  by_cases permitted : world.permits ticket job.await answer = true
  · have now : (world.moment ticket draw).now = world.now := rfl
    -- The time for a round is not over before it has come.
    have timely (due : Instant) (waits : job.await = .time due) (time : answer = .time) :
        due ≤ world.now := by
      subst time
      simpa [permits, waits, Answer.fits] using permitted
    rw [← now] at keeps timely
    have resumed := keeps.resume answer timely succeeds
    have went : world.step (.work ticket draw answer) =
        { world with client := world.client.resumeJob (world.moment ticket draw) answer } := by
      simp only [World.step, found, permitted, if_true]
    obtain ⟨router, next⟩ :=
      world.client.resumeJob_own (world.moment ticket draw) answer job found
    rw [went]
    refine ⟨_, next, ?_⟩
    rw [router]
    exact resumed
  · have stayed : world.step (.work ticket draw answer) = world := by
      simp only [World.step, found, permitted]
      rfl
    rw [stayed]
    exact ⟨job, found, keeps⟩

/-- At each event that is quiet and on schedule the job keeps the list of the service fresh. -/
theorem step (keeps : world.KeepsFresh ticket interval service) (linesUp : world.LinesUp)
    (event : Event ω) (quiet : event.Quiet service) (onSchedule : world.OnSchedule ticket event) :
    (world.step event).KeepsFresh ticket interval service := by
  obtain ⟨job, found, keeps⟩ := keeps
  have left : (world.step event).client.router.cache.peek service =
      world.client.router.cache.peek service ∨ ∃ cached, cached.loadedAt = world.now ∧
        (world.step event).client.router.cache.peek service = some cached := by
    refine ((linesUp.cacheMoves event).peek service quiet.kept).imp_right ?_
    rintro ⟨cached, gained, there⟩
    exact ⟨cached, world.loadedAt_of_mem_given event service cached gained, there⟩
  -- All but the passing of time and the job's own turn leave the job and the time as they are.
  have others (elsewhere : ∀ draw answer, event ≠ .work ticket draw answer)
      (same : (world.step event).now = world.now) :
      (world.step event).KeepsFresh ticket interval service := by
    refine ⟨job, world.lookup_jobs_step event ticket job found elsewhere onSchedule.runs, ?_⟩
    rw [same]
    exact keeps.of_peek left
  cases event with
  | pass span =>
    obtain ⟨rest, running, due, same, next, before⟩ := onSchedule.prompt span rfl
    obtain rfl := Option.some.inj (same.symm.trans found)
    refine ⟨running, found, keeps.pass span ?_ due next before⟩
    intro lookup about
    refine linesUp.free_of_atRest rest ticket lookup (List.mem_append_right _ ?_)
    exact List.mem_map.mpr ⟨(ticket, running), List.mem_append_left _ (mem_of_lookup found),
      Prod.ext rfl about⟩
  | work owner draw answer =>
    by_cases own : owner = ticket
    · subst own
      refine work ⟨job, found, keeps⟩ draw answer fun fault same => ?_
      exact quiet.succeeds fault (congrArg some same)
    · refine others (fun _ _ same => ?_) ?_
      · cases same
        exact own rfl
      · simp only [World.step]
        split
        · rfl
        · split <;> rfl
  | answer place draw answer =>
    refine others (by rintro _ _ ⟨⟩) ?_
    simp only [World.step]
    split <;> rfl
  | leave place =>
    refine others (by rintro _ _ ⟨⟩) ?_
    simp only [World.step]
    split <;> rfl
  | request request => exact others (by rintro _ _ ⟨⟩) rfl
  | dismiss => exact others (by rintro _ _ ⟨⟩) rfl
  | adjust adjustment => exact others (by rintro _ _ ⟨⟩) rfl

/-- A run keeps the list fresh, whatever happens in it, as long as the job keeps to its
schedule. -/
theorem run (keeps : world.KeepsFresh ticket interval service) (linesUp : world.LinesUp)
    (events : List (Event ω)) (quiet : ∀ event ∈ events, event.Quiet service)
    (onSchedule : world.Throughout (OnSchedule ticket) events) :
    (world.run events).KeepsFresh ticket interval service := by
  induction events generalizing world with
  | nil => exact keeps
  | cons event rest inductionHypothesis =>
    obtain ⟨now, further⟩ := onSchedule
    have next := keeps.step linesUp event (quiet event List.mem_cons_self) now
    exact inductionHypothesis next (linesUp.step event)
      (fun other member => quiet other (List.mem_cons_of_mem _ member)) further

end KeepsFresh

/-- A world in which a job is about to begin. If a list of the service is at hand, it has come at
this very time. -/
structure Begins (ticket : Ticket) (interval : Duration) (service : String) (world : World ω) :
    Prop where
  started : world.client.jobs.lookup ticket = some (.refreshing interval none .done)
  lists : ∀ cached, world.client.router.cache.peek service = some cached →
    world.now ≤ cached.loadedAt

/-- How a world serves those who come for a list that is at hand: whoever comes has it at once,
and nobody asks the directory. -/
structure Serves (service : String) (cached : CachedList) (world : World ω) : Prop where
  /-- A task that wants the list itself. -/
  looking : ∀ place draw ticket,
    world.tasks[place]? = some (ticket, .looking (.get service)) →
    (world.step (.answer place draw .turn)).tasks[place]? =
        some (ticket, .looking ⟨service, .answered cached.instances⟩) ∧
      world.given (.answer place draw .turn) = []
  /-- A selection that begins, for any attempt and whatever the statistics say by then. -/
  selecting : ∀ (selection : Selection) (met : Encounter ω),
    selection.phase = .asked → selection.service = service →
    met.router.cache = world.client.router.cache → met.moment.now = world.now →
    met.answer = .turn →
    selection.listed? met = some cached.instances ∧
      (selection.resume met.router met.moment met.answer).2.await? = none
  /-- A task whose selection begins when it goes on. -/
  beginning : ∀ place draw answer ticket task,
    world.roused? place answer = some (ticket, task) →
    ∀ selection met,
      task.selecting? ⟨world.client.router, world.moment ticket draw, answer⟩ =
        some (selection, met) →
      selection.phase = .asked → selection.service = service →
      selection.listed? met = some cached.instances ∧
        world.given (.answer place draw answer) = []

/-- A selection that begins when its task goes on meets the lists as they are, at this time and
in its turn, and the task has been about no lookup. -/
theorem meets_of_asked (world : World ω) (place : Nat) (draw : Draw ω) (answer : Answer)
    (ticket : Ticket) (task : Task) (roused : world.roused? place answer = some (ticket, task))
    (selection : Selection) (met : Encounter ω)
    (selecting : task.selecting? ⟨world.client.router, world.moment ticket draw, answer⟩ =
      some (selection, met))
    (begins : selection.phase = .asked) :
    met.router.cache = world.client.router.cache ∧ met.moment.now = world.now ∧
      met.answer = .turn ∧ task.lookup? = none := by
  obtain ⟨-, await, waits, fits, -⟩ := world.roused?_eq_some place answer ticket task roused
  have turn (waiting : task.await? = some .turn) : answer = .turn := by
    obtain rfl := Option.some.inj (waits.symm.trans waiting)
    cases answer <;> first
      | rfl
      | cases fits
  cases task with
  | choosing current =>
    cases selecting
    have free : selection.lookup? = none := by rw [Selection.lookup?, begins]
    exact ⟨rfl, rfl, turn (by simp only [Task.await?, Selection.await?, begins]), free⟩
  | invoking invocation =>
    obtain ⟨cache, -⟩ := invocation.cache_resume_of_selecting? _ selection met selecting
    rcases invocation.selecting?_eq _ selection met selecting with
      ⟨phase, rfl⟩ | ⟨further, -, -, -, moment, later⟩
    · refine ⟨rfl, rfl, turn ?_, ?_⟩
      · simp only [Task.await?, Invocation.await?, phase, Selection.await?, begins]
      · simp only [Task.lookup?, Invocation.lookup?, phase, Selection.lookup?, begins]
    · refine ⟨cache, congrArg Moment.now moment, later, ?_⟩
      obtain ⟨service, policy, ended, failed, phase⟩ := invocation
      cases phase with
      | selecting current =>
        -- A selection that was under way goes on itself.
        cases selecting
        simp only [Task.lookup?, Invocation.lookup?, Selection.lookup?, begins]
      | _ => rfl
  | _ => cases selecting

/-- A fresh list serves all.

Whoever asks first looks whether the list at hand is fresh, which it is, so none of them asks
the directory. -/
theorem serves_of_fresh (world : World ω) (service : String) (cached : CachedList)
    (fresh : (world.client.router.cache.slot service).fresh? world.client.router.cache.ttl
      world.now = some cached) : world.Serves service cached := by
  have selects (selection : Selection) (met : Encounter ω) (begins : selection.phase = .asked)
      (here : selection.service = service)
      (same : met.router.cache = world.client.router.cache) (now : met.moment.now = world.now)
      (turn : met.answer = .turn) :
      selection.listed? met = some cached.instances ∧
        (selection.resume met.router met.moment met.answer).2.await? = none := by
    obtain ⟨router, moment, answer⟩ := met
    subst here turn
    refine selection.listed_of_fresh begins router moment cached ?_
    rwa [same, now]
  refine ⟨?_, selects, ?_⟩
  · intro place draw ticket found
    have roused : world.roused? place .turn = some (ticket, .looking (.get service)) := by
      simp [roused?, found, Task.await?, Lookup.await?, Lookup.get, permits, Answer.fits]
    have come : ((Lookup.get service).resume world.client.router.cache world.now ticket .turn).2 =
        ⟨service, .answered cached.instances⟩ := by
      simp only [Lookup.resume, Lookup.get, Cache.come, fresh, Bool.false_eq_true, if_false]
    obtain ⟨inside, -⟩ := List.getElem?_eq_some_iff.mp found
    constructor
    · simp only [step, roused, Task.resume, moment, come]
      exact List.getElem?_set_self inside
    · simp only [given, roused]
      rfl
  · intro place draw answer ticket task roused selection met selecting begins here
    obtain ⟨same, now, turn, free⟩ :=
      world.meets_of_asked place draw answer ticket task roused selection met selecting begins
    refine ⟨(selects selection met begins here same now turn).1, ?_⟩
    simp only [given, roused, free]
    rfl

/-- While a job loads all lists anew after every interval, whoever comes for a list of a service
after somebody has got one, or one is at hand, has at once a list that the directory gave for the
service at most one interval earlier. It does not matter who has got the first one, whether for
itself or for a choice or an attempt, nor how long ago, nor what else is looked up meanwhile.
This holds for every interval up to the time to live, if the directory never fails and answers
before time passes, if the list is not forgotten, and if no round comes late.

The list stays at hand from the first get on, and the job keeps it younger than one interval at
every event; so it is fresh whenever somebody comes. -/
theorem refreshed_lists_stay_fresh (client : Client ω) (ttl interval : Duration)
    (untouched : client.Untouched ttl) (within : interval.nanos ≤ ttl.nanos) (start : Instant)
    (service : String) (before events : List (Event ω))
    (quiet : ∀ event ∈ before ++ events, event.Quiet service) (ticket : Ticket)
    (begins : ((around client start).run before).Begins ticket interval service)
    (onSchedule : ((around client start).run before).Throughout (OnSchedule ticket) events)
    (earlier later : List (Event ω)) (split : events = earlier ++ later)
    (known : service ∈ (around client start).observed gets (before ++ earlier) ∨
      (((around client start).run (before ++ earlier)).client.router.cache.peek service).isSome =
        true) :
    let world := (around client start).run (before ++ events)
    ∃ cached, world.client.router.cache.peek service = some cached ∧
      (service, cached) ∈ (around client start).observed given (before ++ events) ∧
      cached.loadedAt ≤ world.now ∧ world.now ≤ cached.loadedAt + interval.nanos ∧
      world.Serves service cached := by
  intro world
  have supplied := (Supplied.around client untouched start).run (before ++ events) quiet
  rw [List.nil_append] at supplied
  obtain ⟨cached, there⟩ : ∃ cached, world.client.router.cache.peek service = some cached := by
    have parts : before ++ events = (before ++ earlier) ++ later := by
      rw [split, List.append_assoc]
    have quietEarlier (event : Event ω) (member : event ∈ before ++ earlier) :
        event.Quiet service := quiet event (parts ▸ List.mem_append_left _ member)
    have quietLater (event : Event ω) (member : event ∈ later) : event.Quiet service :=
      quiet event (parts ▸ List.mem_append_right _ member)
    have atHand := known.elim
      (at_hand_of_gets client untouched start (before ++ earlier) quietEarlier) id
    have linesUp := (linesUp_around client ttl untouched start).run (before ++ earlier)
    have stays := at_hand_run _ linesUp service later quietLater atHand
    rw [← run_append, ← parts] at stays
    exact Option.isSome_iff_exists.mp stays
  have keeps : world.KeepsFresh ticket interval service := by
    have linesUp := (linesUp_around client ttl untouched start).run before
    have now : ((around client start).run before).KeepsFresh ticket interval service :=
      ⟨_, begins.started, .begins begins.lists⟩
    have kept := now.run linesUp events
      (fun event member => quiet event (List.mem_append_right _ member)) onSchedule
    rwa [← run_append] at kept
  obtain ⟨job, -, keeps⟩ := keeps
  have lately := keeps.loaded_lately cached there
  obtain ⟨gained, past⟩ := supplied.handed cached there
  refine ⟨cached, there, gained, past, lately, world.serves_of_fresh service cached ?_⟩
  have current : cached.isExpired ttl world.now = false := by
    refine decide_eq_false (Nat.not_lt.mpr ?_)
    exact Nat.le_trans lately (Nat.add_le_add_left within _)
  rw [supplied.ttl, CacheSlot.fresh?]
  exact Option.filter_eq_some_iff.mpr ⟨there, by rw [current]; rfl⟩

/-- A client with a job that loads all lists anew just as often as they expire. -/
def refreshingClient : Client Int :=
  { byWeight with
    jobs := [(0, .refreshing (.ofMillis 30000) none .done)]
    nextTicket := 1 }

/-- The job has its first turn, and a caller chooses an instance, for which a list is loaded. -/
def firstCaller : List (Event Int) :=
  [.work 0 frontDraw .turn, .request (.choose "orders" none []), .answer 0 frontDraw .turn,
    .answer 0 frontDraw .lock, .answer 0 frontDraw (.listing (.ok firstThenSecond))]

/-- A round loads another list, and the next caller comes for it when it is about to expire and
the next round is due. -/
def lastCaller : List (Event Int) :=
  [.pass 30000000000, .work 0 frontDraw .time, .work 0 frontDraw .lock,
    .work 0 frontDraw (.listing (.ok secondThenFirst)), .pass 30000000000,
    .request (.get "orders")]

/-- The client is new to its lists: its job has been started and has not had a turn. -/
theorem untouched_refreshingClient : refreshingClient.Untouched (.ofMillis 30000) := by
  have users : refreshingClient.users = [(0, none)] := rfl
  refine ⟨rfl, ?_, ?_, ?_⟩
  · simp [users]
  · rw [users]
    rintro _ ⟨⟩
    · exact Nat.one_pos
    · contradiction
  · simp [users]

/-- No load fails in the example, and no list is forgotten. -/
theorem quiet_lastCaller : ∀ event ∈ firstCaller ++ lastCaller, event.Quiet "orders" := by
  intro event member
  have cases : event ∈ firstCaller ++ lastCaller := member
  simp only [firstCaller, lastCaller, List.cons_append, List.nil_append, List.mem_cons,
    List.not_mem_nil, or_false] at cases
  rcases cases with rfl | rfl | rfl | rfl | rfl | rfl | rfl | rfl | rfl | rfl | rfl <;>
    exact ⟨nofun, nofun⟩

/-- The time of the example passes only while the job waits for its next round, and no further
than up to that one. -/
theorem onSchedule_lastCaller :
    (around refreshingClient 0).Throughout (OnSchedule 0) (firstCaller ++ lastCaller) := by
  have timeless {world : World Int} {event : Event Int} (still : ∀ span, event ≠ .pass span)
      (runs : ((world.step event).client.jobs.lookup 0).isSome = true) :
      world.OnSchedule 0 event := ⟨runs, fun span same => absurd same (still span)⟩
  -- While time passes, neither the caller nor the job has a lookup, and the job is due no earlier.
  have passes {world : World Int} {span : Nat} (due : Instant)
      (users : world.users = [(1, none), (0, none)])
      (waits : world.client.jobs.lookup 0 =
        some (.refreshing (.ofMillis 30000) (some due) .done))
      (before : world.now + span ≤ due) : world.OnSchedule 0 (.pass span) := by
    refine ⟨?_, ?_⟩
    · exact (congrArg Option.isSome waits).trans rfl
    · rintro _ ⟨⟩
      refine ⟨?_, _, due, waits, rfl, before⟩
      intro ticket lookup member
      simp [users] at member
  refine ⟨timeless (fun _ => nofun) (by rfl), timeless (fun _ => nofun) (by rfl),
    timeless (fun _ => nofun) (by rfl), timeless (fun _ => nofun) (by rfl),
    timeless (fun _ => nofun) (by rfl), ?_, timeless (fun _ => nofun) (by rfl),
    timeless (fun _ => nofun) (by rfl), timeless (fun _ => nofun) (by rfl), ?_,
    timeless (fun _ => nofun) (by rfl), trivial⟩
  · exact passes 30000000000 (by rfl) (by rfl) (by decide)
  · exact passes 60000000000 (by rfl) (by rfl) (by decide)

/-- The first list was loaded for a choice, and the last caller has the one that the round has
loaded, one interval and one time to live earlier. -/
theorem refreshed_lists_stay_fresh_lastCaller :
    let world := (around refreshingClient 0).run (firstCaller ++ lastCaller)
    world.now = 60000000000 ∧
      world.client.router.cache.peek "orders" = some ⟨secondThenFirst, 30000000000⟩ ∧
      world.Serves "orders" ⟨secondThenFirst, 30000000000⟩ ∧
      (around refreshingClient 0).observed gets firstCaller = ["orders"] ∧
      world.tasks[1]? = some (2, .looking (.get "orders")) := by
  intro world
  have there : world.client.router.cache.peek "orders" =
      some ⟨secondThenFirst, 30000000000⟩ := by rfl
  have begins : ((around refreshingClient 0).run []).Begins 0 (.ofMillis 30000) "orders" :=
    ⟨rfl, fun cached found => nomatch found⟩
  have got : (around refreshingClient 0).observed gets firstCaller = ["orders"] := by rfl
  obtain ⟨cached, found, -, -, -, serves⟩ := refreshed_lists_stay_fresh refreshingClient
    (.ofMillis 30000) (.ofMillis 30000) untouched_refreshingClient (Nat.le_refl _) 0 "orders" []
    (firstCaller ++ lastCaller) quiet_lastCaller 0 begins onSchedule_lastCaller firstCaller
    lastCaller rfl (.inl (got ▸ List.mem_singleton_self _))
  obtain rfl := Option.some.inj (found.symm.trans there)
  exact ⟨rfl, there, serves, got, rfl⟩

end World

end CallRouting
