import CallRouting.Proofs.CacheUsers

/-!
# What events do to the cache and its users

An event lets a user of the cache go on, lets somebody join the users or leave them, or forgets
a list; that is all that can happen to the cached lists and to the lines for them.
`World.CacheMoves` says so once for all events, and what an event or a run keeps of the cache
follows from it.
-/

namespace CallRouting

/-- The list that a lookup gets from the directory at an answer, with its service and when it
came. -/
def Lookup.gain? (lookup : Lookup) (now : Instant) (answer : Answer) :
    Option (String × CachedList) :=
  match lookup.phase, answer with
  | .loading, .listing (.ok instances) => some (lookup.service, ⟨instances, now⟩)
  | _, _ => none

/-- A task that is about a lookup waits for what the lookup waits for. -/
theorem Task.await?_of_lookup? (task : Task) (lookup : Lookup)
    (about : task.lookup? = some lookup) : task.await? = lookup.await? := by
  -- A selection is about a lookup while it looks for its list, whether for a caller or for an
  -- attempt.
  have selected (selection : Selection) (about : selection.lookup? = some lookup) :
      selection.await? = lookup.await? := by
    obtain ⟨service, wanted, failed, phase⟩ := selection
    cases phase with
    | looking strategy current =>
      cases about
      rfl
    | _ => cases about
  cases task with
  | looking current =>
    cases about
    rfl
  | choosing selection => exact selected selection about
  | invoking invocation =>
    obtain ⟨service, policy, ended, failed, phase⟩ := invocation
    cases phase with
    | selecting selection => exact selected selection about
    | _ => cases about
  | sweeping sweep =>
    cases sweep with
    | running current remaining =>
      cases about
      rfl
    | _ => cases about
  | _ => cases about

/-- A job waits for what its lookup waits for, except before its first turn: then it waits for the
turn, whatever the sweep would do. -/
theorem Job.await_of_lookup? (job : Job) (lookup : Lookup) (about : job.lookup? = some lookup)
    (await : Await) (waits : lookup.await? = some await) :
    job.await = await ∨ job.await = .turn := by
  cases job with
  | aggregating interval due => cases about
  | refreshing interval due sweep =>
    cases due with
    | none => exact .inr rfl
    | some due =>
      cases sweep with
      | running current remaining =>
        cases about
        left
        simp only [Job.await, Sweep.await?, waits, Option.getD_some]
      | _ => cases about

variable {ω : Type}

/-- The answer that an event brings. -/
def Event.answer? : Event ω → Option Answer
  | .answer _ _ brought | .work _ _ brought => some brought
  | .pass _ | .request _ | .leave _ | .dismiss | .adjust _ => none

/-- The jobs of a client, those that are not gone yet included. -/
def Client.users (client : Client ω) : Users :=
  (client.jobs ++ client.stopped).map (Prod.map id Job.lookup?)

namespace World

/-- All who can have to do with the cache. -/
def users (world : World ω) : Users :=
  world.tasks.map (Prod.map id Task.lookup?) ++ world.client.users

/-- The lists that the directory gives at an event. -/
def given (world : World ω) : Event ω → List (String × CachedList)
  | .answer place _ answer =>
    match world.roused? place answer with
    | none => []
    | some (_, task) => (task.lookup?.bind (·.gain? world.now answer)).toList
  | .work ticket _ answer =>
    match world.client.jobs.lookup ticket with
    | none => []
    | some job =>
      if world.permits ticket job.await answer then
        (job.lookup?.bind (·.gain? world.now answer)).toList
      else []
  | .pass _ | .request _ | .leave _ | .dismiss | .adjust _ => []

/-- Who goes on at an answer that the world permits has the lock if it goes on with that. -/
theorem admitted (world : World ω) (ticket : Ticket) (await : Await) (answer : Answer)
    (permitted : world.permits ticket await answer = true) (lookup : Lookup)
    (waits : ∀ other, lookup.await? = some other → await = other ∨ await = .turn) :
    lookup.Admitted world.client.router.cache ticket answer := by
  rintro seen phase rfl
  have lock : lookup.await? = some (.lock lookup.service) := by rw [Lookup.await?, phase]
  rcases waits _ lock with rfl | rfl
  · simpa [permits, Answer.fits] using permitted
  · simp [permits, Answer.fits] at permitted

variable [Weight ω]

/-- What an event can do to the cache and to its users. -/
inductive CacheMoves (world : World ω) (event : Event ω) : Cache × Users → Cache × Users → Prop
  /-- Somebody goes on. -/
  | goes (ticket : Ticket) (answer : Answer) (rest : Users) {first second : Cache × Option Lookup}
      (steps : LookupSteps world.now ticket answer first second)
      (answered : event.answer? = some answer)
      (admitted : ∀ lookup ∈ first.2, lookup.Admitted first.1 ticket answer)
      (gains : ∀ gain ∈ first.2.bind (·.gain? world.now answer), gain ∈ world.given event) :
      CacheMoves world event (first.1, (ticket, first.2) :: rest)
        (second.1, (ticket, second.2) :: rest)
  | joins (cache : Cache) (ticket : Ticket) (lookup? : Option Lookup) (rest : Users)
      (new : ticket ∉ rest.map Prod.fst)
      (numbered : ticket < (world.step event).client.nextTicket)
      (begins : ∀ lookup ∈ lookup?, ∃ reload, lookup.phase = .asked reload) :
      CacheMoves world event (cache, rest) (cache, (ticket, lookup?) :: rest)
  | leaves (cache : Cache) (ticket : Ticket) (lookup? : Option Lookup) (rest : Users) :
      CacheMoves world event (cache, (ticket, lookup?) :: rest)
        (lookup?.elim cache (·.abandon cache ticket), rest)
  | forgets (cache : Cache) (users : Users) (service : String)
      (here : event = .adjust (.invalidate service)) :
      CacheMoves world event (cache, users) (cache.invalidate service, users)
  /-- The order of the users says nothing. -/
  | reorders (cache : Cache) {users others : Users} (same : users.Perm others) :
      CacheMoves world event (cache, users) (cache, others)
  | onward {first second third : Cache × Users} (before : CacheMoves world event first second)
      (after : CacheMoves world event second third) : CacheMoves world event first third

namespace CacheMoves

variable {world : World ω} {event : Event ω} {cache : Cache} {users : Users}

/-- Nothing has to happen at an event: to reorder the users in no way is a move too. -/
theorem refl (world : World ω) (event : Event ω) (cache : Cache) (users : Users) :
    world.CacheMoves event (cache, users) (cache, users) :=
  .reorders cache (.refl users)

/-- Somebody in the midst of the users goes on. -/
theorem goes_amid (ticket : Ticket) (answer : Answer) (before after : Users)
    {first second : Cache × Option Lookup}
    (steps : LookupSteps world.now ticket answer first second)
    (answered : event.answer? = some answer)
    (admitted : ∀ lookup ∈ first.2, lookup.Admitted first.1 ticket answer)
    (gains : ∀ gain ∈ first.2.bind (·.gain? world.now answer), gain ∈ world.given event) :
    world.CacheMoves event (first.1, before ++ (ticket, first.2) :: after)
      (second.1, before ++ (ticket, second.2) :: after) :=
  .onward (.reorders _ List.perm_middle)
    (.onward (.goes ticket answer (before ++ after) steps answered admitted gains)
      (.reorders _ List.perm_middle.symm))

/-- Somebody in the midst of the users leaves them. -/
theorem leaves_amid (cache : Cache) (ticket : Ticket) (lookup? : Option Lookup)
    (before after : Users) :
    world.CacheMoves event (cache, before ++ (ticket, lookup?) :: after)
      (lookup?.elim cache (·.abandon cache ticket), before ++ after) :=
  .onward (.reorders _ List.perm_middle) (.leaves cache ticket lookup? (before ++ after))

/-- Jobs join the users one after the other, each with a ticket that nobody has, and about no list
yet. -/
theorem join_all (news : List (Ticket × Job))
    (distinct : (news.map Prod.fst).Nodup)
    (new : ∀ entry ∈ news, entry.1 ∉ users.map Prod.fst ∧
      entry.1 < (world.step event).client.nextTicket)
    (free : ∀ entry ∈ news, entry.2.lookup? = none) :
    world.CacheMoves event (cache, users) (cache, news.map (Prod.map id Job.lookup?) ++ users) := by
  induction news with
  | nil => exact .refl world event cache users
  | cons entry rest inductionHypothesis =>
    obtain ⟨ticket, job⟩ := entry
    obtain ⟨fresh, distinct⟩ := List.nodup_cons.mp distinct
    have others := inductionHypothesis distinct
      (fun other member => new other (List.mem_cons_of_mem _ member))
      fun other member => free other (List.mem_cons_of_mem _ member)
    obtain ⟨absent, numbered⟩ := new (ticket, job) List.mem_cons_self
    have own : job.lookup? = none := free (ticket, job) List.mem_cons_self
    refine .onward others (.joins cache ticket job.lookup? _ ?_ numbered ?_)
    · rw [List.map_append, List.mem_append, List.map_map]
      exact not_or.mpr ⟨fresh, absent⟩
    · rw [own]
      exact fun _ about => nomatch about

/-- Stopped jobs leave the users one after the other. -/
theorem leave_all (stopped : List (Ticket × Job)) (cache : Cache) :
    world.CacheMoves event (cache, users ++ stopped.map (Prod.map id Job.lookup?))
      (stopped.foldl (fun cache entry => entry.2.abandon cache entry.1) cache, users) := by
  induction stopped generalizing cache with
  | nil =>
    rw [List.map_nil, List.append_nil]
    exact .refl world event cache users
  | cons entry rest inductionHypothesis =>
    have gone : world.CacheMoves event _ _ :=
      .leaves_amid cache entry.1 entry.2.lookup? users (rest.map (Prod.map id Job.lookup?))
    rw [← entry.2.abandon_eq cache entry.1] at gone
    exact .onward gone (inductionHypothesis _)

end CacheMoves

end World

/-- What a task does to the jobs when it goes on: nothing, or it starts or stops them. -/
theorem Task.jobs_resume [Weight ω] (task : Task) (client : Client ω) (moment : Moment ω)
    (answer : Answer) :
    ((task.resume client moment answer).1.jobs = client.jobs ∧
        (task.resume client moment answer).1.stopped = client.stopped ∧
        (task.resume client moment answer).1.nextTicket = client.nextTicket) ∨
      (task.resume client moment answer).1 = client.startJobs ∨
      (task.resume client moment answer).1 = client.stopJobs := by
  cases task with
  | opening phase =>
    cases phase <;> cases answer <;> first
      | exact .inl ⟨rfl, rfl, rfl⟩
      | exact .inr (.inl rfl)
  | closing phase =>
    cases phase <;> cases answer <;> first
      | exact .inl ⟨rfl, rfl, rfl⟩
      | exact .inr (.inr rfl)
  | registration target phase => cases phase <;> cases answer <;> exact .inl ⟨rfl, rfl, rfl⟩
  | sleeping wait due => cases due <;> cases answer <;> exact .inl ⟨rfl, rfl, rfl⟩
  | _ => exact .inl ⟨rfl, rfl, rfl⟩

/-- Among jobs with tickets of their own the one with a ticket is replaced alone. -/
theorem replace_amid (jobs : List (Ticket × Job)) (distinct : (jobs.map Prod.fst).Nodup)
    (ticket : Ticket) (job : Job) (found : jobs.lookup ticket = some job) :
    ∃ before after, jobs = before ++ (ticket, job) :: after ∧ ∀ next : Job,
      (jobs.map fun entry => if entry.1 = ticket then (entry.1, next) else entry) =
        before ++ (ticket, next) :: after := by
  obtain ⟨before, after, rfl, -⟩ := List.lookup_eq_some_iff.mp found
  refine ⟨before, after, rfl, fun next => ?_⟩
  have single := (List.nodup_cons.mp ((List.perm_middle.map Prod.fst).nodup_iff.mp distinct)).1
  -- No other job has the ticket, so the map leaves all before it and behind it.
  have others (entries : List (Ticket × Job)) (among : ∀ entry ∈ entries, entry ∈ before ++ after) :
      (entries.map fun entry => if entry.1 = ticket then (entry.1, next) else entry) =
        entries := by
    conv => rhs; rw [← List.map_id entries]
    refine List.map_congr_left fun entry member => if_neg ?_
    rintro same
    exact single (List.mem_map.mpr ⟨entry, among entry member, same⟩)
  rw [List.map_append, List.map_cons, if_pos rfl,
    others before fun _ member => List.mem_append_left _ member,
    others after fun _ member => List.mem_append_right _ member]

namespace World

variable [Weight ω]

/-- Tickets are given out in order. -/
def Numbered (world : World ω) : Prop :=
  ∀ entry ∈ world.users, entry.1 < world.client.nextTicket

/-- Tickets are given out in order, so the next one never falls back.

Requests and starts take tickets, and nothing gives one back. -/
theorem nextTicket_le_step (world : World ω) (event : Event ω) :
    world.client.nextTicket ≤ (world.step event).client.nextTicket := by
  have started : world.client.nextTicket ≤ world.client.startJobs.nextTicket := by
    unfold Client.startJobs
    split
    · exact Nat.le_add_right _ _
    · exact Nat.le_refl _
  cases event with
  | request request => exact Nat.le_succ _
  | answer place draw answer =>
    simp only [step]
    split
    · exact Nat.le_refl _
    · rename_i ticket task roused
      rcases task.jobs_resume world.client (world.moment ticket draw) answer with
        ⟨-, -, same⟩ | starts | stops
      · exact Nat.le_of_eq same.symm
      · dsimp only
        rw [starts]
        exact started
      · dsimp only
        rw [stops]
        exact Nat.le_refl _
  | leave place =>
    simp only [step]
    split <;> exact Nat.le_refl _
  | work ticket draw answer =>
    simp only [step]
    split
    · exact Nat.le_refl _
    · split
      · unfold Client.resumeJob
        split <;> exact Nat.le_refl _
      · exact Nat.le_refl _
  | pass span => exact Nat.le_refl _
  | dismiss => exact Nat.le_refl _
  | adjust adjustment => exact Nat.le_refl _

namespace CacheMoves

variable {world : World ω} {event : Event ω} {cache : Cache} {others : Users}

/-- Jobs that start join the users.

Each job gets a ticket of its own from the next one on, so it is new among the users; at first
it looks up nothing. -/
theorem starts
    (numbered : ∀ entry ∈ others ++ world.client.users, entry.1 < world.client.nextTicket)
    (onwards : world.client.startJobs.nextTicket ≤ (world.step event).client.nextTicket) :
    world.CacheMoves event (cache, others ++ world.client.users)
      (cache, others ++ world.client.startJobs.users) := by
  unfold Client.startJobs at onwards ⊢
  split
  · rename_i none
    rw [if_pos none] at onwards
    have noJobs : world.client.jobs = [] := List.isEmpty_iff.mp none
    generalize wanted : Client.wantedJobs world.client.settings = jobs at onwards
    have tickets : (((List.range jobs.length).map (world.client.nextTicket + ·)).zip jobs).map
        Prod.fst = (List.range jobs.length).map (world.client.nextTicket + ·) :=
      List.map_fst_zip (by simp)
    refine .onward (.join_all (((List.range jobs.length).map (world.client.nextTicket + ·)).zip
      jobs) ?_ ?_ ?_) (.reorders cache ?_)
    · rw [tickets]
      exact List.Pairwise.map _ (fun _ _ differs same => differs (Nat.add_left_cancel same))
        List.nodup_range
    · intro entry member
      have ticket : entry.1 ∈ (List.range jobs.length).map (world.client.nextTicket + ·) :=
        (List.of_mem_zip member).1
      obtain ⟨place, inside, same⟩ := List.mem_map.mp ticket
      rw [← same]
      constructor
      · intro known
        obtain ⟨other, among, own⟩ := List.mem_map.mp known
        have earlier := numbered other among
        rw [own] at earlier
        exact absurd earlier (Nat.not_lt.mpr (Nat.le_add_right _ _))
      · exact Nat.lt_of_lt_of_le (Nat.add_lt_add_left (List.mem_range.mp inside) _) onwards
    · intro entry member
      have own := (List.of_mem_zip member).2
      rw [← wanted] at own
      rcases List.mem_append.mp own with aggregating | refreshing
      · obtain ⟨interval, _, same⟩ :=
          Option.map_eq_some_iff.mp (Option.mem_toList.mp aggregating)
        rw [← same]
        rfl
      · obtain ⟨interval, _, same⟩ :=
          Option.map_eq_some_iff.mp (Option.mem_toList.mp refreshing)
        rw [← same]
        rfl
    · simp only [Client.users, noJobs, List.nil_append, List.map_append]
      exact List.perm_append_comm_assoc _ _ _
  · exact .refl world event cache _

/-- Jobs that are stopped stay among the users until they are let go, in another order. -/
theorem stops : world.CacheMoves event (cache, others ++ world.client.users)
    (cache, others ++ world.client.stopJobs.users) := by
  refine .reorders cache (List.Perm.append_left others ?_)
  simp only [Client.users, Client.stopJobs, List.nil_append]
  exact List.perm_append_comm.map _

/-- When a client keeps its jobs, starts them or stops them, its users change by moves. -/
theorem jobs_change {client : Client ω}
    (jobs : (client.jobs = world.client.jobs ∧ client.stopped = world.client.stopped) ∨
      client = world.client.startJobs ∨ client = world.client.stopJobs)
    (numbered : ∀ entry ∈ others ++ world.client.users, entry.1 < world.client.nextTicket)
    (onwards : client.nextTicket ≤ (world.step event).client.nextTicket) :
    world.CacheMoves event (cache, others ++ world.client.users)
      (cache, others ++ client.users) := by
  rcases jobs with ⟨jobs, stopped⟩ | rfl | rfl
  · have same : client.users = world.client.users := by
      rw [Client.users, Client.users, jobs, stopped]
    rw [same]
    exact .refl _ _ _ _
  · exact .starts numbered onwards
  · exact .stops

end CacheMoves

/-- A task that goes on is one of the users that goes on; maybe jobs join them.

The users before and behind the task are the same as before; in between, what it looks up has
taken its steps. If the task has started or stopped jobs, these join or are put aside
afterwards. -/
theorem cacheMoves_answer (world : World ω) (numbered : world.Numbered) (place : Nat)
    (draw : Draw ω) (answer : Answer) :
    world.CacheMoves (.answer place draw answer) (world.client.router.cache, world.users)
      ((world.step (.answer place draw answer)).client.router.cache,
        (world.step (.answer place draw answer)).users) := by
  cases roused : world.roused? place answer with
  | none =>
    simp only [step, roused]
    exact .refl _ _ _ _
  | some entry =>
    obtain ⟨ticket, task⟩ := entry
    obtain ⟨found, await, waits, -, permitted⟩ :=
      world.roused?_eq_some place answer ticket task roused
    obtain ⟨before, after, tasks, set, -⟩ := split_at_place world.tasks place _ found
    let around (lookup? : Option Lookup) : Users :=
      before.map (Prod.map id Task.lookup?) ++
        (ticket, lookup?) :: after.map (Prod.map id Task.lookup?)
    generalize resumed : task.resume world.client (world.moment ticket draw) answer = next
    obtain ⟨client, further⟩ := next
    have start : world.users = around task.lookup? ++ world.client.users := by
      rw [users, tasks, List.map_append]
      rfl
    have finish : world.step (.answer place draw answer) =
        { world with client, tasks := before ++ (ticket, further) :: after } := by
      simp only [step, roused, resumed, set]
    have present : (world.step (.answer place draw answer)).users =
        around further.lookup? ++ client.users := by
      rw [finish, users, List.map_append]
      rfl
    have gone : world.CacheMoves (.answer place draw answer)
        (world.client.router.cache, around task.lookup? ++ world.client.users)
        (client.router.cache, around further.lookup? ++ world.client.users) := by
      have steps := task.lookupSteps_resume world.client (world.moment ticket draw) answer
      rw [resumed] at steps
      simp only [around, List.append_assoc, List.cons_append]
      refine .goes_amid ticket answer _ _ steps rfl ?_ ?_
      · intro lookup about
        refine world.admitted ticket await answer permitted lookup fun other own => .inl ?_
        rw [task.await?_of_lookup? lookup about, own] at waits
        exact (Option.some.inj waits).symm
      · intro gain gained
        simp only [given, roused]
        exact Option.mem_toList.mpr gained
    rw [start, present, finish]
    refine .onward gone (.jobs_change ?_ ?_ ?_)
    · have jobs := task.jobs_resume world.client (world.moment ticket draw) answer
      rw [resumed] at jobs
      exact jobs.imp_left fun same => ⟨same.1, same.2.1⟩
    · intro entry member
      have known : entry.1 ∈ (around task.lookup? ++ world.client.users).map Prod.fst := by
        have own := List.mem_map_of_mem (f := Prod.fst) member
        simpa [around] using own
      obtain ⟨other, among, own⟩ := List.mem_map.mp known
      exact own ▸ numbered other (start ▸ among)
    · exact Nat.le_of_eq (by rw [finish])

/-- A job that goes on is one of the users that goes on.

Like a task, a job goes on amid the other users, which stay. The tickets are distinct, so it is
found in one place only. -/
theorem cacheMoves_work (world : World ω) (distinct : (world.users.map Prod.fst).Nodup)
    (ticket : Ticket) (draw : Draw ω) (answer : Answer) :
    world.CacheMoves (.work ticket draw answer) (world.client.router.cache, world.users)
      ((world.step (.work ticket draw answer)).client.router.cache,
        (world.step (.work ticket draw answer)).users) := by
  cases found : world.client.jobs.lookup ticket with
  | none =>
    simp only [step, found]
    exact .refl _ _ _ _
  | some job =>
    by_cases permitted : world.permits ticket job.await answer = true
    · have own : (world.client.jobs.map Prod.fst).Nodup := by
        rw [users, Client.users, List.map_append, List.map_append, List.map_append] at distinct
        have users := (List.nodup_append.mp distinct).2.1
        have jobs := (List.nodup_append.mp users).1
        rwa [List.map_map] at jobs
      obtain ⟨before, after, jobs, replaced⟩ := replace_amid _ own ticket job found
      generalize resumed :
        job.resume world.client.router (world.moment ticket draw) answer = next
      obtain ⟨router, further⟩ := next
      let around (lookup? : Option Lookup) : Users :=
        (world.tasks.map (Prod.map id Task.lookup?) ++ before.map (Prod.map id Job.lookup?)) ++
          (ticket, lookup?) ::
            (after.map (Prod.map id Job.lookup?) ++
              world.client.stopped.map (Prod.map id Job.lookup?))
      have start : world.users = around job.lookup? := by
        simp only [users, Client.users, jobs, around, List.map_append, List.map_cons,
          List.append_assoc, List.cons_append]
        rfl
      have finish : world.step (.work ticket draw answer) =
          { world with
            client :=
              { world.client with router, jobs := before ++ (ticket, further) :: after } } := by
        have moment : (world.moment ticket draw).ticket = ticket := rfl
        simp only [step, found, permitted, if_true, Client.resumeJob, moment, resumed]
        rw [replaced]
      have present : (world.step (.work ticket draw answer)).users = around further.lookup? := by
        rw [finish]
        simp only [users, Client.users, around, List.map_append, List.map_cons,
          List.append_assoc, List.cons_append]
        rfl
      have steps := job.lookupSteps_resume world.client.router (world.moment ticket draw) answer
      rw [resumed] at steps
      rw [start, present, finish]
      refine .goes_amid ticket answer _ _ steps rfl ?_ ?_
      · exact fun lookup about => world.admitted ticket job.await answer permitted lookup
          (job.await_of_lookup? lookup about)
      · intro gain gained
        simp only [given, found, permitted, if_true]
        exact Option.mem_toList.mpr gained
    · simp only [step, found, permitted]
      exact .refl _ _ _ _

/-- Each event is a number of such moves.

The events that do something to a cache are answers, the work of jobs, callers who leave, jobs
that are let go, and lists that are forgotten; a request only adds a user. -/
theorem cacheMoves_step (world : World ω) (distinct : (world.users.map Prod.fst).Nodup)
    (numbered : world.Numbered) (event : Event ω) :
    world.CacheMoves event (world.client.router.cache, world.users)
      ((world.step event).client.router.cache, (world.step event).users) := by
  cases event with
  | pass span => exact .refl _ _ _ _
  | request request =>
    have joined : world.CacheMoves (.request request) _ _ := .joins world.client.router.cache
      world.client.nextTicket request.task.lookup? world.users ?_ (Nat.lt_succ_self _) ?_
    · refine .onward joined (.reorders _ ?_)
      simp only [users, step, List.map_append, List.append_assoc]
      exact List.perm_middle.symm
    · intro known
      obtain ⟨entry, member, same⟩ := List.mem_map.mp known
      exact absurd (numbered entry member) (Nat.not_lt.mpr (Nat.le_of_eq same.symm))
    · intro lookup about
      cases request <;> cases about <;> exact ⟨_, rfl⟩
  | answer place draw answer => exact world.cacheMoves_answer numbered place draw answer
  | leave place =>
    cases found : world.tasks[place]? with
    | none =>
      simp only [step, found]
      exact .refl _ _ _ _
    | some entry =>
      obtain ⟨before, after, tasks, -, erased⟩ := split_at_place world.tasks place entry found
      have gone : world.CacheMoves (.leave place) _ _ := .leaves_amid world.client.router.cache
        entry.1 entry.2.lookup? (before.map (Prod.map id Task.lookup?))
        (after.map (Prod.map id Task.lookup?) ++ world.client.users)
      rw [← entry.2.cache_abandon world.client entry.1] at gone
      have start : world.users = before.map (Prod.map id Task.lookup?) ++
          (entry.1, entry.2.lookup?) :: (after.map (Prod.map id Task.lookup?) ++
            world.client.users) := by
        rw [users, tasks, List.map_append, List.append_assoc]
        rfl
      have finish : (world.step (.leave place)).users = before.map (Prod.map id Task.lookup?) ++
          (after.map (Prod.map id Task.lookup?) ++ world.client.users) := by
        simp only [users, step, found, erased, List.map_append, List.append_assoc]
        rfl
      rw [start, finish]
      simp only [step, found]
      exact gone
  | work ticket draw answer => exact world.cacheMoves_work distinct ticket draw answer
  | dismiss =>
    refine .onward (.reorders _ (.of_eq ?_)) (.leave_all world.client.stopped _)
    simp only [users, step, Client.dismissStopped, Client.users, List.map_append,
      List.append_nil, List.append_assoc]
  | adjust adjustment =>
    cases adjustment with
    | invalidate service => exact .forgets _ _ service rfl
    | _ => exact .refl _ _ _ _

/-- Moves of a cache and its users keep the lines those of the users.

By induction on the moves. Whoever goes on or goes away is the first of the users, and changes
only its own place; to forget a list leaves all locks; and the order of the users does not matter.
-/
theorem CacheMoves.linesUp {world : World ω} {event : Event ω} {first second : Cache × Users}
    (moves : world.CacheMoves event first second) (lines : first.1.LinesUp first.2) :
    second.1.LinesUp second.2 := by
  induction moves with
  | goes ticket answer rest steps answered admitted gains =>
    exact lines.lookupSteps steps admitted
  | joins cache ticket lookup? rest new numbered begins =>
    have joined := Cache.LinesUp.cons_none.mpr ⟨new, lines⟩
    refine joined.swap (fun _ about => nomatch about) ?_
    intro lookup about
    obtain ⟨reload, phase⟩ := begins lookup about
    rw [phase]
    rfl
  | leaves cache ticket lookup? rest => exact lines.abandon
  | forgets cache users service here =>
    have locks (other : String) :
        ((cache.invalidate service).slot other).lock = (cache.slot other).lock := by
      rw [Cache.slot_invalidate]
      split <;> rfl
    refine ⟨lines.distinct, ?_, ?_, ?_⟩
    · simpa only [locks] using lines.nodup
    · simpa only [locks] using lines.mem
    · simpa only [locks] using lines.first
  | reorders cache same => exact lines.perm same
  | onward before after beforeHypothesis afterHypothesis =>
    exact afterHypothesis (beforeHypothesis lines)

/-- Moves keep the tickets of all users below the next one that the event leaves: nobody changes
its ticket, and whoever joins has been given a smaller one. -/
theorem CacheMoves.numbered {world : World ω} {event : Event ω} {first second : Cache × Users}
    (moves : world.CacheMoves event first second)
    (numbered : ∀ entry ∈ first.2, entry.1 < (world.step event).client.nextTicket) :
    ∀ entry ∈ second.2, entry.1 < (world.step event).client.nextTicket := by
  induction moves with
  | goes ticket answer rest steps answered admitted gains =>
    intro entry member
    rcases List.mem_cons.mp member with rfl | member
    · have own := numbered _ List.mem_cons_self
      exact own
    · exact numbered entry (List.mem_cons_of_mem _ member)
  | joins cache ticket lookup? rest new next begins =>
    intro entry member
    rcases List.mem_cons.mp member with rfl | member
    · exact next
    · exact numbered entry member
  | leaves cache ticket lookup? rest =>
    exact fun entry member => numbered entry (List.mem_cons_of_mem _ member)
  | forgets => exact numbered
  | reorders cache same => exact fun entry member => numbered entry (same.mem_iff.mpr member)
  | onward before after beforeHypothesis afterHypothesis =>
    exact afterHypothesis (beforeHypothesis numbered)

/-- A world whose lines are those of its users. -/
structure LinesUp (world : World ω) : Prop where
  lines : world.client.router.cache.LinesUp world.users
  numbered : world.Numbered

namespace LinesUp

variable {world : World ω}

/-- Where the lines are those of the users, an event is a series of moves of the cache and its
users. -/
theorem cacheMoves (linesUp : world.LinesUp) (event : Event ω) :
    world.CacheMoves event (world.client.router.cache, world.users)
      ((world.step event).client.router.cache, (world.step event).users) :=
  world.cacheMoves_step linesUp.lines.distinct linesUp.numbered event

/-- The lines are still those of the users after an event. -/
theorem step (linesUp : world.LinesUp) (event : Event ω) : (world.step event).LinesUp := by
  have moves := linesUp.cacheMoves event
  refine ⟨moves.linesUp linesUp.lines, moves.numbered ?_⟩
  intro entry member
  exact Nat.lt_of_lt_of_le (linesUp.numbered entry member) (world.nextTicket_le_step event)

/-- The lines are still those of the users after a run, by induction over its events. -/
theorem run (linesUp : world.LinesUp) (events : List (Event ω)) : (world.run events).LinesUp := by
  induction events generalizing world with
  | nil => exact linesUp
  | cons event rest inductionHypothesis => exact inductionHypothesis (linesUp.step event)

end LinesUp

end World

/-- A client for which nobody has looked up a list yet. Jobs may be running. -/
structure Client.Untouched (client : Client ω) (ttl : Duration) : Prop where
  cache : client.router.cache = .empty ttl
  distinct : (client.users.map Prod.fst).Nodup
  numbered : ∀ entry ∈ client.users, entry.1 < client.nextTicket
  free : ∀ entry ∈ client.users, entry.2 = none

namespace World

/-- The lines are empty at the start, and so they are those of the users, none of whom has a
lookup. -/
theorem linesUp_around (client : Client ω) (ttl : Duration) (untouched : client.Untouched ttl)
    (now : Instant) : (around client now).LinesUp := by
  have nobody (ticket : Ticket) (lookup : Lookup) :
      (ticket, some lookup) ∉ (around client now).users := by
    intro member
    exact nomatch untouched.free _ member
  have line (service : String) :
      ((around client now).client.router.cache.slot service).lock.line = [] := by
    rw [around, untouched.cache]
    rfl
  refine ⟨⟨untouched.distinct, ?_, ?_, ?_⟩, untouched.numbered⟩
  · intro service
    rw [line]
    exact List.nodup_nil
  · intro service ticket
    rw [line]
    refine iff_of_false List.not_mem_nil ?_
    rintro ⟨lookup, member, -⟩
    exact nobody ticket lookup member
  · exact fun ticket lookup member => absurd member (nobody ticket lookup)

/-- A world in which no load waits for the directory, and nobody waits for a lock that it has. -/
def AtRest (world : World ω) : Prop :=
  ∀ ticket lookup, (ticket, some lookup) ∈ world.users → lookup.phase ≠ .loading ∧
    ∀ seen, lookup.phase = .queued seen →
      world.client.router.cache.admits ticket lookup.service = false

/-- When every lookup is at rest nobody stands in any line.

If somebody did, its line would have a first one; and that one would load, or be admitted to the
lock, and could go on. -/
theorem LinesUp.free_of_atRest {world : World ω} (linesUp : world.LinesUp) (rest : world.AtRest)
    (ticket : Ticket) (lookup : Lookup) (member : (ticket, some lookup) ∈ world.users) :
    lookup.phase.inLine = false := by
  cases waits : lookup.phase.inLine with
  | false => rfl
  | true =>
    obtain ⟨holder, current, among, admits, inLine⟩ := linesUp.lines.exists_holder member waits
    obtain ⟨idle, blocked⟩ := rest holder current among
    cases phase : current.phase with
    | queued seen =>
      rw [blocked seen phase] at admits
      cases admits
    | loading => exact absurd phase idle
    | _ =>
      rw [phase] at inLine
      cases inLine

end World

end CallRouting
