import CallRouting.Proofs.TaskAccounts
import CallRouting.Proofs.World
import Mathlib.Algebra.Order.Group.Multiset
import Mathlib.Tactic.Abel

/-!
# The accounts of all calls

In every run, whatever the callers, the directory and the clock do, each tally is what
the entries of the run make of a fresh one, and the entries balance: an attempt that has
begun has ended, or is running, or was left by its caller.

So the counters of a tally count exactly the attempts that began on it, and nothing
else. A call that is left while it runs stays open for ever; the count of running calls
is exact in runs in which nobody does that.
-/

namespace CallRouting

/-- A request begins with nothing running. -/
theorem Request.attempt?_task (request : Request) : request.task.attempt? = none := by
  cases request <;> rfl

/-- Going away changes no statistics. -/
theorem Task.balance_abandon {ω : Type} [Weight ω] (task : Task) (client : Client ω)
    (ticket : Ticket) : (task.abandon client ticket).router.balance = client.router.balance := rfl

/-- A background job changes no count. -/
theorem Job.grows_resume {ω : Type} [Weight ω] (job : Job) (router : Router ω) (moment : Moment ω)
    (answer : Answer) :
    router.balance.ledger.Grows (job.resume router moment answer).1.balance.ledger := by
  have aggregated := router.balance.ledger.grows_aggregateAll moment.now router.cachedCandidates
  cases job with
  | aggregating interval due =>
    cases due <;> cases answer <;> first
      | exact aggregated
      | exact .refl _
  | refreshing interval due sweep =>
    cases due <;> cases sweep <;> cases answer <;> exact .refl _

/-- An adjustment changes no count. It may open books and tallies, take expired entries away and
compute tables. -/
theorem Adjustment.grows_apply {ω : Type} [Weight ω] (adjustment : Adjustment ω) (now : Instant)
    (router : Router ω) :
    router.balance.ledger.Grows (adjustment.apply now router).balance.ledger := by
  cases adjustment with
  | addFilter filter => exact .refl _
  | registerStrategy strategy => exact .refl _
  | declarePolicy declared => exact .refl _
  | invalidate service => exact .refl _
  | aggregate => exact router.balance.ledger.grows_aggregateAll now router.cachedCandidates
  | aggregateService service candidates =>
    exact router.balance.ledger.grows_aggregate now service candidates
  | purge service => exact router.balance.ledger.grows_purge now service
  | openBook service => exact router.balance.ledger.grows_openBook service
  | consult service x => exact (router.balance.ledger.grows_access now service x).1
  | pick strategy draw service candidates =>
    exact router.balance.grows_choose strategy draw now service candidates

/-- Among lists that make up a whole, a part may be exchanged for others that balance it. -/
theorem perm_exchange {α : Type}
    {whole closed before after left begun ended old new gone : List α}
    (balanced : whole.Perm (closed ++ (before ++ (old ++ after)) ++ left))
    (part : (begun ++ old).Perm (ended ++ new ++ gone)) :
    (whole ++ begun).Perm
      (closed ++ ended ++ (before ++ (new ++ after)) ++ (left ++ gone)) := by
  have balanced := Multiset.coe_eq_coe.mpr balanced
  have part := Multiset.coe_eq_coe.mpr part
  refine Multiset.coe_eq_coe.mp ?_
  simp only [← Multiset.coe_add] at balanced part ⊢
  calc (whole : Multiset α) + begun
      = closed + (before + after) + left + (begun + old) := by rw [balanced]; abel
    _ = closed + ended + (before + (new + after)) + (left + gone) := by rw [part]; abel

namespace World

variable {ω : Type}

/-- The calls that are running. -/
def running (world : World ω) : List Call :=
  world.tasks.flatMap fun entry => entry.2.running entry.1

/-- A world in which every task has ended runs no call: whoever runs an attempt waits for its
work. -/
theorem running_eq_nil (world : World ω) (finished : ∀ entry ∈ world.tasks, entry.2.await? = none) :
    world.running = [] := by
  apply List.flatMap_eq_nil_iff.mpr
  intro entry member
  have ended := finished entry member
  obtain ⟨ticket, task⟩ := entry
  cases task with
  | invoking invocation =>
    obtain ⟨service, policy, count, failed, phase⟩ := invocation
    cases phase with
    | working attempt => cases ended
    | selecting selection => rfl
    | resting due => rfl
    | done result => rfl
  | _ => rfl

/-- The statistics. -/
def ledger (world : World ω) : Ledger ω := world.client.router.balance.ledger

/-- What the entries of a run and the world after it have to do with each other: every
tally is what the entries make of a fresh one, and a call that has begun has ended, or is
running, or was left. -/
structure Accounted (entries : List Entry) (world : World ω) : Prop where
  sound : world.ledger.Sound
  known : ∀ entry ∈ world.tasks, entry.2.Known world.ledger
  counts : ∀ handle, (world.ledger.tally handle).undated =
    entries.foldl (Tally.enter handle) (.fresh 0)
  balanced : (callsBegun entries).Perm
    ((callsEnded entries).map Ending.call ++ world.running ++ callsLeft entries)
  ordered : ∀ handle earlier later, entries = earlier ++ later →
    (callsEnded earlier).countP (·.call.on handle) ≤ (callsBegun earlier).countP (·.on handle)

namespace Accounted

variable {entries : List Entry} {world : World ω}

/-- On each tally, what has begun has ended, or is running, or was left. -/
theorem balanced_on (accounted : Accounted entries world) (handle : Handle) :
    (callsBegun entries).countP (·.on handle) =
      (callsEnded entries).countP (·.call.on handle) + world.running.countP (·.on handle) +
        (callsLeft entries).countP (·.on handle) := by
  rw [accounted.balanced.countP_eq, List.countP_append, List.countP_append, List.countP_map]
  rfl

/-- Entries that end no more than has begun keep the order of beginning and end. -/
theorem ordered_append (accounted : Accounted entries world) (added : List Entry)
    (enough : ∀ handle, (callsEnded entries).countP (·.call.on handle) +
      (callsEnded added).countP (·.call.on handle) ≤ (callsBegun entries).countP (·.on handle))
    (handle : Handle) (earlier later : List Entry) (split : entries ++ added = earlier ++ later) :
    (callsEnded earlier).countP (·.call.on handle) ≤
      (callsBegun earlier).countP (·.on handle) := by
  rcases List.append_eq_append_iff.mp split with ⟨part, rfl, addedSplit⟩ | ⟨rest, entriesSplit, _⟩
  · have enough := enough handle
    rw [addedSplit, callsEnded_append, List.countP_append] at enough
    rw [callsEnded_append, callsBegun_append, List.countP_append, List.countP_append]
    omega
  · exact accounted.ordered handle earlier rest entriesSplit

/-- What changes no count and no running call keeps the accounts, with no entry more. -/
theorem quiet (accounted : Accounted entries world) {after : World ω}
    (grown : world.ledger.Grows after.ledger) (running : after.running = world.running)
    (known : ∀ entry ∈ after.tasks, entry.2.attempt? = none ∨ entry ∈ world.tasks) :
    Accounted (entries ++ []) after := by
  rw [List.append_nil]
  constructor
  case sound => exact grown.sound accounted.sound
  case known =>
    intro entry member number attempt running
    rcases known entry member with idle | old
    · rw [idle] at running
      cases running
    · exact Nat.lt_of_lt_of_le (accounted.known entry old number attempt running) grown.size_le
  case counts =>
    intro handle
    rw [grown.counts, accounted.counts]
  case balanced =>
    rw [running]
    exact accounted.balanced
  case ordered => exact accounted.ordered

/-- A task that goes on in its place keeps the accounts. -/
theorem replaced (accounted : Accounted entries world) (before after : List (Ticket × Task))
    (ticket : Ticket) (task next : Task) (tasks : world.tasks = before ++ (ticket, task) :: after)
    (client : Client ω) (added : List Entry)
    (stepped : task.Accounted ticket world.ledger added client.router.balance.ledger next) :
    Accounted (entries ++ added)
      { world with client, tasks := before ++ (ticket, next) :: after } := by
  constructor
  case sound => exact stepped.books.sound
  case known =>
    intro entry member number attempt running
    have old (among : entry ∈ world.tasks) :
        attempt.handle < client.router.balance.ledger.tallies.size :=
      Nat.lt_of_lt_of_le (accounted.known entry among number attempt running) stepped.books.size_le
    rcases List.mem_append.mp member with earlier | rest
    · exact old (by simp [tasks, earlier])
    · rcases List.mem_cons.mp rest with rfl | later
      · exact stepped.known number attempt running
      · exact old (by simp [tasks, later])
  case counts =>
    intro handle
    rw [List.foldl_append, ← accounted.counts]
    exact stepped.books.counts handle
  case balanced =>
    have whole := accounted.balanced
    simp only [running, tasks, List.flatMap_append, List.flatMap_cons] at whole ⊢
    rw [callsBegun_append, callsEnded_append, callsLeft_append, stepped.left, List.map_append]
    apply perm_exchange whole
    rw [List.append_nil]
    exact stepped.balanced
  case ordered =>
    -- Only a running call ends, and what is running on a tally has begun there.
    apply accounted.ordered_append added
    intro handle
    have balanced := accounted.balanced_on handle
    have closed := stepped.ended.countP_le (p := (·.on handle))
    simp only [running, tasks, List.flatMap_append, List.flatMap_cons, List.countP_append]
      at balanced
    rw [List.countP_map] at closed
    change (callsEnded added).countP (·.call.on handle) ≤ _ at closed
    omega

/-- A task that is left keeps the accounts: the call that was running stays open. -/
theorem left (accounted : Accounted entries world) (before after : List (Ticket × Task))
    (ticket : Ticket) (task : Task) (tasks : world.tasks = before ++ (ticket, task) :: after)
    (client : Client ω) (same : client.router.balance = world.client.router.balance) :
    Accounted (entries ++ (task.running ticket).map .left)
      { world with client, tasks := before ++ after } := by
  obtain ⟨nothingBegun, nothingEnded, allLeft⟩ := calls_left (task.running ticket)
  have ledger : ({ world with client, tasks := before ++ after } : World ω).ledger = world.ledger :=
    congrArg Balance.ledger same
  constructor
  case sound => exact ledger ▸ accounted.sound
  case known =>
    intro entry member
    rw [ledger]
    apply accounted.known entry
    rcases List.mem_append.mp member with earlier | later
    · simp [tasks, earlier]
    · simp [tasks, later]
  case counts =>
    intro handle
    rw [ledger, accounted.counts, List.foldl_append, Tally.foldl_left]
  case balanced =>
    have whole := accounted.balanced
    simp only [running, tasks, List.flatMap_append, List.flatMap_cons] at whole ⊢
    rw [callsBegun_append, callsEnded_append, callsLeft_append, nothingBegun, nothingEnded, allLeft,
      List.map_append]
    -- The call moves from those that are running to those that were left.
    have part : ([] ++ task.running ticket).Perm ([] ++ [] ++ task.running ticket) := .refl _
    exact perm_exchange whole part
  case ordered =>
    apply accounted.ordered_append
    intro handle
    have balanced := accounted.balanced_on handle
    rw [nothingEnded, List.countP_nil]
    omega

/-- Before anybody has asked for anything the accounts are empty: nothing is running, and all
tallies read as fresh. -/
theorem of_around (client : Client ω) (now : Instant) (lifetime : Duration)
    (fresh : client.router.balance.ledger = .empty lifetime) :
    Accounted [] (around client now) := by
  have ledger : (around client now).ledger = .empty lifetime := fresh
  constructor
  case sound =>
    rw [ledger]
    exact Ledger.sound_empty lifetime
  case known =>
    intro entry member
    cases member
  case counts =>
    intro handle
    rw [ledger]
    simp [Ledger.tally, Ledger.tally?, Ledger.empty]
    rfl
  case balanced => exact .nil
  case ordered =>
    intro handle earlier later split
    obtain ⟨rfl, rfl⟩ := List.append_eq_nil_iff.mp split.symm
    exact Nat.le_refl _

end Accounted

variable [Weight ω]

/-- What is written down of an event: the calls that it begins, ends or leaves. -/
def entries (world : World ω) : Event ω → List Entry
  | .answer place draw answer =>
    match world.roused? place answer with
    | some (ticket, task) => task.entries world.client.router (world.moment ticket draw) answer
    | none => []
  | .leave place =>
    match world.tasks[place]? with
    | some (ticket, task) => (task.running ticket).map .left
    | none => []
  | .pass _ | .request _ | .work .. | .dismiss | .adjust _ => []

/-- Each event keeps the accounts.

An answer replaces one task by what it has become, and a leaving caller drops one; there the
entries say what was counted. All other events are quiet: they begin and end no call, and the
ledger grows at most. -/
theorem step_accounted (written : List Entry) (world : World ω) (event : Event ω)
    (accounted : Accounted written world) :
    Accounted (written ++ world.entries event) (world.step event) := by
  cases event with
  | pass span => exact accounted.quiet (.refl _) rfl fun _ member => Or.inr member
  | request request =>
    have idle := request.attempt?_task
    refine accounted.quiet (.refl _) ?_ ?_
    · simp [step, running, Task.running, idle]
    · intro entry member
      rcases List.mem_append.mp member with old | new
      · exact Or.inr old
      · exact Or.inl (List.mem_singleton.mp new ▸ idle)
  | answer place draw answer =>
    simp only [entries, step]
    cases roused : world.roused? place answer with
    | none => exact accounted.quiet (.refl _) rfl fun _ member => Or.inr member
    | some entry =>
      obtain ⟨ticket, task⟩ := entry
      obtain ⟨found, await, waits, fits, _⟩ := world.roused?_eq_some place answer ticket task roused
      obtain ⟨before, after, tasks, replaced, _⟩ := split_at_place world.tasks place _ found
      have known := accounted.known (ticket, task) (by simp [tasks])
      have stepped := task.resume_accounted world.client (world.moment ticket draw) answer await
        waits fits accounted.sound known
      dsimp only
      rw [replaced]
      exact accounted.replaced before after ticket task _ tasks _ _ stepped
  | leave place =>
    simp only [entries, step]
    cases found : world.tasks[place]? with
    | none => exact accounted.quiet (.refl _) rfl fun _ member => Or.inr member
    | some entry =>
      obtain ⟨ticket, task⟩ := entry
      obtain ⟨before, after, tasks, _, dropped⟩ := split_at_place world.tasks place _ found
      dsimp only
      rw [dropped]
      exact accounted.left before after ticket task tasks _
        (task.balance_abandon world.client ticket)
  | work ticket draw answer =>
    simp only [entries, step]
    cases found : world.client.jobs.lookup ticket with
    | none => exact accounted.quiet (.refl _) rfl fun _ member => Or.inr member
    | some job =>
      have grown := job.grows_resume world.client.router (world.moment ticket draw) answer
      dsimp only
      split
      · refine accounted.quiet ?_ rfl fun _ member => Or.inr member
        simp only [ledger, Client.resumeJob, moment] at grown ⊢
        rw [found]
        exact grown
      · exact accounted.quiet (.refl _) rfl fun _ member => Or.inr member
  | dismiss => exact accounted.quiet (.refl _) rfl fun _ member => Or.inr member
  | adjust adjustment =>
    have grown := adjustment.grows_apply world.now world.client.router
    exact accounted.quiet grown rfl fun _ member => Or.inr member

/-- Every run keeps the accounts. -/
theorem run_accounted (client : Client ω) (now : Instant) (lifetime : Duration)
    (fresh : client.router.balance.ledger = .empty lifetime) (events : List (Event ω)) :
    Accounted ((around client now).observed entries events) ((around client now).run events) := by
  have start := Accounted.of_around client now lifetime fresh
  simpa only [List.nil_append] using
    observed_induction entries Accounted step_accounted [] (around client now) events start

/-- In every run in which no call is left, the calls that have begun are those that have
ended and those that are running, and every tally counts exactly the ones that began on
it: all of them, those that failed, the time of those that ended, and those that are
running.

By induction over the run each tally is what its entries make of a fresh one, and each call
that has begun has ended, runs or was left. Counters wrap around at 2^64; the running calls
stay below that at every moment, so their count is exact. -/
theorem tally_exact (client : Client ω) (now : Instant) (lifetime : Duration)
    (fresh : client.router.balance.ledger = .empty lifetime) (events : List (Event ω))
    (stayed : callsLeft ((around client now).observed entries events) = [])
    (few : ∀ handle earlier later,
      (around client now).observed entries events = earlier ++ later →
        (callsBegun earlier).countP (·.on handle) <
          (callsEnded earlier).countP (·.call.on handle) + 2 ^ 64) :
    let written := (around client now).observed entries events
    let world := (around client now).run events
    (callsBegun written).Perm ((callsEnded written).map Ending.call ++ world.running) ∧
      ∀ handle,
        (world.ledger.tally handle).total =
            UInt64.ofNat ((callsBegun written).countP (·.on handle)) ∧
          (world.ledger.tally handle).failed =
            UInt64.ofNat ((callsEnded written).countP fun ending =>
              ending.call.on handle && ending.failed) ∧
          (world.ledger.tally handle).latency =
            (((callsEnded written).filter (·.call.on handle)).map Ending.millis).sum ∧
          (world.ledger.tally handle).active.toNat = world.running.countP (·.on handle) ∧
          ((∀ entry ∈ world.tasks, entry.2.await? = none) →
            (world.ledger.tally handle).active = 0) := by
  intro written world
  have accounted : Accounted written world := run_accounted client now lifetime fresh events
  constructor
  · simpa only [stayed, written, List.append_nil] using accounted.balanced
  · intro handle
    have counts := accounted.counts handle
    obtain ⟨total, failed, latency⟩ := Tally.counters_foldl handle (.fresh 0) written
    have active := Tally.active_foldl handle 0 written (accounted.ordered handle) (few handle)
    have balanced := accounted.balanced_on handle
    rw [← counts] at total failed latency active
    rw [show callsLeft written = [] from stayed, List.countP_nil] at balanced
    have exact' :
        (world.ledger.tally handle).active.toNat = world.running.countP (·.on handle) := by
      simp only [Tally.undated] at active
      omega
    refine ⟨?_, ?_, ?_, exact', ?_⟩
    · simpa [Tally.undated, Tally.fresh] using total
    · simpa [Tally.undated, Tally.fresh] using failed
    · simpa [Tally.undated, Tally.fresh] using latency
    · intro finished
      rw [running_eq_nil world finished] at exact'
      exact UInt64.toNat_inj.mp exact'

/-- A client that holds a fresh list of one instance and has seen nothing else. -/
def lone : Client Float where
  settings := {}
  router := .plain "orders" [.ofAddress "orders" "10.0.0.1" 80] 0
  jobs := []
  stopped := []
  nextTicket := 0

/-- Two calls at the same time, of which the second one fails. -/
def twoCalls : List (Event Float) :=
  let draw : Draw Float := ⟨fun _ => 0, id⟩
  [.request (.invoke "orders" (.named "once")), .request (.invoke "orders" (.named "once")),
    .answer 0 draw .turn, .answer 1 draw .turn, .pass 3000000,
    .answer 1 draw (.work (.error .formatting)),
    .answer 0 draw (.work (.ok (.integer 7)))]

/-- The tally of the instance counts both, a failed one among them, and none that is
running; they took three milliseconds each. -/
theorem tally_exact_twoCalls :
    lone.router.balance.ledger = .empty .longest ∧
      callsLeft ((around lone 0).observed entries twoCalls) = [] ∧
      (((around lone 0).run twoCalls).ledger.tally 0).total = 2 ∧
      (((around lone 0).run twoCalls).ledger.tally 0).failed = 1 ∧
      (((around lone 0).run twoCalls).ledger.tally 0).latency = 6 ∧
      (((around lone 0).run twoCalls).ledger.tally 0).active = 0 := by
  have stayed : callsLeft ((around lone 0).observed entries twoCalls) = [] := by rfl
  have length : ((around lone 0).observed entries twoCalls).length = 4 := by rfl
  have begun : (callsBegun ((around lone 0).observed entries twoCalls)).countP (·.on 0) = 2 := by
    rfl
  have failures : ((callsEnded ((around lone 0).observed entries twoCalls)).countP
      fun ending => ending.call.on 0 && ending.failed) = 1 := by rfl
  have time : (((callsEnded ((around lone 0).observed entries twoCalls)).filter
      (·.call.on 0)).map Ending.millis).sum = 6 := by rfl
  have finished : ((around lone 0).run twoCalls).running.countP (·.on 0) = 0 := by rfl
  obtain ⟨_, counted⟩ := tally_exact lone 0 .longest rfl twoCalls stayed (by
    intro handle earlier later split
    -- Four entries are too few for a count to run over.
    have few : (callsBegun earlier).countP (·.on handle) ≤ earlier.length :=
      Nat.le_trans List.countP_le_length (List.length_filterMap_le _ _)
    rw [split, List.length_append] at length
    omega)
  obtain ⟨total, failed, latency, active, _⟩ := counted 0
  rw [begun] at total
  rw [failures] at failed
  rw [time] at latency
  rw [finished] at active
  exact ⟨rfl, stayed, total, failed, latency, UInt64.toNat_inj.mp (by rw [active]; rfl)⟩

end World

end CallRouting
