import CallRouting.Proofs.Entries
import CallRouting.Simulation

/-!
# The account of one task

When a task goes on, it closes at most the attempt that was running, and opens at most
the one that is running afterwards; whatever else it does changes no count. So a step is
accounted for by its entries: the tallies are what these make of them, and what has begun
with what was running is what has ended with what is running.

An invocation may close one attempt and open the next at a single answer. Its steps are
therefore put together from two parts: the end of an attempt, and a selection that
`Opens` what it leads to.
-/

namespace CallRouting

namespace Task

variable {ω : Type}

/-- The call that a task is about, if its attempt is running. -/
def running (ticket : Ticket) (task : Task) : List Call :=
  (task.attempt?.map fun entry => (⟨ticket, entry.2⟩ : Call)).toList

/-- The tally of a running attempt is there. -/
def Known (task : Task) (ledger : Ledger ω) : Prop :=
  ∀ number attempt, task.attempt? = some (number, attempt) → attempt.handle < ledger.tallies.size

/-- The attempt of a task that is an invocation. -/
theorem attempt?_invoking (invocation : Invocation) :
    (Task.invoking invocation).attempt? =
      match invocation.phase with
      | .working attempt => some (invocation.ended + 1, attempt)
      | _ => none := by
  obtain ⟨service, policy, ended, failed, phase⟩ := invocation
  cases phase <;> rfl

/-- Who manages the client has no attempt under way. -/
theorem Managing.attempt?_eq_none {task : Task} (managing : task.Managing) :
    task.attempt? = none := by
  cases task <;> first
    | rfl
    | exact managing.elim

/-- How a step of a task is accounted for that closes no attempt. -/
structure Opens (ticket : Ticket) (ledger : Ledger ω) (entries : List Entry) (after : Ledger ω)
    (next : Task) : Prop where
  books : ledger.Books entries after
  known : next.Known after
  begun : callsBegun entries = next.running ticket
  ended : callsEnded entries = []
  left : callsLeft entries = []

/-- How a step of a task is accounted for: it closes at most the attempt that is running,
and opens the one that is running afterwards. -/
structure Accounted (ticket : Ticket) (task : Task) (ledger : Ledger ω) (entries : List Entry)
    (after : Ledger ω) (next : Task) : Prop where
  books : ledger.Books entries after
  known : next.Known after
  balanced : (callsBegun entries ++ task.running ticket).Perm
    ((callsEnded entries).map Ending.call ++ next.running ticket)
  ended : ((callsEnded entries).map Ending.call).Sublist (task.running ticket)
  left : callsLeft entries = []

variable {ticket : Ticket} {ledger after : Ledger ω} {entries : List Entry} {next : Task}

/-- A ledger that only grows opens nothing for a task that has no attempt running then. -/
theorem Opens.nothing (grown : ledger.Grows after) (sound : ledger.Sound)
    (idle : next.attempt? = none) : Opens ticket ledger [] after next := by
  refine ⟨grown.books sound, ?_, ?_, rfl, rfl⟩
  · intro number attempt running
    rw [idle] at running
    cases running
  · simp [running, idle, callsBegun]

/-- A step from which nothing was running is accounted for. -/
theorem Opens.accounted (opens : Opens ticket ledger entries after next) (task : Task)
    (idle : task.attempt? = none) : task.Accounted ticket ledger entries after next := by
  have rest : task.running ticket = [] := by simp [running, idle]
  refine ⟨opens.books, opens.known, ?_, ?_, opens.left⟩
  · rw [opens.begun, opens.ended, rest, List.append_nil]
    exact .refl _
  · rw [opens.ended]
    exact List.nil_sublist _

/-- The end of the running attempt is accounted for, together with what comes after. -/
theorem Opens.accounted_ended {middle : Ledger ω} (opens : Opens ticket middle entries after next)
    (task : Task) (number : Nat) (attempt : Attempt)
    (running : task.attempt? = some (number, attempt)) (policy : RetryPolicy)
    (outcome : Except Failure Reply) (now : Instant)
    (closed : ledger.Books [.ended ⟨⟨ticket, attempt⟩, policy, outcome, now⟩] middle) :
    task.Accounted ticket ledger (.ended ⟨⟨ticket, attempt⟩, policy, outcome, now⟩ :: entries) after
      next := by
  have busy : task.running ticket = [⟨ticket, attempt⟩] := by simp [Task.running, running]
  have ended : callsEnded (.ended ⟨⟨ticket, attempt⟩, policy, outcome, now⟩ :: entries) =
      [⟨⟨ticket, attempt⟩, policy, outcome, now⟩] := by
    change _ :: callsEnded entries = _
    rw [opens.ended]
  refine ⟨closed.trans opens.books, opens.known, ?_, ?_, opens.left⟩
  · rw [ended, busy]
    change (callsBegun entries ++ _).Perm _
    rw [opens.begun]
    exact List.perm_append_comm
  · rw [ended, busy]
    exact .refl _

end Task

namespace Invocation

variable {ω : Type} [Weight ω]

/-- A selection that goes on closes no attempt, and opens the one that it leads to.

The choice may open tallies, which count nothing; the call is booked on the tally that it is
opened on. -/
theorem Advanced.opens {invocation : Invocation} {router : Router ω} {moment : Moment ω}
    {selection : Selection} {after : Router ω × Invocation} {noted : List Note}
    (advanced : invocation.Advanced router moment selection after noted) (ticket : Ticket)
    (sound : router.balance.ledger.Sound) :
    Task.Opens ticket router.balance.ledger (noted.filterMap (Note.entry? ticket invocation.policy))
      after.1.balance.ledger (.invoking after.2) := by
  have grown := router.balance.grows_choose (selection.settled router) moment.draw moment.now
    selection.service
  cases advanced with
  | looking cache lookup waits nearer => exact .nothing (.refl _) sound rfl
  | refused cache instances balance choice =>
    have grown := grown (avoiding (router.candidates instances) selection.failed)
    rw [choice] at grown
    exact .nothing grown sound rfl
  | engaged cache instances balance x choice ledger handle opened =>
    have grown := grown (avoiding (router.candidates instances) selection.failed)
    rw [choice] at grown
    have chosen := grown.books sound
    obtain ⟨booked, there⟩ :=
      balance.ledger.books_beforeCall chosen.sound moment.now x ticket
    rw [opened] at booked there
    refine ⟨chosen.trans booked, ?_, rfl, rfl, rfl⟩
    rintro number attempt ⟨⟩
    exact there

/-- Each step of an invocation is accounted for.

An attempt that ends is closed in the ledger and in the entries; a selection that chooses opens
one in both; and a step with both does one after the other. -/
theorem Step.accounted {invocation : Invocation} {router : Router ω} {moment : Moment ω}
    {answer : Answer} {after : Router ω × Invocation} {noted : List Note}
    (step : invocation.Step router moment answer after noted) (ticket : Ticket)
    (sound : router.balance.ledger.Sound)
    (known : (Task.invoking invocation).Known router.balance.ledger) :
    (Task.invoking invocation).Accounted ticket router.balance.ledger
      (noted.filterMap (Note.entry? ticket invocation.policy)) after.1.balance.ledger
      (.invoking after.2) := by
  have attempt?_eq := Task.attempt?_invoking invocation
  cases step with
  | select selection answer after noted phase advanced =>
    rw [phase] at attempt?_eq
    unfold Selection.opening
    split <;> exact (advanced.opens ticket sound).accounted _ attempt?_eq
  | finish attempt outcome result phase verdict =>
    rw [phase] at attempt?_eq
    have closed := books_account router invocation.policy attempt moment.now outcome ticket sound
      (known _ _ attempt?_eq)
    exact (Task.Opens.nothing (.refl _) closed.sound rfl).accounted_ended _ _ _ attempt?_eq
      _ _ _ closed
  | rest attempt outcome phase verdict positive =>
    rw [phase] at attempt?_eq
    have closed := books_account router invocation.policy attempt moment.now outcome ticket sound
      (known _ _ attempt?_eq)
    exact (Task.Opens.nothing (.refl _) closed.sound rfl).accounted_ended _ _ _ attempt?_eq
      _ _ _ closed
  | again attempt outcome after noted phase verdict zero advanced =>
    rw [phase] at attempt?_eq
    have closed := books_account router invocation.policy attempt moment.now outcome ticket sound
      (known _ _ attempt?_eq)
    exact (advanced.opens ticket closed.sound).accounted_ended _ _ _ attempt?_eq _ _ _ closed
  | wake due after noted phase advanced =>
    rw [phase] at attempt?_eq
    exact (advanced.opens ticket sound).accounted _ attempt?_eq

end Invocation

namespace Task

variable {ω : Type} [Weight ω]

/-- What is written down when a task goes on. -/
def entries (task : Task) (router : Router ω) (moment : Moment ω) (answer : Answer) : List Entry :=
  match task with
  | .invoking invocation =>
    (invocation.notes router moment answer).filterMap
      (Note.entry? moment.ticket invocation.policy)
  | _ => []

/-- Each step of a task is accounted for.

Only invocations have attempts. A choice for a caller may open tallies, and no other task moves
the ledger. -/
theorem resume_accounted (task : Task) (client : Client ω) (moment : Moment ω) (answer : Answer)
    (await : Await) (waits : task.await? = some await) (fits : answer.fits await = true)
    (sound : client.router.balance.ledger.Sound)
    (known : task.Known client.router.balance.ledger) :
    task.Accounted moment.ticket client.router.balance.ledger
      (task.entries client.router moment answer)
      (task.resume client moment answer).1.router.balance.ledger
      (task.resume client moment answer).2 := by
  have same := Ledger.Grows.refl client.router.balance.ledger
  cases task with
  | invoking invocation =>
    have step := invocation.resume_step client.router moment answer await waits fits
    exact step.accounted moment.ticket sound known
  | choosing selection =>
    have progress := selection.resume_progress client.router moment answer await waits fits
    simp only [resume, entries]
    generalize selection.resume client.router moment answer = after at progress ⊢
    generalize selection.offered? client.router moment answer = offered at progress
    cases progress with
    | looking cache lookup waits nearer => exact (Opens.nothing same sound rfl).accounted _ rfl
    | chosen cache instances balance picked choice =>
      have grown := client.router.balance.grows_choose (selection.settled client.router) moment.draw
        moment.now selection.service
        (avoiding (client.router.candidates instances) selection.failed)
      rw [choice] at grown
      exact (Opens.nothing grown sound rfl).accounted _ rfl
  | looking lookup => exact (Opens.nothing same sound rfl).accounted _ rfl
  | sweeping sweep => exact (Opens.nothing same sound rfl).accounted _ rfl
  | _ =>
    rw [router_resume]
    · refine (Opens.nothing same sound (Managing.attempt?_eq_none ?_)).accounted _ rfl
      exact managing_resume _ client moment answer trivial
    · exact trivial

end Task

end CallRouting
