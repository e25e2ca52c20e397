import CallRouting.Routing.Router

/-!
# Background jobs

Two jobs can run beside the calls. One computes new weight tables, at once and then
after every interval; a tick that it misses is left out. The other loads the lists
of all known services anew, after every interval; ticks that pass while it is busy
are caught up one after the other.
-/

namespace CallRouting

/-- A job that runs beside the calls. -/
inductive Job
  /-- When the next round is due; nothing before the first. -/
  | aggregating (interval : Duration) (due : Option Instant)
  /-- When the next sweep is due, and the one that is going on. -/
  | refreshing (interval : Duration) (due : Option Instant) (sweep : Sweep)

/-- How late a tick may come before others are left out. -/
def tickTolerance : Nat := 5000000

/-- The tick after one that was due at some time and came now. Late ticks are left
out: the next one stands on the grid of the intervals. -/
def nextTick (due now interval : Nat) : Instant :=
  if due + tickTolerance < now then now + interval - (now - due) % interval else due + interval

namespace Job

variable {ω : Type} [Weight ω]

/-- What a job waits for. -/
def await : Job → Await
  | .aggregating _ none => .turn
  | .aggregating _ (some due) => .time due
  | .refreshing _ none _ => .turn
  | .refreshing _ (some due) sweep => (sweep.await?).getD (.time due)

/-- Whether a job computes weight tables. -/
def isAggregating : Job → Bool
  | .aggregating .. => true
  | .refreshing .. => false

/-- Go on at an answer. -/
def resume (job : Job) (router : Router ω) (moment : Moment ω) (answer : Answer) :
    Router ω × Job :=
  match job, answer with
  | .aggregating interval none, .turn =>
    ((router.aggregate moment.now).1, .aggregating interval (some (moment.now + interval.nanos)))
  | .aggregating interval (some due), .time =>
    ((router.aggregate moment.now).1,
      .aggregating interval (some (nextTick due moment.now interval.nanos)))
  | .refreshing interval none sweep, .turn =>
    (router, .refreshing interval (some (moment.now + interval.nanos)) sweep)
  | .refreshing interval (some due) .done, .time =>
    let (cache, sweep) := Sweep.asked.resume router.cache moment.now moment.ticket .turn
    ({ router with cache }, .refreshing interval (some (due + interval.nanos)) sweep)
  | .refreshing interval (some due) sweep, answer =>
    let (cache, sweep) := sweep.resume router.cache moment.now moment.ticket answer
    ({ router with cache }, .refreshing interval (some due) sweep)
  | job, _ => (router, job)

/-- Stop for good. -/
def abandon (job : Job) (cache : Cache) (ticket : Ticket) : Cache :=
  match job with
  | .aggregating .. => cache
  | .refreshing _ _ sweep => sweep.abandon cache ticket

end Job

end CallRouting
