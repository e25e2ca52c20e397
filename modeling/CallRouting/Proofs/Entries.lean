import CallRouting.Proofs.Course
import CallRouting.Proofs.Growth
import Mathlib.Data.List.Induction
import Mathlib.Data.UInt

/-!
# The entries of calls

What is written down of the calls of many callers, in one list: each attempt that
begins, how it ends, and that its caller has gone away. The counters of a tally are told
from this list. Three of them only grow and are sums over it; the count of running calls
is what has begun and not ended.

A ledger books entries if afterwards every tally is what they make of it. Starting a
call and closing it each book one entry, on the tally that was obtained at the start.
-/

namespace CallRouting

/-- An attempt of the task with a ticket. -/
structure Call where
  ticket : Ticket
  attempt : Attempt

/-- Whether a call counts on a tally. -/
def Call.on (handle : Handle) (call : Call) : Bool := decide (call.attempt.handle = handle)

/-- How a call has ended. -/
structure Ending where
  call : Call
  policy : RetryPolicy
  outcome : Except Failure Reply
  now : Instant

/-- Whether a call has ended in a failure, or in a reply that its policy wants to retry. -/
def Ending.failed (ending : Ending) : Bool :=
  match ending.outcome with
  | .ok reply => ending.policy.retriesReply reply
  | .error _ => true

/-- A call has failed unless its policy accepts how it has ended. -/
theorem Ending.failed_eq (ending : Ending) :
    ending.failed = !ending.policy.accepts ending.outcome := by
  obtain ⟨call, policy, outcome, now⟩ := ending
  cases outcome with
  | ok reply => exact (Bool.not_not _).symm
  | error failure => rfl

/-- How long a call has taken. -/
def Ending.millis (ending : Ending) : UInt64 :=
  elapsedMillis ending.call.attempt.startedAt ending.now

/-- What happens to a call. -/
inductive Entry
  | begun (call : Call)
  | ended (ending : Ending)
  /-- A caller has gone away while an attempt was running. -/
  | left (call : Call)

/-- What a note means for the statistics: only attempts count. -/
def Note.entry? (ticket : Ticket) (policy : RetryPolicy) : Note → Option Entry
  | .engaged _ _ attempt => some (.begun ⟨ticket, attempt⟩)
  | .ended attempt outcome now => some (.ended ⟨⟨ticket, attempt⟩, policy, outcome, now⟩)
  | .selecting .. | .refused _ => none

/-- The calls that have begun, and how those that are over have ended. -/
def callsBegun (entries : List Entry) : List Call :=
  entries.filterMap fun
    | .begun call => some call
    | _ => none

/-- How the calls have ended, in the order of the ends. -/
def callsEnded (entries : List Entry) : List Ending :=
  entries.filterMap fun
    | .ended ending => some ending
    | _ => none

/-- The calls that were left by their callers. -/
def callsLeft (entries : List Entry) : List Call :=
  entries.filterMap fun
    | .left call => some call
    | _ => none

/-- The calls that begin in two parts are those of each part. -/
theorem callsBegun_append (entries added : List Entry) :
    callsBegun (entries ++ added) = callsBegun entries ++ callsBegun added :=
  List.filterMap_append

/-- The calls that end in two parts are those of each part. -/
theorem callsEnded_append (entries added : List Entry) :
    callsEnded (entries ++ added) = callsEnded entries ++ callsEnded added :=
  List.filterMap_append

/-- The calls that are left in two parts are those of each part. -/
theorem callsLeft_append (entries added : List Entry) :
    callsLeft (entries ++ added) = callsLeft entries ++ callsLeft added :=
  List.filterMap_append

/-- Calls that are left neither begin nor end with that. -/
theorem calls_left (calls : List Call) :
    callsBegun (calls.map .left) = [] ∧ callsEnded (calls.map .left) = [] ∧
      callsLeft (calls.map .left) = calls := by
  refine ⟨?_, ?_, ?_⟩
  · simp [callsBegun, List.filterMap_map]
  · simp [callsEnded, List.filterMap_map]
  · rw [callsLeft, List.filterMap_map]
    exact List.filterMap_some

namespace Tally

/-- What an entry makes of the tally behind a handle. -/
def enter (handle : Handle) (tally : Tally) : Entry → Tally
  | .begun call => if call.on handle then tally.started else tally
  | .ended ending =>
    if ending.call.on handle then
      if ending.failed then tally.failedAfter ending.millis else tally.succeeded ending.millis
    else tally
  | .left _ => tally

/-- When a tally was created does not matter for its counts. -/
theorem undated_enter (handle : Handle) (tally : Tally) (entry : Entry) :
    (tally.enter handle entry).undated = tally.undated.enter handle entry := by
  cases entry with
  | begun call =>
    simp only [enter]
    split <;> rfl
  | ended ending =>
    simp only [enter]
    split
    · split <;> rfl
    · rfl
  | left call => rfl

/-- Calls that are left change no tally. -/
theorem foldl_left (handle : Handle) (tally : Tally) (calls : List Call) :
    (calls.map Entry.left).foldl (enter handle) tally = tally := by
  induction calls with
  | nil => rfl
  | cons call rest inductionHypothesis => exact inductionHypothesis

/-- What an entry adds to the counters that only grow. -/
theorem counters_enter (handle : Handle) (tally : Tally) (entry : Entry) :
    (tally.enter handle entry).total =
        tally.total + UInt64.ofNat ((callsBegun [entry]).countP (·.on handle)) ∧
      (tally.enter handle entry).failed =
        tally.failed + UInt64.ofNat ((callsEnded [entry]).countP fun ending =>
          ending.call.on handle && ending.failed) ∧
      (tally.enter handle entry).latency =
        tally.latency +
          (((callsEnded [entry]).filter (·.call.on handle)).map Ending.millis).sum := by
  cases entry with
  | begun call =>
    cases here : call.on handle <;> simp [enter, callsBegun, callsEnded, here, started]
  | ended ending =>
    cases here : ending.call.on handle <;> cases failure : ending.failed <;>
      simp [enter, callsBegun, callsEnded, here, failure, succeeded, failedAfter, ended]
  | left call => simp [enter, callsBegun, callsEnded]

/-- The counters that only grow are sums over the entries.

By induction on the entries; the counters of 64 bits add up whether or not they run over. -/
theorem counters_foldl (handle : Handle) (tally : Tally) (entries : List Entry) :
    (entries.foldl (enter handle) tally).total =
        tally.total + UInt64.ofNat ((callsBegun entries).countP (·.on handle)) ∧
      (entries.foldl (enter handle) tally).failed =
        tally.failed + UInt64.ofNat ((callsEnded entries).countP fun ending =>
          ending.call.on handle && ending.failed) ∧
      (entries.foldl (enter handle) tally).latency =
        tally.latency +
          (((callsEnded entries).filter (·.call.on handle)).map Ending.millis).sum := by
  induction entries generalizing tally with
  | nil => simp [callsBegun, callsEnded]
  | cons entry rest inductionHypothesis =>
    obtain ⟨total, failed, latency⟩ := inductionHypothesis (tally.enter handle entry)
    obtain ⟨totalOne, failedOne, latencyOne⟩ := tally.counters_enter handle entry
    have split : entry :: rest = [entry] ++ rest := rfl
    rw [List.foldl_cons, total, failed, latency, totalOne, failedOne, latencyOne, split,
      callsBegun_append, callsEnded_append]
    simp only [List.countP_append, List.filter_append, List.map_append, List.sum_append,
      UInt64.ofNat_add, UInt64.add_assoc, and_self]

/-- The count of running calls is what has begun and not ended, as long as no call ends
that has not begun and the count fits its word.

By induction over the entries from the front. The bounds on all beginnings keep the counter
from wrapping around at a start, and from stopping at zero at an end. -/
theorem active_foldl (handle : Handle) (now : Instant) (entries : List Entry)
    (ordered : ∀ earlier later, entries = earlier ++ later →
      (callsEnded earlier).countP (·.call.on handle) ≤ (callsBegun earlier).countP (·.on handle))
    (few : ∀ earlier later, entries = earlier ++ later →
      (callsBegun earlier).countP (·.on handle) <
        (callsEnded earlier).countP (·.call.on handle) + 2 ^ 64) :
    (entries.foldl (enter handle) (.fresh now)).active.toNat +
        (callsEnded entries).countP (·.call.on handle) =
      (callsBegun entries).countP (·.on handle) := by
  induction entries using List.reverseRecOn with
  | nil => rfl
  | append_singleton entries entry inductionHypothesis =>
    have before := inductionHypothesis
      (fun earlier later split => ordered earlier (later ++ [entry]) (by simp [split]))
      (fun earlier later split => few earlier (later ++ [entry]) (by simp [split]))
    have orderedNow := ordered (entries ++ [entry]) [] (List.append_nil _).symm
    have fewNow := few (entries ++ [entry]) [] (List.append_nil _).symm
    simp only [List.foldl_append, List.foldl_cons, List.foldl_nil, callsBegun_append,
      callsEnded_append, List.countP_append] at orderedNow fewNow ⊢
    generalize entries.foldl (enter handle) (.fresh now) = tally at before ⊢
    cases entry with
    | left call => exact before
    | begun call =>
      cases here : call.on handle with
      | false => simpa [enter, callsBegun, callsEnded, here] using before
      | true =>
        have one : (callsBegun [.begun call]).countP (·.on handle) = 1 := by
          simp [callsBegun, here]
        have none : (callsEnded [.begun call]).countP (·.call.on handle) = 0 := rfl
        have started : tally.enter handle (.begun call) = tally.started := if_pos here
        rw [one, none] at fewNow ⊢
        have room : tally.active.toNat + 1 < 2 ^ 64 := by omega
        have counted : tally.started.active.toNat = tally.active.toNat + 1 := by
          rw [Tally.started, UInt64.toNat_add, UInt64.toNat_one, Nat.mod_eq_of_lt room]
        rw [started, counted]
        omega
    | ended ending =>
      cases here : ending.call.on handle with
      | false => simpa [enter, callsBegun, callsEnded, here] using before
      | true =>
        have none : (callsBegun [.ended ending]).countP (·.on handle) = 0 := rfl
        have one : (callsEnded [.ended ending]).countP (·.call.on handle) = 1 := by
          simp [callsEnded, here]
        have counted : (tally.enter handle (.ended ending)).active.toNat =
            tally.active.toNat - 1 := by
          simp only [enter, here, if_true]
          split
          · exact tally.active_ended ending.millis
          · exact tally.active_ended ending.millis
        rw [one, none] at orderedNow ⊢
        rw [counted]
        omega

end Tally

namespace Ledger

variable {ω : Type}

/-- A ledger that books entries: every tally is afterwards what the entries make of it. -/
structure Books (before : Ledger ω) (entries : List Entry) (after : Ledger ω) : Prop where
  size_le : before.tallies.size ≤ after.tallies.size
  counts : ∀ handle, (after.tally handle).undated =
    entries.foldl (Tally.enter handle) (before.tally handle).undated
  sound : after.Sound

/-- A ledger that grows counts nothing, so it books the empty list of entries. -/
theorem Grows.books {before after : Ledger ω} (grown : before.Grows after)
    (sound : before.Sound) : before.Books [] after :=
  ⟨grown.size_le, grown.counts, grown.sound sound⟩

/-- What is booked one after the other is booked together. -/
theorem Books.trans {first second third : Ledger ω} {entries added : List Entry}
    (before : first.Books entries second) (after : second.Books added third) :
    first.Books (entries ++ added) third where
  size_le := Nat.le_trans before.size_le after.size_le
  counts handle := by rw [after.counts, before.counts, List.foldl_append]
  sound := after.sound

/-- Changing a tally that is there changes no other one. -/
theorem tally_change (ledger : Ledger ω) (handle other : Handle) (update : Tally → Tally)
    (there : handle < ledger.tallies.size) :
    (ledger.change handle update).tally other =
      if handle = other then update (ledger.tally other) else ledger.tally other := by
  unfold tally
  rw [tally?_change]
  by_cases same : handle = other
  · subst same
    have found : ledger.tally? handle = some ledger.tallies[handle] :=
      Array.getElem?_eq_getElem there
    simp [found]
  · simp [same]

/-- A change of a tally that is there books an entry that means this change.

The entry must mean nothing for any other tally, since the change is of that one alone. -/
theorem books_change (ledger : Ledger ω) (handle : Handle) (update : Tally → Tally) (entry : Entry)
    (there : handle < ledger.tallies.size) (sound : ledger.Sound)
    (here : ∀ tally : Tally, tally.enter handle entry = update tally)
    (elsewhere : ∀ other tally, handle ≠ other → Tally.enter other tally entry = tally) :
    ledger.Books [entry] (ledger.change handle update) := by
  have size : (ledger.change handle update).tallies.size = ledger.tallies.size := by
    simp [change]
  constructor
  case size_le => exact Nat.le_of_eq size.symm
  case counts =>
    intro other
    rw [tally_change ledger handle other update there, List.foldl_cons, List.foldl_nil,
      ← Tally.undated_enter]
    by_cases same : handle = other
    · subst same
      rw [if_pos rfl, here]
    · rw [if_neg same, elsewhere other _ same]
  case sound =>
    intro service key found led
    rw [size]
    exact sound service key found led

/-- A call that starts books its beginning, on the tally whose handle it keeps.

To find or open the tally books nothing; then it counts one more start. -/
theorem books_beforeCall (ledger : Ledger ω) (sound : ledger.Sound) (now : Instant) (x : Instance)
    (ticket : Ticket) :
    ledger.Books [.begun ⟨ticket, x, (ledger.beforeCall now x).2, now⟩]
        (ledger.beforeCall now x).1 ∧
      (ledger.beforeCall now x).2 < (ledger.beforeCall now x).1.tallies.size := by
  obtain ⟨grown, there⟩ := ledger.grows_access now x.service x
  have there := there sound
  have opened := grown.books sound
  unfold beforeCall tallyOf
  generalize ledger.access now x.service x = accessed at there opened
  obtain ⟨accessed, handle⟩ := accessed
  refine ⟨opened.trans ?_, by simpa [change] using there⟩
  refine accessed.books_change handle _ _ there opened.sound ?_ ?_
  · intro tally
    simp [Tally.enter, Call.on]
  · intro other tally differs
    simp [Tally.enter, Call.on, differs]

end Ledger

/-- Closing the statistics of an attempt books its end. -/
theorem Invocation.books_account {ω : Type} (router : Router ω) (policy : RetryPolicy)
    (attempt : Attempt) (now : Instant) (outcome : Except Failure Reply) (ticket : Ticket)
    (sound : router.balance.ledger.Sound)
    (there : attempt.handle < router.balance.ledger.tallies.size) :
    router.balance.ledger.Books [.ended ⟨⟨ticket, attempt⟩, policy, outcome, now⟩]
      (account router policy attempt now outcome).balance.ledger := by
  -- The attempt is closed on its handle, as a success or a failure, with the time that it has
  -- taken.
  have change : (account router policy attempt now outcome).balance.ledger =
      router.balance.ledger.change attempt.handle fun tally =>
        if policy.accepts outcome then tally.succeeded (elapsedMillis attempt.startedAt now)
        else tally.failedAfter (elapsedMillis attempt.startedAt now) := by
    unfold account
    cases policy.accepts outcome <;> rfl
  rw [change]
  refine router.balance.ledger.books_change attempt.handle _ _ there sound ?_ ?_
  · intro tally
    cases accepted : policy.accepts outcome <;>
      simp [Tally.enter, Call.on, Ending.failed_eq, Ending.millis, accepted]
  · intro other tally differs
    simp [Tally.enter, Call.on, differs]

end CallRouting
