import CallRouting.Proofs.Readings
import CallRouting.Proofs.Tables

/-!
# What average latencies are made of

A table of weights is computed from the averages of the tallies to which the book of its
service leads. A call is counted on the tally to which the book of its target's own
service leads. So the average of an instance in the book of a service is made of the calls
to instances that carry this identity and the name of this service, and of no others: of
those that have begun since the tally was opened.

These are the calls of the service itself as long as every call goes to an instance that
carries the name under which it was called.
-/

namespace CallRouting

deriving instance DecidableEq for Registry

deriving instance DecidableEq for Instance

deriving instance DecidableEq for Attempt

deriving instance DecidableEq for Call

variable {ω : Type} [Weight ω]

/-- The time that some calls have taken, as far as they have ended, by their number. -/
def meanLatency (calls : List Call) (endings : List Ending) : ω :=
  let count := UInt64.ofNat calls.length
  if count = 0 then 0
  else Weight.quotient ((endings.filter (·.call ∈ calls)).map Ending.millis).sum count

namespace Ledger

/-- The average latency of an instance in the book of a service. -/
def averageOf (ledger : Ledger ω) (now : Instant) (service : String) (key : Identity) : ω :=
  match ledger.current? now service key with
  | some handle => (ledger.tally handle).average
  | none => 0

/-- The average of an instance in a book is that of the counts which the book holds of it. -/
theorem averageOf_eq (ledger : Ledger ω) (now : Instant) (service : String) (key : Identity) :
    ledger.averageOf now service key = (ledger.counted now service key).average := by
  unfold averageOf counted
  cases ledger.current? now service key with
  | some handle => rfl
  | none => exact (if_pos rfl).symm

/-- Moves that change no tally change no average of the same instant. -/
theorem Moves.averageOf {now : Instant} {about : String → Prop} {before after : Ledger ω}
    (moves : Moves now about (fun _ => False) before after) (sound : before.Sound) :
    after.Sound ∧ ∀ service key,
      after.averageOf now service key = before.averageOf now service key := by
  refine ⟨moves.sound sound, ?_⟩
  intro service key
  rw [averageOf_eq, averageOf_eq, moves.counted]

/-- The averages that a table is computed from are those in the book.

To read one may open a tally for an instance without one; that reads as nothing counted, before
and after. -/
theorem averages_snd (ledger : Ledger ω) (sound : ledger.Sound) (now : Instant) (service : String)
    (candidates : List Instance) :
    (ledger.averages now service candidates).2 =
      candidates.map fun x => ledger.averageOf now service x.identity := by
  induction candidates generalizing ledger with
  | nil => rfl
  | cons x rest inductionHypothesis =>
    have accessed : Moves now (fun _ => True) (fun _ => False) ledger
        (ledger.access now service x).1 := (ledger.moves_access service x trivial).1
    obtain ⟨soundNext, same⟩ := accessed.averageOf sound
    have average : ((ledger.access now service x).1.tally (ledger.access now service x).2).average =
        ledger.averageOf now service x.identity := by
      rw [averageOf_eq, ← undated_access]
      rfl
    simp only [averages, List.map_cons, average, inductionHypothesis _ soundNext, same]

/-- The table's candidates stand with the averages that the book has for them. -/
theorem weighed_eq (ledger : Ledger ω) (sound : ledger.Sound) (now : Instant) (service : String)
    (candidates : List Instance) :
    ledger.weighed now service candidates =
      candidates.map fun x => (x, ledger.averageOf now service x.identity) := by
  rw [weighed, averages_snd ledger sound]
  rw [List.zip_eq_zipWith, List.zipWith_map_right, List.zipWith_self]

/-- What a round computes for a service, it computes from the averages in its book.

The services are served in turn. To serve one before changes no average, and neither does the
purge right before the table is computed. -/
theorem averages_of_mem_round (now : Instant) (candidates : String → Option (List Instance))
    (ledger : Ledger ω) (sound : ledger.Sound) (services : List String) (service : String)
    (weighed : List (Instance × ω))
    (member : .computed service weighed ∈ roundWeighings now candidates ledger services)
    (x : Instance) (average : ω) (inside : (x, average) ∈ weighed) :
    average = ledger.averageOf now service x.identity := by
  induction services generalizing ledger with
  | nil => cases member
  | cons other rest inductionHypothesis =>
    rcases List.mem_append.mp member with here | later
    · have purged : Moves now (fun _ => True) (fun _ => False) ledger (ledger.purge now other) :=
        .purge ledger other trivial
      obtain ⟨soundNext, same⟩ := purged.averageOf sound
      have found := Option.mem_toList.mp here
      split at found <;> cases found
      rw [weighed_eq _ soundNext] at inside
      obtain ⟨y, _, entry⟩ := List.mem_map.mp inside
      cases entry
      exact same service x.identity
    · have served : Moves now (fun _ => True) (fun _ => False) ledger
          (ledger.serve now candidates other) := ledger.moves_serve candidates other trivial
      obtain ⟨soundNext, same⟩ := served.averageOf sound
      exact (inductionHypothesis _ soundNext later).trans (same service x.identity)

/-- A ledger in which no two entries of the books lead to one tally. -/
structure Distinct (ledger : Ledger ω) : Prop where
  sound : ledger.Sound
  one : ∀ service other key identity handle, ledger.Leads service key handle →
    ledger.Leads other identity handle → service = other ∧ key = identity

omit [Weight ω] in
/-- A new ledger is distinct: its books are empty. -/
theorem Distinct.empty (lifetime : Duration) : (Ledger.empty lifetime : Ledger ω).Distinct :=
  ⟨sound_empty lifetime, fun _ _ _ _ _ led => nomatch led⟩

omit [Weight ω] in
/-- A ledger that leads no further than another one, to as many tallies, is distinct with it. -/
theorem Distinct.of_leads {first second : Ledger ω} (distinct : first.Distinct)
    (size : first.tallies.size = second.tallies.size)
    (leads : ∀ service key handle, second.Leads service key handle →
      first.Leads service key handle) : second.Distinct where
  sound service key handle led := size ▸ distinct.sound service key handle (leads _ _ _ led)
  one service other key identity handle led ledToo :=
    distinct.one service other key identity handle (leads _ _ _ led) (leads _ _ _ ledToo)

omit [Weight ω] in
/-- No move makes two entries lead to one tally: an entry that comes in leads to a tally that
is opened with it. -/
theorem Moves.distinct {now : Instant} {about : String → Prop} {on : Handle → Prop}
    {before after : Ledger ω} (moves : Moves now about on before after)
    (distinct : before.Distinct) : after.Distinct := by
  induction moves with
  | refl ledger => exact distinct
  | trans first second before after => exact after (before distinct)
  | openBook ledger other ours =>
    refine distinct.of_leads rfl fun service key handle led => ?_
    rwa [Leads, book_openBook] at led
  | purge ledger other ours =>
    refine distinct.of_leads rfl fun service key handle led => ?_
    rw [Leads, find?_purge] at led
    split at led
    · exact (Option.filter_eq_some_iff.mp led).1
    · exact led
  | tabulate ledger other table ours =>
    refine distinct.of_leads rfl fun service key handle led => ?_
    rw [Leads, book_tabulate] at led
    split at led <;> exact led
  | change ledger handle update ours keeps =>
    exact distinct.of_leads (by simp [Ledger.change]) fun service key handle led => led
  | openTally ledger opened identity ours missing =>
    refine ⟨(ledger.grows_openTally now opened identity).sound distinct.sound, ?_⟩
    intro service other key shared handle led ledToo
    -- Two entries share the tally that is opened only if both are the one that comes in: all others
    -- lead to tallies that were there.
    rw [Leads, find?_openTally] at led ledToo
    split at led
    · rename_i here
      obtain rfl := Option.some.inj led
      split at ledToo
      · rename_i there
        exact ⟨here.1.symm.trans there.1, here.2.symm.trans there.2⟩
      · exact absurd (distinct.sound _ _ _ ledToo) (Nat.lt_irrefl _)
    · split at ledToo
      · obtain rfl := Option.some.inj ledToo
        exact absurd (distinct.sound _ _ _ led) (Nat.lt_irrefl _)
      · exact distinct.one service other key shared handle led ledToo

end Ledger

namespace Invocation

/-- When an invocation begins an attempt, the book of the target's service leads to the tally of
the attempt, which was found there or has just been opened. -/
theorem Advanced.leads {invocation : Invocation} {router : Router ω} {moment : Moment ω}
    {selection : Selection} {after : Router ω × Invocation} {noted : List Note}
    (advanced : invocation.Advanced router moment selection after noted)
    (candidates : List Instance) (number : Nat) (attempt : Attempt)
    (engaged : .engaged candidates number attempt ∈ noted) :
    after.1.balance.ledger.Leads attempt.target.service attempt.target.identity attempt.handle := by
  cases advanced with
  | looking cache lookup waits nearer => cases engaged
  | refused cache instances balance choice => simp at engaged
  | engaged cache instances balance x choice ledger handle opened =>
    have free : Ledger.Free (fun _ => True) (fun _ => True) balance.ledger :=
      ⟨fun _ _ _ _ _ => trivial, fun _ _ => trivial⟩
    have leads : (balance.ledger.beforeCall moment.now x).1.Leads x.service x.identity
        (balance.ledger.beforeCall moment.now x).2 :=
      (balance.ledger.moves_beforeCall free x trivial).2
    rw [opened] at leads
    obtain ⟨_, _, rfl⟩ := Note.engaged.inj (List.mem_singleton.mp engaged)
    exact leads

/-- The attempt that a step of an invocation engages is counted in a tally to which the book of
its target leads then. -/
theorem Step.leads {invocation : Invocation} {router : Router ω} {moment : Moment ω}
    {answer : Answer} {after : Router ω × Invocation} {noted : List Note}
    (step : invocation.Step router moment answer after noted) (candidates : List Instance)
    (number : Nat) (attempt : Attempt) (engaged : .engaged candidates number attempt ∈ noted) :
    after.1.balance.ledger.Leads attempt.target.service attempt.target.identity attempt.handle := by
  cases step with
  | select selection answer after noted phase advanced =>
    rcases List.mem_append.mp engaged with opening | later
    · unfold Selection.opening at opening
      split at opening <;> simp at opening
    · exact advanced.leads candidates number attempt later
  | finish attempt outcome result phase verdict => simp at engaged
  | rest attempt outcome phase verdict positive => simp at engaged
  | again ended outcome after noted phase verdict zero advanced =>
    exact advanced.leads candidates number attempt (by simpa using engaged)
  | wake due after noted phase advanced =>
    exact advanced.leads candidates number attempt (by simpa using engaged)

end Invocation

namespace World

/-- The calls that begin at an event, each with the service under which it was called. -/
def served (world : World ω) : Event ω → List (String × Call)
  | .answer place draw answer =>
    match world.roused? place answer with
    | some (ticket, .invoking invocation) =>
      (callsBegun ((Task.invoking invocation).entries world.client.router
        (world.moment ticket draw) answer)).map (invocation.service, ·)
    | _ => []
  | _ => []

/-- Without the services, the calls that begin at an event are those of its entries. Only an
invocation that goes on begins any. -/
theorem map_snd_served (world : World ω) (event : Event ω) :
    (world.served event).map Prod.snd = callsBegun (world.entries event) := by
  cases event with
  | answer place draw answer =>
    simp only [served, entries]
    cases world.roused? place answer with
    | none => rfl
    | some entry =>
      obtain ⟨ticket, task⟩ := entry
      cases task with
      | invoking invocation =>
        simp only [List.map_map]
        exact List.map_id _
      | _ => rfl
  | leave place =>
    simp only [served, entries]
    split
    · exact (calls_left _).1.symm
    · rfl
  | _ => rfl

/-- Without the services, the calls that begin in a run are those of its entries. -/
theorem map_snd_observed_served (world : World ω) (events : List (Event ω)) :
    (world.observed served events).map Prod.snd = callsBegun (world.observed entries events) := by
  induction events generalizing world with
  | nil => rfl
  | cons event rest inductionHypothesis =>
    rw [observed, observed, List.map_append, callsBegun_append, map_snd_served,
      inductionHypothesis]

/-- After the event at which a call begins, the book of its target's service leads to its
tally.

Only an answer to an invocation begins a call, and the step that notes it has taken the tally
from the book. -/
theorem leads_of_begun (world : World ω) (event : Event ω) (call : Call)
    (begun : call ∈ callsBegun (world.entries event)) :
    (world.step event).ledger.Leads call.attempt.target.service call.attempt.target.identity
      call.attempt.handle := by
  cases event with
  | answer place draw answer =>
    cases roused : world.roused? place answer with
    | none =>
      simp only [entries, roused] at begun
      cases begun
    | some entry =>
      obtain ⟨ticket, task⟩ := entry
      obtain ⟨_, await, waits, fits, _⟩ := world.roused?_eq_some place answer ticket task roused
      simp only [entries, roused] at begun
      simp only [step, roused]
      cases task with
      | invoking invocation =>
        have step := invocation.resume_step world.client.router (world.moment ticket draw) answer
          await waits fits
        obtain ⟨entry, among, isBegun⟩ := List.mem_filterMap.mp begun
        obtain ⟨note, noted, means⟩ := List.mem_filterMap.mp among
        cases note with
        | engaged candidates number attempt =>
          cases means
          cases isBegun
          exact step.leads candidates number attempt noted
        | ended attempt outcome now =>
          cases means
          cases isBegun
        | selecting due now => cases means
        | refused candidates => cases means
      | _ => cases begun
  | leave place =>
    simp only [entries] at begun
    split at begun
    · rw [(calls_left _).1] at begun
      cases begun
    · cases begun
  | _ => cases begun

/-- No tally is ever taken out of a ledger, so a run leaves at least as many as there were. -/
theorem size_le_run (world : World ω) (events : List (Event ω)) :
    world.ledger.tallies.size ≤ (world.run events).ledger.tallies.size := by
  induction events generalizing world with
  | nil => exact Nat.le_refl _
  | cons event rest inductionHypothesis =>
    exact Nat.le_trans (world.moves_step event).size_le (inductionHypothesis _)

/-- After a run a book leads to where it led before, or to a tally that is new. -/
theorem leads_run (world : World ω) (events : List (Event ω)) (service : String) (key : Identity)
    (handle : Handle) (led : (world.run events).ledger.Leads service key handle) :
    world.ledger.Leads service key handle ∨ world.ledger.tallies.size ≤ handle := by
  induction events generalizing world with
  | nil => exact .inl led
  | cons event rest inductionHypothesis =>
    have moves := world.moves_step event
    rcases inductionHypothesis _ led with old | new
    · exact moves.leads service key handle old
    · exact .inr (Nat.le_trans moves.size_le new)

/-- In each run no two entries of the books lead to one tally. -/
theorem distinct_run (client : Client ω) (now : Instant) (lifetime : Duration)
    (fresh : client.router.balance.ledger = .empty lifetime) (events : List (Event ω)) :
    ((around client now).run events).ledger.Distinct := by
  induction events using List.reverseRecOn with
  | nil =>
    have ledger : (around client now).ledger = .empty lifetime := fresh
    exact ledger ▸ .empty lifetime
  | append_singleton events event inductionHypothesis =>
    rw [run_append]
    exact (moves_step _ event).distinct inductionHypothesis

/-- A tally that is there after a run was opened at one of its events.

By induction on the run: it was there before the last event, or that one has opened it. -/
theorem exists_opening (client : Client ω) (now : Instant) (lifetime : Duration)
    (fresh : client.router.balance.ledger = .empty lifetime) (events : List (Event ω))
    (handle : Handle) (there : handle < ((around client now).run events).ledger.tallies.size) :
    ∃ earlier past later, events = earlier ++ past :: later ∧
      ((around client now).run earlier).ledger.tallies.size ≤ handle ∧
      handle < (((around client now).run earlier).step past).ledger.tallies.size := by
  induction events using List.reverseRecOn with
  | nil =>
    have ledger : (around client now).ledger = .empty lifetime := fresh
    rw [run, List.foldl_nil, ledger] at there
    cases there
  | append_singleton events event inductionHypothesis =>
    by_cases old : handle < ((around client now).run events).ledger.tallies.size
    · obtain ⟨earlier, past, later, split, before, after⟩ := inductionHypothesis old
      exact ⟨earlier, past, later ++ [event], by simp [split], before, after⟩
    · rw [run_append] at there
      exact ⟨events, event, [], rfl, Nat.le_of_not_lt old, there⟩

/-- The calls on a tally to which a book leads after a run are those to its instance that have
begun since the tally was opened.

Handles are given out in order, so no call before the opening is on this handle. A call since
then is on it just if the book led it there: each call is made on the current tally of its
target, and no two entries lead to one tally. -/
theorem calls_since (client : Client ω) (now : Instant) (lifetime : Duration)
    (fresh : client.router.balance.ledger = .empty lifetime) (earlier later : List (Event ω))
    (past : Event ω) (handle : Handle)
    (before : ((around client now).run earlier).ledger.tallies.size ≤ handle)
    (opened : handle < (((around client now).run earlier).step past).ledger.tallies.size)
    (service : String) (key : Identity)
    (led : ((around client now).run (earlier ++ past :: later)).ledger.Leads service key handle) :
    (callsBegun ((around client now).observed entries (earlier ++ past :: later))).filter
        (·.on handle) =
      (callsBegun (((around client now).run earlier).observed entries (past :: later))).filter
        fun call => call.attempt.target.service = service ∧ call.attempt.target.identity = key := by
  have distinct := distinct_run client now lifetime fresh
  rw [observed_append, callsBegun_append, List.filter_append]
  have older : (callsBegun ((around client now).observed entries earlier)).filter
      (·.on handle) = [] := by
    apply List.filter_eq_nil_iff.mpr
    intro call begun
    obtain ⟨entry, among, isBegun⟩ := List.mem_filterMap.mp begun
    obtain ⟨first, event, rest, split, noted⟩ := exists_of_mem_observed _ _ _ _ among
    have leads := leads_of_begun _ event call (List.mem_filterMap.mpr ⟨entry, noted, isBegun⟩)
    have there : call.attempt.handle <
        ((around client now).run (first ++ [event])).ledger.tallies.size := by
      rw [← run_concat] at leads
      exact (distinct _).sound _ _ _ leads
    have grown := size_le_run ((around client now).run (first ++ [event])) rest
    rw [← run_append, List.append_assoc, List.singleton_append, ← split] at grown
    intro here
    have same : call.attempt.handle = handle := of_decide_eq_true here
    rw [same] at there
    exact Nat.lt_irrefl _ (Nat.lt_of_lt_of_le there (Nat.le_trans grown before))
  rw [older, List.nil_append]
  apply List.filter_congr
  intro call begun
  obtain ⟨entry, among, isBegun⟩ := List.mem_filterMap.mp begun
  obtain ⟨first, event, rest, split, noted⟩ := exists_of_mem_observed _ _ _ _ among
  have leads := leads_of_begun _ event call (List.mem_filterMap.mpr ⟨entry, noted, isBegun⟩)
  -- From the opening of the tally on, the book has led to it all the time.
  have onward : (((around client now).run earlier).run first).step event =
      (around client now).run (earlier ++ (first ++ [event])) := by
    rw [run_append, run_concat]
  have ledThere : ((around client now).run (earlier ++ (first ++ [event]))).ledger.Leads
      service key handle := by
    rw [split, ← List.singleton_append, ← List.append_assoc first, ← List.append_assoc earlier,
      run_append] at led
    refine (leads_run _ rest service key handle led).resolve_right (Nat.not_le_of_lt ?_)
    obtain ⟨others, front⟩ : ∃ others, first ++ [event] = past :: others := by
      cases first with
      | nil => exact ⟨[], by rw [(List.cons.inj split).1]; rfl⟩
      | cons start others =>
        exact ⟨others ++ [event], by rw [(List.cons.inj split).1]; rfl⟩
    have grown := size_le_run (((around client now).run earlier).step past) others
    have same : (((around client now).run earlier).step past).run others =
        (around client now).run (earlier ++ (first ++ [event])) := by
      rw [front, run_append]
      rfl
    rw [same] at grown
    exact Nat.lt_of_lt_of_le opened grown
  rw [onward] at leads
  rw [Call.on, decide_eq_decide]
  constructor
  · intro here
    rw [here] at leads
    exact (distinct _).one _ _ _ _ _ leads ledThere
  · rintro ⟨rfl, rfl⟩
    exact Option.some.inj (leads.symm.trans ledThere)

/-- The average of a tally to which a book leads after a run is made of the calls to its instance
that have begun since the tally was opened.

All calls on the tally were begun on it, so the endings of those are all of its endings; its
counters are the number of the calls and the sum of the times of the endings. -/
theorem average_since (client : Client ω) (now : Instant) (lifetime : Duration)
    (fresh : client.router.balance.ledger = .empty lifetime) (earlier later : List (Event ω))
    (past : Event ω) (handle : Handle)
    (before : ((around client now).run earlier).ledger.tallies.size ≤ handle)
    (opened : handle < (((around client now).run earlier).step past).ledger.tallies.size)
    (service : String) (key : Identity)
    (led : ((around client now).run (earlier ++ past :: later)).ledger.Leads service key handle) :
    (((around client now).run (earlier ++ past :: later)).ledger.tally handle).average =
      (meanLatency
        ((callsBegun (((around client now).run earlier).observed entries (past :: later))).filter
          fun call =>
            call.attempt.target.service = service ∧ call.attempt.target.identity = key)
        (callsEnded ((around client now).observed entries (earlier ++ past :: later))) : ω) := by
  rw [← calls_since client now lifetime fresh earlier later past handle before opened service key
    led]
  have accounted := run_accounted client now lifetime fresh (earlier ++ past :: later)
  generalize (around client now).observed entries (earlier ++ past :: later) = written
    at accounted ⊢
  generalize (around client now).run (earlier ++ past :: later) = world at accounted ⊢
  have counts := accounted.counts handle
  obtain ⟨total, _, latency⟩ := Tally.counters_foldl handle (.fresh 0) written
  rw [← counts] at total latency
  have ended : (callsEnded written).filter (·.call ∈ (callsBegun written).filter (·.on handle)) =
      (callsEnded written).filter (·.call.on handle) := by
    apply List.filter_congr
    intro ending member
    have begun : ending.call ∈ callsBegun written := by
      refine accounted.balanced.mem_iff.mpr ?_
      simp only [List.mem_append]
      exact .inl (.inl (List.mem_map_of_mem member))
    cases here : ending.call.on handle <;> simp [begun, here]
  have number : (world.ledger.tally handle).total =
      UInt64.ofNat ((callsBegun written).filter (·.on handle)).length := by
    rw [← List.countP_eq_length_filter]
    simpa [Tally.undated, Tally.fresh] using total
  have time : (world.ledger.tally handle).latency =
      (((callsEnded written).filter (·.call.on handle)).map Ending.millis).sum := by
    simpa [Tally.undated, Tally.fresh] using latency
  simp only [Tally.average, meanLatency, ended, number, time]

/-- Where the average latencies come from that a table is computed from: they are those in the
book of the service when the event begins. -/
theorem averages_of_computed (client : Client ω) (now : Instant) (lifetime : Duration)
    (fresh : client.router.balance.ledger = .empty lifetime) (events : List (Event ω))
    (event : Event ω) (service : String) (weighed : List (Instance × ω))
    (computed : .computed service weighed ∈ ((around client now).run events).weighings event)
    (x : Instance) (average : ω) (member : (x, average) ∈ weighed) :
    average = ((around client now).run events).ledger.averageOf
      ((around client now).run events).now service x.identity := by
  have sound := (distinct_run client now lifetime fresh events).sound
  generalize (around client now).run events = world at computed sound ⊢
  -- Wherever a table is computed, it is from the averages that the ledger has then.
  have of_weighed (ledger : Ledger ω) (soundThen : ledger.Sound) (other : String)
      (candidates : List Instance)
      (same : weighed = ledger.weighed world.now other candidates) :
      average = ledger.averageOf world.now other x.identity := by
    rw [same, ledger.weighed_eq soundThen] at member
    obtain ⟨y, _, entry⟩ := List.mem_map.mp member
    cases entry
    rfl
  cases world.source_of_mem event _ computed with
  | round inside =>
    exact Ledger.averages_of_mem_round _ _ _ sound _ service weighed inside x average member
  | request other candidates same =>
    cases same
    exact of_weighed world.ledger sound service candidates rfl
  | choice other candidates inside =>
    unfold Balance.weighings at inside
    dsimp only at inside
    split at inside
    · cases inside
    · rcases List.mem_append.mp inside with here | drawn
      · have opened : Ledger.Moves world.now (fun _ => True) (fun _ => False) world.ledger
            (world.ledger.openBook other) := .openBook _ other trivial
        obtain ⟨soundNext, same⟩ := opened.averageOf sound
        have fitting := Option.mem_toList.mp here
        unfold Ledger.fittingWeighing? at fitting
        split at fitting
        · cases fitting
        · split at fitting
          · cases fitting
          · cases fitting
            exact (of_weighed _ soundNext service candidates rfl).trans (same service x.identity)
      · have found := Option.mem_toList.mp drawn
        simp only [bind, Option.bind_eq_some_iff] at found
        obtain ⟨_, _, _, _, differs⟩ := found
        cases differs

/-- In each run of a client that begins with empty statistics, each average latency that a
table of a service is computed from is that of the calls to the instance with the given
identity under the name of the service: of all those that have begun since the current tally
was opened, and zero if there is none. If every call goes to an instance that carries the
name under which it was called, these are the calls of the service to that instance.

What a table is computed from is what the book reads. The tally that it reads was opened at
some event of the run, and by the accounts it counts exactly the calls that have begun on its
handle since. No two entries of the books lead to one tally, so those are the calls of one
service to one identity. -/
theorem averages_exact (client : Client ω) (now : Instant) (lifetime : Duration)
    (fresh : client.router.balance.ledger = .empty lifetime) (events : List (Event ω))
    (event : Event ω) (service : String) (weighed : List (Instance × ω))
    (computed : .computed service weighed ∈ ((around client now).run events).weighings event)
    (x : Instance) (average : ω) (member : (x, average) ∈ weighed) :
    let start := around client now
    let world := start.run events
    let endings := callsEnded (start.observed entries events)
    (world.ledger.current? world.now service x.identity = none → average = 0) ∧
      ∀ handle, world.ledger.current? world.now service x.identity = some handle →
        ∃ earlier past later, events = earlier ++ past :: later ∧
          (start.run earlier).ledger.tallies.size ≤ handle ∧
          handle < ((start.run earlier).step past).ledger.tallies.size ∧
          let since := (start.run earlier).observed served (past :: later)
          average = meanLatency ((since.filter fun call =>
            call.2.attempt.target.service = service ∧
              call.2.attempt.target.identity = x.identity).map Prod.snd) endings ∧
          ((∀ call ∈ start.observed served events, call.2.attempt.target.service = call.1) →
            average = meanLatency ((since.filter fun call =>
              call.1 = service ∧ call.2.attempt.target.identity = x.identity).map Prod.snd)
              endings) := by
  intro start world endings
  have same := averages_of_computed client now lifetime fresh events event service weighed computed
    x average member
  unfold Ledger.averageOf at same
  constructor
  · intro missing
    rw [missing] at same
    exact same
  · intro handle current
    rw [current] at same
    have led := world.ledger.leads_of_current? service x.identity handle current
    have there := (distinct_run client now lifetime fresh events).sound _ _ _ led
    obtain ⟨earlier, past, later, split, before, opened⟩ :=
      exists_opening client now lifetime fresh events handle there
    refine ⟨earlier, past, later, split, before, opened, ?_⟩
    intro since
    have mean : average = meanLatency ((since.filter fun call =>
        call.2.attempt.target.service = service ∧
          call.2.attempt.target.identity = x.identity).map Prod.snd) endings := by
      have exact' := average_since client now lifetime fresh earlier later past handle before opened
        service x.identity (split ▸ led)
      rw [← split, ← map_snd_observed_served, List.filter_map] at exact'
      exact same.trans exact'
    refine ⟨mean, ?_⟩
    intro named
    rw [mean]
    congr 2
    apply List.filter_congr
    intro call served
    have own := named call (by
      rw [split, observed_append]
      exact List.mem_append_right _ served)
    rw [own]

/-- Both instances of a service are called once, under the name of the service. -/
def bothCalled : List (Event Int) := turnedRound.take 10

/-- What the next round weighs. -/
def bothWeighed : List (Instance × Int) :=
  [(.ofAddress "orders" "10.0.0.1" 80, 10), (.ofAddress "orders" "10.0.0.2" 80, 30)]

/-- The round weighs the time of the call to the second instance. -/
theorem averages_exact_bothCalled :
    byWeight.router.balance.ledger = .empty (.ofSeconds 3600) ∧
      .computed "orders" bothWeighed ∈
        ((around byWeight 0).run bothCalled).weighings (.adjust .aggregate) ∧
      (.ofAddress "orders" "10.0.0.2" 80, 30) ∈ bothWeighed ∧
      (∀ call ∈ (around byWeight 0).observed served bothCalled,
        call.2.attempt.target.service = call.1) ∧
      ∃ earlier past later, bothCalled = earlier ++ past :: later ∧
        (30 : Int) = meanLatency
          (((((around byWeight 0).run earlier).observed served (past :: later)).filter fun call =>
            call.1 = "orders" ∧ call.2.attempt.target.identity = .located "10.0.0.2" 80).map
              Prod.snd)
          (callsEnded ((around byWeight 0).observed entries bothCalled)) := by
  have weighings : ((around byWeight 0).run bothCalled).weighings (.adjust .aggregate) =
      [.computed "orders" bothWeighed] := by rfl
  have computed : .computed "orders" bothWeighed ∈
      ((around byWeight 0).run bothCalled).weighings (.adjust .aggregate) := by
    rw [weighings]
    exact List.mem_singleton_self _
  have member : (.ofAddress "orders" "10.0.0.2" 80, 30) ∈ bothWeighed :=
    List.mem_cons_of_mem _ (List.mem_singleton_self _)
  have named : ∀ call ∈ (around byWeight 0).observed served bothCalled,
      call.2.attempt.target.service = call.1 := by
    have all : ((around byWeight 0).observed served bothCalled).all
        (fun call => call.2.attempt.target.service = call.1) = true := by rfl
    simpa using all
  have current : ((around byWeight 0).run bothCalled).ledger.current?
      ((around byWeight 0).run bothCalled).now "orders" (.located "10.0.0.2" 80) = some 1 := by rfl
  obtain ⟨_, counted⟩ := averages_exact byWeight 0 (.ofSeconds 3600) rfl bothCalled
    (.adjust .aggregate) "orders" bothWeighed computed _ 30 member
  obtain ⟨earlier, past, later, split, _, _, _, mean⟩ := counted 1 current
  exact ⟨rfl, computed, member, named, earlier, past, later, split, mean named⟩

/-- A list in which one instance carries the name of another service. -/
def misnamed : List Instance :=
  [.ofAddress "other" "10.0.0.1" 80, .ofAddress "orders" "10.0.0.2" 80]

/-- The list is weighed, and then both instances are called once. -/
def misnamedCalled : List (Event Int) :=
  [.request (.get "orders"), .answer 0 frontDraw .turn, .answer 0 frontDraw .lock,
    .answer 0 frontDraw (.listing (.ok misnamed)), .adjust (.openBook "orders"),
    .adjust .aggregate,
    .request (.invoke "orders" (.named "once")), .answer 1 frontDraw .turn,
    .pass 10000000, .answer 1 frontDraw (.work (.ok (.integer 7))),
    .request (.invoke "orders" (.named "once")), .answer 2 frontDraw .turn,
    .pass 30000000, .answer 2 frontDraw (.work (.ok (.integer 7)))]

/-- The next round takes zero for the latency of the instance with the other name, although
its call has taken ten milliseconds and began after its tally was opened, in whichever of the
two books. -/
theorem exists_misrecorded :
    Client.create { balancer := "WeightedResponseTime" } = .ok byWeight ∧
      ((around byWeight 0).run misnamedCalled).weighings (.adjust .aggregate) =
        [.computed "orders" [(.ofAddress "other" "10.0.0.1" 80, 0),
          (.ofAddress "orders" "10.0.0.2" 80, 30)]] ∧
      ∀ book ∈ ["orders", "other"], ∃ earlier past later handle,
        misnamedCalled = earlier ++ past :: later ∧
        ((around byWeight 0).run misnamedCalled).ledger.current?
          ((around byWeight 0).run misnamedCalled).now book (.located "10.0.0.1" 80) =
            some handle ∧
        ((around byWeight 0).run earlier).ledger.tallies.size ≤ handle ∧
        handle < (((around byWeight 0).run earlier).step past).ledger.tallies.size ∧
        meanLatency
          (((((around byWeight 0).run earlier).observed served (past :: later)).filter fun call =>
            call.1 = "orders" ∧ call.2.attempt.target.identity = .located "10.0.0.1" 80).map
              Prod.snd)
          (callsEnded ((around byWeight 0).observed entries misnamedCalled)) = (10 : Int) := by
  refine ⟨create_byWeight, by rfl, ?_⟩
  intro book member
  rcases List.mem_cons.mp member with rfl | last
  · exact ⟨misnamedCalled.take 5, .adjust .aggregate, misnamedCalled.drop 6, 0, rfl, by rfl,
      Nat.le_refl _, by decide, by rfl⟩
  · obtain rfl := List.mem_singleton.mp last
    exact ⟨misnamedCalled.take 7, .answer 1 frontDraw .turn, misnamedCalled.drop 8, 2, rfl, by rfl,
      by decide, by decide, by rfl⟩

end World

end CallRouting
