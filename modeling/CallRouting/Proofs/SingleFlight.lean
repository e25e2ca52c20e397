import CallRouting.Proofs.SharedLoads
import CallRouting.Proofs.Waits

/-!
# Single flight

Any number of tasks get and refresh lists, in any interleaving, with answers of the
directory at any time and of any kind, and with tasks that are dropped on the way. At
most one of them waits for the directory about a service, and loads are shared by those
who only want the list. The laws speak of what is seen up to any point of a run, since a
run may stop anywhere.

No task waits for ever: as long as one is not done some task can go on, and none goes on
more than three times.
-/

namespace CallRouting

namespace Traffic

/-- How many answers a task can still need. -/
def needs (traffic : Traffic) (ticket : Ticket) : Nat :=
  match traffic.lookups.find? ticket with
  | some lookup => lookup.stepsLeft
  | none => if ticket < traffic.nextTicket then 0 else 3

/-- Whether a task goes on at a move. -/
def rouses (traffic : Traffic) (ticket : Ticket) : Move → Bool
  | .answer other answer => other == ticket && (traffic.roused? other answer).isSome
  | .pass _ | .get _ | .refresh _ | .leave _ | .invalidate _ => false

/-- How often a task goes on in a run. -/
def goes (ticket : Ticket) (traffic : Traffic) : List Move → Nat
  | [] => 0
  | move :: rest => (traffic.rouses ticket move).toNat + goes ticket (traffic.step move) rest

/-- A task that begins still needs all answers, and so it did before it began: the tickets of
tasks to come count as if they had. -/
theorem needs_receive {traffic : Traffic} (numbered : traffic.Numbered) (ticket : Ticket)
    (lookup : Lookup) (new : lookup.stepsLeft = 3) :
    (traffic.receive lookup).needs ticket ≤ traffic.needs ticket := by
  rw [needs, needs, receive, Registry.find?_put]
  by_cases same : traffic.nextTicket = ticket
  · subst same
    simp [numbered traffic.nextTicket (Nat.le_refl _), new]
  · rw [if_neg same]
    cases traffic.lookups.find? ticket with
    | some other => exact Nat.le_refl _
    | none =>
      by_cases early : ticket < traffic.nextTicket
      · simp [early, Nat.lt_succ_of_lt early]
      · have late : ¬ ticket < traffic.nextTicket + 1 := fun soon =>
          (Nat.lt_succ_iff_lt_or_eq.mp soon).elim early fun here => same here.symm
        simp [early, late]

/-- Who goes on needs fewer answers, and nobody else needs more. -/
theorem needs_answer {traffic : Traffic} (ticket other : Ticket) (answer : Answer) :
    (traffic.rouses ticket (.answer other answer)).toNat +
        (traffic.step (.answer other answer)).needs ticket ≤ traffic.needs ticket := by
  cases roused : traffic.roused? other answer with
  | none => simp [rouses, step, roused]
  | some lookup =>
    obtain ⟨found, await, awaits, permitted⟩ := traffic.roused?_eq_some roused
    have fits := (Bool.and_eq_true_iff.mp permitted).1
    have nearer := lookup.stepsLeft_resume traffic.cache traffic.now other answer await awaits fits
    rw [traffic.step_answer roused]
    by_cases same : other = ticket
    · subst same
      have once : traffic.rouses other (.answer other answer) = true := by simp [rouses, roused]
      rw [once, needs, needs, Registry.find?_put, if_pos rfl, found, Bool.toNat_true,
        Nat.add_comm]
      exact nearer
    · have never : traffic.rouses ticket (.answer other answer) = false := by simp [rouses, same]
      rw [never, needs, needs, Registry.find?_put, if_neg same, Bool.toNat_false, Nat.zero_add]

/-- Who is dropped needs no answers, and nobody else needs more. -/
theorem needs_leave {traffic : Traffic} (numbered : traffic.Numbered) (ticket other : Ticket) :
    (traffic.step (.leave other)).needs ticket ≤ traffic.needs ticket := by
  cases waiting : traffic.waiting? other with
  | none => simp [step, waiting]
  | some lookup =>
    obtain ⟨found, _⟩ := Option.filter_eq_some_iff.mp waiting
    have known : other < traffic.nextTicket := by
      by_contra unknown
      rw [numbered other (Nat.not_lt.mp unknown)] at found
      cases found
    simp only [step, waiting, needs, Registry.find?_erase]
    by_cases same : ticket = other
    · subst same
      simp [known]
    · rw [if_neg same]

/-- No move makes a task need more answers. -/
theorem needs_step {traffic : Traffic} (numbered : traffic.Numbered) (ticket : Ticket)
    (move : Move) :
    (traffic.rouses ticket move).toNat + (traffic.step move).needs ticket ≤
      traffic.needs ticket := by
  cases move with
  | answer other answer => exact needs_answer ticket other answer
  | pass span => exact Nat.le_of_eq (Nat.zero_add _)
  | invalidate service => exact Nat.le_of_eq (Nat.zero_add _)
  | get service => exact (Nat.zero_add _).symm ▸ needs_receive numbered ticket _ rfl
  | refresh service => exact (Nat.zero_add _).symm ▸ needs_receive numbered ticket _ rfl
  | leave other => exact (Nat.zero_add _).symm ▸ needs_leave numbered ticket other

/-- A lookup needs three answers, so its task goes on three times at most. -/
theorem goes_le_three (ttl : Duration) (now : Instant) (moves : List Move) (ticket : Ticket) :
    (start ttl now).goes ticket moves ≤ 3 := by
  suffices general : ∀ traffic : Traffic, traffic.Numbered →
      traffic.goes ticket moves ≤ traffic.needs ticket by
    exact general (start ttl now) fun _ _ => rfl
  induction moves with
  | nil => exact fun _ _ => Nat.zero_le _
  | cons move rest inductionHypothesis =>
    intro traffic numbered
    have onwards := inductionHypothesis _ (traffic.numbered_step numbered move)
    exact Nat.le_trans (Nat.add_le_add_left onwards _) (needs_step numbered ticket move)

end Traffic

/-- What holds of the list of one service after a run. -/
structure SingleFlight (ttl : Duration) (service : String) (traffic : Traffic)
    (log : List Sight) : Prop where
  /-- At most one task waits for the directory. -/
  one : ∀ first second, traffic.lookups.find? first = some ⟨service, .loading⟩ →
    traffic.lookups.find? second = some ⟨service, .loading⟩ → first = second
  /-- No task asks the directory twice. -/
  once : ∀ ticket, log.countP (·.isCall ticket) ≤ 1
  /-- Who came to get the list asks only if no load has completed since then. Loads are
  counted in 64 bits: only with that many tasks ahead, which no memory holds, could the same
  number be seen again. -/
  spared : ∀ earlier ticket now ahead between later,
    log = earlier ++ .came ticket false now ahead :: between ++ .called ticket :: later →
    ahead < UInt64.size → completions between = 0
  /-- Where only gets run, who comes for a list that is not fresh, and loads it, is the only
  one to ask among all that come before the answer, and all of them are given the same. -/
  shared : OnlyGets log → ∀ flight : Flight log, Stale ttl flight.earlier flight.now →
    ∀ ticket, flight.Carries ticket →
      (.called ticket ∈ log ↔ ticket = flight.first) ∧
        ∀ instances, .answered ticket instances ∈ log → instances = flight.given
  /-- There is such a load: the first to come has nobody ahead, and is not answered before
  it has loaded. -/
  leads : ∀ earlier first now rest instances,
    log = earlier ++ .came first false now 0 :: rest → Stale ttl earlier now →
    .answered first instances ∈ log →
    ∃ flight : Flight log, flight.earlier = earlier ∧ flight.first = first ∧ flight.now = now
  /-- Until all who have come are done, some task can go on. -/
  onwards : ∀ ticket, Came ticket log → Done ticket log ∨
    ∃ other answer lookup,
      traffic.roused? other answer = some lookup ∧ lookup.service = service

/-- Who has seen no more loads complete than there were tasks ahead has seen none, if the numbers
that it compares are the same. -/
theorem eq_of_ofNat_eq {few many ahead : Nat} (least : few ≤ many) (most : many ≤ few + ahead)
    (small : ahead < UInt64.size) (same : UInt64.ofNat few = UInt64.ofNat many) : few = many := by
  have numbers := congrArg UInt64.toNat same
  simp only [UInt64.toNat_ofNat'] at numbers
  unfold UInt64.size at small
  omega

namespace Traffic

variable (service : String) (ttl : Duration) (now : Instant) (moves : List Move)

/-- Where only gets run, the tasks of a service share their loads. -/
theorem shares (onlyGets : OnlyGets ((start ttl now).log service moves)) :
    Shares ((start ttl now).log service moves)
      (((start ttl now).run moves).serviceState service) := by
  refine (log_induction service ttl now
    (fun log state => (Told ttl log state ∧ Lined log state) ∧ (OnlyGets log → Shares log state))
    ⟨told_and_lined service ttl now [], fun _ => ?_⟩ ?_ moves).2 onlyGets
  · exact
      { waiting := fun _ member => nomatch member
        loading := fun _ loading => nomatch loading
        shared := .nil }
  · rintro log state after seen ⟨⟨told, lined⟩, shares⟩ stepped
    refine ⟨⟨told.step stepped, lined.step told.traced stepped⟩, fun onlyGets => ?_⟩
    have old : OnlyGets log := fun sight member => onlyGets sight (List.mem_append_left _ member)
    exact (shares old).step told lined old stepped

/-- However gets, refreshes, invalidations and callers who leave interleave, the lookups of a
service share their loads. One task at most waits for the directory, and none asks it twice. Who
comes to get the list does not ask if a load has completed since. Where only gets run, all who
come for a list that is not fresh, before the directory answers, are given what one call brings.
Nobody waits for ever either: as long as a task is not done some task can go on, and each goes on
three times at most.

The invariants are proved step by step and carried by induction over the moves: what the log
tells of the slot (`Told`), who stands where in the line (`Lined`), and what the waiting tasks
have seen of the loads (`Shares`). Each case below reads its field off them. -/
theorem single_flight :
    SingleFlight ttl service ((start ttl now).run moves) ((start ttl now).log service moves) ∧
      ∀ ticket, (start ttl now).goes ticket moves ≤ 3 := by
  refine ⟨?_, goes_le_three ttl now moves⟩
  obtain ⟨told, lined⟩ := told_and_lined service ttl now moves
  have traced := told.traced
  constructor
  case one =>
    intro first second firstLoads secondLoads
    have firstHolds := lined.first first (phase?_serviceState firstLoads)
    have secondHolds := lined.first second (phase?_serviceState secondLoads)
    exact Option.some.inj (firstHolds.symm.trans secondHolds)
  case once =>
    intro ticket
    have own := (traced.trace ticket).calls_le_one
    rwa [about, List.countP_filter, List.countP_congr] at own
    intro sight _
    cases sight <;> simp [Sight.isCall, Sight.ticket?]
  case spared =>
    intro earlier ticket came ahead between later split small
    have coming : .came ticket false came ahead ∈
        earlier ++ .came ticket false came ahead :: between := by simp
    have same := told.justified.of_split split came ahead coming
    have most := (lined.inTurn.of_split split).2 false came ahead coming
    rw [traced.before_front split, completions_coming] at same most
    have none := eq_of_ofNat_eq (Nat.le_add_right _ _) most small same
    omega
  case shared =>
    intro onlyGets flight stale ticket carried
    have shares := shares service ttl now moves onlyGets
    refine ⟨⟨flight.eq_first_of_called traced lined shares carried, ?_⟩, fun instances answered =>
      flight.eq_given_of_answered told shares onlyGets stale carried answered⟩
    rintro rfl
    exact traced.called_of_loaded flight.loaded_mem
  case leads =>
    intro earlier first now rest instances split stale answered
    obtain ⟨flight, sameEarlier, sameFirst, sameNow, _⟩ :=
      exists_flight told lined split stale answered
    exact ⟨flight, sameEarlier, sameFirst, sameNow⟩
  case onwards =>
    intro ticket came
    refine (traced.done_or_inLine came).imp_right fun inLine => ?_
    obtain ⟨phase, found, stands⟩ := (Option.any_eq_true _ _).mp inLine
    have waits : phase.waits = true := by cases phase <;> first | rfl | cases stands
    exact exists_roused lined found waits

/-- One task loads while another one waits for the lock. -/
def twoGets : List Move :=
  [.get "orders", .get "orders", .answer 0 .turn, .answer 0 .lock, .answer 1 .turn,
    .answer 0 (.listing (.ok [.ofAddress "orders" "10.0.0.1" 80])), .answer 1 .lock]

/-- The law at work here: the second task comes while the first one loads, never asks, and is
given the list of that load. -/
theorem single_flight_twoGets :
    let log := (start (.ofMillis 1000) 0).log "orders" twoGets
    OnlyGets log ∧ ∃ flight : Flight log,
      Stale (.ofMillis 1000) flight.earlier flight.now ∧ flight.Carries 1 ∧
        .called 1 ∉ log ∧ .answered 1 flight.given ∈ log := by
  intro log
  have written : log =
      [.came 0 false 0 0, .called 0, .came 1 false 0 1,
        .loaded 0 (.ok [.ofAddress "orders" "10.0.0.1" 80]) 0,
        .answered 0 [.ofAddress "orders" "10.0.0.1" 80],
        .answered 1 [.ofAddress "orders" "10.0.0.1" 80]] := by rfl
  have onlyGets : OnlyGets log := by
    rw [written]
    simp [OnlyGets, Sight.OfGets]
  -- The load of the first task, with what was seen before it, during it and after it.
  let flight : Flight log :=
    { earlier := []
      first := 0
      now := 0
      ahead := 0
      between := [.called 0, .came 1 false 0 1]
      answer := .ok [.ofAddress "orders" "10.0.0.1" 80]
      done := 0
      later :=
        [.answered 0 [.ofAddress "orders" "10.0.0.1" 80],
          .answered 1 [.ofAddress "orders" "10.0.0.1" 80]]
      split := written }
  have stale : Stale (.ofMillis 1000) flight.earlier flight.now := fun _ found => nomatch found
  have carried : flight.Carries 1 := ⟨false, 0, 1, by simp [flight]⟩
  have law := (single_flight "orders" (.ofMillis 1000) 0 twoGets).1.shared onlyGets flight stale 1
    carried
  have answered : .answered 1 [.ofAddress "orders" "10.0.0.1" 80] ∈ log := by simp [written]
  have given := law.2 _ answered
  have uncalled : .called 1 ∉ log := fun called => nomatch law.1.mp called
  exact ⟨onlyGets, flight, stale, carried, uncalled, given ▸ answered⟩

end Traffic

end CallRouting
