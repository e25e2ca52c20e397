import CallRouting.Proofs.LoadLine

/-!
# Reads in order

While nothing is forgotten, each load that succeeds brings a new edition of the list. Whoever
is given the list is given the latest edition at that moment, so nobody is given an older
edition than somebody before. If loads do not fail, a list is also no older than its time to
live when the task comes that is given it: it was fresh then, or it has come since.
-/

namespace CallRouting

/-- The edition that a sight brings. -/
def Sight.edition? : Sight → Option CachedList
  | .loaded _ (.ok instances) now => some ⟨instances, now⟩
  | .loaded _ (.error _) _ | .came .. | .called _ | .answered .. | .left _ | .forgotten => none

/-- The lists of the loads that have succeeded, the oldest first. -/
def editions (log : List Sight) : List CachedList := log.filterMap Sight.edition?

/-- The edition with a number. Number zero is the empty list that is given before any load
has succeeded. -/
def edition (log : List Sight) : Nat → List Instance
  | 0 => []
  | number + 1 => ((editions log)[number]?.map (·.instances)).getD []

/-- The editions that come in two parts are those of each part. -/
theorem editions_append (log seen : List Sight) :
    editions (log ++ seen) = editions log ++ editions seen :=
  List.filterMap_append

/-- While nothing is forgotten, the list at hand is the latest edition. -/
theorem kept_eq_latest {log : List Sight} (remembered : .forgotten ∉ log) :
    kept log = (editions log).getLast? := by
  induction log using List.reverseRecOn with
  | nil => rfl
  | append_singleton log sight inductionHypothesis =>
    rw [List.mem_append, not_or] at remembered
    rw [kept_append, inductionHypothesis remembered.1, editions_append]
    cases sight with
    | loaded ticket answer now =>
      cases answer with
      | ok instances => exact List.getLast?_concat.symm
      | error fault => exact (congrArg List.getLast? (List.append_nil (editions log))).symm
    | forgotten => exact absurd (List.mem_singleton_self _) remembered.2
    | _ => exact (congrArg List.getLast? (List.append_nil (editions log))).symm

/-- So the list at hand is the edition whose number is that of the loads that have
succeeded, and stays that edition later. -/
theorem atHand_eq_edition {log : List Sight} (remembered : .forgotten ∉ log) (later : List Sight) :
    atHand log = edition (log ++ later) (editions log).length := by
  rw [atHand, kept_eq_latest remembered, List.getLast?_eq_getElem?]
  cases count : (editions log).length with
  | zero => rw [List.length_eq_zero_iff.mp count]; rfl
  | succ number =>
    rw [edition, editions_append, List.getElem?_append_left (by omega), Nat.add_sub_cancel]

/-- What holds of the lists that tasks are given while nothing is forgotten. -/
structure ReadOrder (ttl : Duration) (log : List Sight) : Prop where
  /-- Each list that is given is the latest edition then, so the second of two lists is of the
  same edition as the first or of a newer one. -/
  ordered : ∀ earlier first firstList between second secondList later,
    log = earlier ++ .answered first firstList :: between ++ .answered second secondList :: later →
    ∃ older newer, older = (editions earlier).length ∧
      newer = (editions (earlier ++ .answered first firstList :: between)).length ∧
      older ≤ newer ∧ firstList = edition log older ∧ secondList = edition log newer
  /-- Once a load has succeeded, the list that is given has come from the directory. -/
  settled : ∀ earlier ticket instances later,
    log = earlier ++ .answered ticket instances :: later → editions earlier ≠ [] →
    ∃ cached, (editions earlier).getLast? = some cached ∧ instances = cached.instances
  /-- If no load fails while a task waits, the list that it is given has come when it came or
  later, or its time to live had not passed then. -/
  young : ∀ earlier ticket reload now ahead between instances later,
    log = earlier ++ .came ticket reload now ahead :: between ++
      .answered ticket instances :: later →
    (∀ loader fault done, .loaded loader (.error fault) done ∉ between) →
    ∃ cached,
      (editions (earlier ++ .came ticket reload now ahead :: between)).getLast? = some cached ∧
        instances = cached.instances ∧ now ≤ cached.loadedAt + ttl.nanos

variable {ttl : Duration} {log : List Sight} {state : ServiceState}

/-- What is seen later than a load is seen at a later time, so a load that completes while a
task waits leaves a list that is no older than its coming. -/
theorem Told.kept_young (told : Told ttl log state) (remembered : .forgotten ∉ log)
    {earlier between later : List Sight} {ticket : Ticket} {reload : Bool} {now : Instant}
    {ahead : Nat} (split : log = earlier ++ .came ticket reload now ahead :: between ++ later)
    (unfailing : ∀ loader fault done, .loaded loader (.error fault) done ∉ between)
    (loads : 0 < completions between) :
    ∃ cached, kept (earlier ++ .came ticket reload now ahead :: between) = some cached ∧
      now ≤ cached.loadedAt := by
  obtain ⟨front, loader, answer, done, back, rfl, quiet⟩ := exists_last_load loads
  have split' : log = (earlier ++ .came ticket reload now ahead :: front) ++
      .loaded loader answer done :: (back ++ later) := by rw [split]; simp
  cases answer with
  | error fault => exact absurd (by simp) (unfailing loader fault done)
  | ok instances =>
    have forgetless : .forgotten ∉ back := fun forgotten =>
      remembered (by rw [split']; simp [forgotten])
    have coming : .came ticket reload now ahead ∈
        earlier ++ .came ticket reload now ahead :: front := by simp
    refine ⟨⟨instances, done⟩, ?_, told.moment_le split' rfl coming rfl⟩
    rw [← List.cons_append, ← List.append_assoc]
    exact kept_of_last_load quiet forgetless

/-- The list at hand that a task is given is young, whichever way it comes by it. -/
theorem Told.young (told : Told ttl log state) (remembered : .forgotten ∉ log)
    {earlier between later : List Sight} {ticket : Ticket} {reload : Bool} {now : Instant}
    {ahead : Nat} {instances : List Instance}
    (split : log = earlier ++ .came ticket reload now ahead :: between ++
      .answered ticket instances :: later)
    (unfailing : ∀ loader fault done, .loaded loader (.error fault) done ∉ between) :
    ∃ cached, kept (earlier ++ .came ticket reload now ahead :: between) = some cached ∧
      now ≤ cached.loadedAt + ttl.nanos := by
  rcases told.fresh_or_load split with ⟨rfl, cached, found, young⟩ | loads
  · exact ⟨cached, (kept_append_of_quiet _ rfl (by simp)).trans found, young⟩
  · obtain ⟨cached, found, later⟩ := told.kept_young remembered split unfailing loads
    exact ⟨cached, found, Nat.le_add_right_of_le later⟩

/-- A log that has told its state, and in which no list was forgotten, is in order. An answer
is what was at hand, and while nothing is forgotten that is the latest edition; so answers that
follow each other can only move on to newer editions. -/
theorem Told.inReadOrder (told : Told ttl log state) (remembered : .forgotten ∉ log) :
    ReadOrder ttl log := by
  -- Whatever part of the log lies before an answer, nothing is forgotten in it either.
  have part {earlier later : List Sight} (split : log = earlier ++ later) :
      .forgotten ∉ earlier := fun forgotten =>
    remembered (by rw [split]; exact List.mem_append_left _ forgotten)
  have given {earlier later : List Sight} {ticket : Ticket} {instances : List Instance}
      (split : log = earlier ++ .answered ticket instances :: later) :
      instances = atHand earlier := (told.justified.of_split split).1
  constructor
  case ordered =>
    intro earlier first firstList between second secondList later split
    have split' : log = earlier ++ .answered first firstList ::
        (between ++ .answered second secondList :: later) := by rw [split]; simp
    refine ⟨_, _, rfl, rfl, ?_, ?_, ?_⟩
    · rw [editions_append, List.length_append]
      exact Nat.le_add_right _ _
    · rw [given split', atHand_eq_edition (part split') _, ← split']
    · rw [given split, atHand_eq_edition (part split) _, ← split]
  case settled =>
    intro earlier ticket instances later split loads
    refine ⟨(editions earlier).getLast loads, List.getLast?_eq_some_getLast loads, ?_⟩
    rw [given split, atHand, kept_eq_latest (part split), List.getLast?_eq_some_getLast loads]
    rfl
  case young =>
    intro earlier ticket reload now ahead between instances later split unfailing
    obtain ⟨cached, found, young⟩ := told.young remembered split unfailing
    refine ⟨cached, (kept_eq_latest (part split)).symm.trans found, ?_, young⟩
    rw [given split, atHand, found]
    rfl

namespace Traffic

/-- Of the lists that the tasks of one service are given, none is an older edition than one that
was given before: each is the latest edition of its moment. Once a load has succeeded, every list
has come from the directory. And if no load fails while a task waits, the list that it is given
has come since, or had not expired when the task came. This holds of every run of gets, refreshes
and callers who leave, in any interleaving, in which the list is not forgotten.

The proof is by induction over the moves: the log always tells the state of the slot and of
each task (`told_and_lined`), and what is claimed of a log that tells its state is read off it. -/
theorem read_order (service : String) (ttl : Duration) (now : Instant) (moves : List Move)
    (remembered : .forgotten ∉ (start ttl now).log service moves) :
    ReadOrder ttl ((start ttl now).log service moves) :=
  (told_and_lined service ttl now moves).1.inReadOrder remembered

/-- A list is loaded, expires, and is loaded again while another task waits. -/
def twoEditions : List Move :=
  [.get "orders", .answer 0 .turn, .answer 0 .lock, .answer 0 (.listing (.ok [])),
    .pass 1000000001, .get "orders", .get "orders", .answer 1 .turn, .answer 2 .turn,
    .answer 1 .lock, .answer 1 (.listing (.ok [.ofAddress "orders" "10.0.0.1" 80])),
    .answer 2 .lock]

/-- The law at work here: the first task is given the empty edition, and the other two the
newer one. -/
theorem read_order_twoEditions :
    let log := (start (.ofMillis 1000) 0).log "orders" twoEditions
    .forgotten ∉ log ∧ ReadOrder (.ofMillis 1000) log := by
  intro log
  have written : log =
      [.came 0 false 0 0, .called 0, .loaded 0 (.ok []) 0, .answered 0 [],
        .came 1 false 1000000001 0, .came 2 false 1000000001 1, .called 1,
        .loaded 1 (.ok [.ofAddress "orders" "10.0.0.1" 80]) 1000000001,
        .answered 1 [.ofAddress "orders" "10.0.0.1" 80],
        .answered 2 [.ofAddress "orders" "10.0.0.1" 80]] := by rfl
  have remembered : .forgotten ∉ log := by simp [written]
  exact ⟨remembered, read_order "orders" (.ofMillis 1000) 0 twoEditions remembered⟩

end Traffic

end CallRouting
