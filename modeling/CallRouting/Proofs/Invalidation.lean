import CallRouting.Proofs.LoadLine

/-!
# Forgetting a list

To forget a list takes no part in the lock, and it counts as no load. So a call that is
under way goes on, and its list is kept when it comes, although it was asked for before:
whoever comes after a list was forgotten is given the list of a load that has completed
since, but not always of one that has begun since. And a task that waits while a load
completes trusts in the list at hand, even if that has been forgotten again before it gets
the lock: then it is given no instances, although the directory has some.

Both laws are exact: they say which load a list comes from, and when it is lost.
-/

namespace CallRouting

/-- A list that was forgotten is gone until the next load completes. -/
theorem kept_of_forgotten (log : List Sight) {seen : List Sight} (idle : completions seen = 0)
    (forgotten : .forgotten ∈ seen) : kept (log ++ seen) = none := by
  induction seen using List.reverseRecOn with
  | nil => cases forgotten
  | append_singleton seen sight inductionHypothesis =>
    rw [completions_append, Nat.add_eq_zero_iff] at idle
    rw [List.mem_append, List.mem_singleton] at forgotten
    rw [← List.append_assoc, kept_append]
    cases sight with
    | forgotten => rfl
    | loaded ticket answer now => cases idle.2
    | _ => exact inductionHypothesis idle.1 (forgotten.resolve_right (by simp))

/-- A list at hand was brought by a load. -/
theorem load_of_kept {log : List Sight} {cached : CachedList} (found : kept log = some cached) :
    ∃ ticket, .loaded ticket (.ok cached.instances) cached.loadedAt ∈ log := by
  rcases load_of_foldl_keep found with none | ⟨earlier, ticket, later, rfl⟩
  · cases none
  · exact ⟨ticket, by simp⟩

/-- No load fails, and none gives an empty list. -/
def Plentiful (log : List Sight) : Prop :=
  ∀ loader answer done, .loaded loader answer done ∈ log →
    ∃ first others, answer = .ok (first :: others)

/-- A list at hand is not empty, if no list of the directory is. -/
theorem atHand_eq_nil_iff {log : List Sight} (plentiful : Plentiful log) :
    atHand log = [] ↔ kept log = none := by
  cases found : kept log with
  | none => simp [atHand, found]
  | some cached =>
    obtain ⟨ticket, member⟩ := load_of_kept found
    obtain ⟨first, rest, answer⟩ := plentiful _ _ _ member
    simp [atHand, found, Except.ok.inj answer]

namespace Told

variable {ttl : Duration} {log : List Sight} {state : ServiceState} {ticket : Ticket}
  {instances : List Instance}

/-- Between a list being forgotten and a task that comes later being given the list, some load
completes. -/
theorem load_since_forgotten (told : Told ttl log state) {earlier between later : List Sight}
    (split : log = earlier ++ .forgotten :: between ++ .answered ticket instances :: later)
    (came : Came ticket between) : 0 < completions between := by
  obtain ⟨reload, now, ahead, member⟩ := came
  obtain ⟨front, back, rfl⟩ := List.append_of_mem member
  have coming : log = (earlier ++ .forgotten :: front) ++ .came ticket reload now ahead :: back ++
      .answered ticket instances :: later := split.trans (by simp)
  rw [completions_coming]
  rcases told.fresh_or_load coming with ⟨_, cached, found, _⟩ | loads
  · rw [List.append_cons, kept_append, kept_append] at found
    rcases load_of_foldl_keep found with none | ⟨first, loader, rest, rfl⟩
    · cases none
    · exact Nat.add_pos_left (completions_pos (List.mem_append_right _ List.mem_cons_self)) _
  · exact Nat.add_pos_right _ loads

end Told

namespace Traffic

variable (service : String) (ttl : Duration) (now : Instant) (moves : List Move)

/-- A task is given an empty list just if the list is forgotten while it waits, after a load has
completed and before the next one does.

What a task is given is what is at hand then. The task has found it fresh at once, or a load
has completed while it waited; a load brings a list that is not empty, so the list must have
been forgotten since. -/
theorem lost_iff (plentiful : Plentiful ((start ttl now).log service moves))
    (earlier between later : List Sight) (ticket : Ticket) (reload : Bool) (came : Instant)
    (ahead : Nat) (instances : List Instance)
    (split : (start ttl now).log service moves =
      earlier ++ .came ticket reload came ahead :: between ++ .answered ticket instances :: later) :
    instances = [] ↔ ∃ front back, between = front ++ .forgotten :: back ∧
      0 < completions front ∧ completions back = 0 := by
  have told := (told_and_lined service ttl now moves).1
  have inside : Plentiful (earlier ++ .came ticket reload came ahead :: between) := by
    intro loader answer done member
    refine plentiful loader answer done ?_
    rw [split]
    exact List.mem_append_left _ member
  rw [(told.justified.of_split split).1, atHand_eq_nil_iff inside]
  constructor
  · intro gone
    rcases told.fresh_or_load split with ⟨rfl, cached, found, _⟩ | loads
    · rw [kept_append, found] at gone
      cases gone
    · obtain ⟨front, loader, answer, done, back, rfl, quiet⟩ := exists_last_load loads
      obtain ⟨first, others, rfl⟩ := inside loader answer done (by simp)
      have forgotten : .forgotten ∈ back := by
        by_contra remembered
        rw [← List.cons_append, ← List.append_assoc, kept_of_last_load quiet remembered] at gone
        cases gone
      obtain ⟨middle, rest, rfl⟩ := List.append_of_mem forgotten
      rw [completions_append, Nat.add_eq_zero_iff] at quiet
      exact ⟨front ++ .loaded loader (.ok (first :: others)) done :: middle, rest, by simp,
        completions_pos (List.mem_append_right _ List.mem_cons_self), quiet.2⟩
  · rintro ⟨front, back, rfl, _, quiet⟩
    rw [← List.cons_append, ← List.append_assoc]
    exact kept_of_forgotten _ quiet List.mem_cons_self

/-- What the directory lists in the runs below. -/
def listed : List Instance := [.ofAddress "orders" "10.0.0.1" 80]

/-- A list comes and is forgotten while a second task waits for the lock. -/
def forgottenMeanwhile : List Move :=
  [.get "orders", .get "orders", .answer 0 .turn, .answer 0 .lock, .answer 1 .turn,
    .answer 0 (.listing (.ok listed)), .invalidate "orders", .answer 1 .lock]

/-- What is seen of that. The second task is given no instances. -/
theorem log_forgottenMeanwhile :
    (start (.ofMillis 1000) 0).log "orders" forgottenMeanwhile =
      [.came 0 false 0 0, .called 0, .came 1 false 0 1, .loaded 0 (.ok listed) 0,
        .answered 0 listed, .forgotten, .answered 1 []] := by
  rfl

/-- The directory lists an instance in each of its answers here. -/
theorem plentiful_forgottenMeanwhile :
    Plentiful ((start (.ofMillis 1000) 0).log "orders" forgottenMeanwhile) := by
  intro loader answer done member
  rw [log_forgottenMeanwhile] at member
  simp only [List.mem_cons, List.not_mem_nil, reduceCtorEq, Sight.loaded.injEq, or_false,
    false_or] at member
  obtain ⟨-, rfl, -⟩ := member
  exact ⟨_, _, rfl⟩

/-- The law at work here: the second task is given no instances although the directory always
lists one, for the list is forgotten after its load and before the next one. -/
theorem lost_iff_forgottenMeanwhile :
    let log := (start (.ofMillis 1000) 0).log "orders" forgottenMeanwhile
    Plentiful log ∧ ∃ earlier between later,
      log = earlier ++ .came 1 false 0 1 :: between ++ .answered 1 [] :: later ∧
        ∃ front back, between = front ++ .forgotten :: back ∧
          0 < completions front ∧ completions back = 0 := by
  intro log
  have split : log = [.came 0 false 0 0, .called 0] ++ .came 1 false 0 1 ::
      [.loaded 0 (.ok listed) 0, .answered 0 listed, .forgotten] ++ .answered 1 [] :: [] :=
    log_forgottenMeanwhile
  exact ⟨plentiful_forgottenMeanwhile, _, _, _, split,
    (lost_iff "orders" (.ofMillis 1000) 0 forgottenMeanwhile plentiful_forgottenMeanwhile _ _ _ _ _
      _ _ _ split).mp rfl⟩

/-- A task can be given an empty list although the directory never gives one. -/
theorem exists_lost :
    ¬ ∀ (service : String) (ttl : Duration) (now : Instant) (moves : List Move),
      Plentiful ((start ttl now).log service moves) →
      ∀ ticket, .answered ticket [] ∉ (start ttl now).log service moves := by
  intro never
  refine never "orders" (.ofMillis 1000) 0 forgottenMeanwhile plentiful_forgottenMeanwhile 1 ?_
  rw [log_forgottenMeanwhile]
  simp

/-- Who comes after the list was forgotten is given the list of the last load that has completed
since, or none if it was forgotten again later than that. The load has begun since, or was under
way then.

Some load has completed since, or the task would still wait; the task is given what is at hand,
and that is told by the last load and by whether the list was forgotten after it. -/
theorem answered_since_forgotten (earlier between later : List Sight) (ticket : Ticket)
    (instances : List Instance)
    (split : (start ttl now).log service moves =
      earlier ++ .forgotten :: between ++ .answered ticket instances :: later)
    (came : Came ticket between)
    (unfailing : ∀ loader fault done, .loaded loader (.error fault) done ∉ between) :
    ∃ front loader given done back,
      between = front ++ .loaded loader (.ok given) done :: back ∧ completions back = 0 ∧
        (.called loader ∈ front ∨ .called loader ∈ earlier) ∧
        (.forgotten ∉ back → instances = given) ∧ (.forgotten ∈ back → instances = []) := by
  have told := (told_and_lined service ttl now moves).1
  obtain ⟨front, loader, answer, done, back, rfl, quiet⟩ :=
    exists_last_load (told.load_since_forgotten split came)
  have atHand := (told.justified.of_split split).1
  have loading : (start ttl now).log service moves = (earlier ++ .forgotten :: front) ++
      .loaded loader answer done :: (back ++ .answered ticket instances :: later) :=
    split.trans (by simp)
  have called : .called loader ∈ earlier ++ .forgotten :: front := by
    have member : .loaded loader answer done ∈ (start ttl now).log service moves := by
      rw [loading]
      simp
    exact told.traced.mem_earlier loading rfl rfl (told.traced.called_of_loaded member)
      (by simp [Sight.rank])
  cases answer with
  | error fault => exact absurd (by simp) (unfailing loader fault done)
  | ok given =>
    refine ⟨front, loader, given, done, back, rfl, quiet, ?_, fun remembered => ?_,
      fun forgotten => ?_⟩
    · simpa [or_comm] using called
    · rw [atHand, CallRouting.atHand, ← List.cons_append, ← List.append_assoc,
        kept_of_last_load quiet remembered]
      rfl
    · rw [atHand, CallRouting.atHand, ← List.cons_append, List.append_cons, ← List.append_assoc,
        kept_of_forgotten _ quiet forgotten]
      rfl

/-- A list is forgotten while it is loaded, and a task comes after it is there. -/
def forgottenAloft : List Move :=
  [.get "orders", .answer 0 .turn, .answer 0 .lock, .invalidate "orders", .get "orders",
    .answer 0 (.listing (.ok listed)), .answer 1 .turn]

/-- What is seen of that. The second task is given the list that was asked for before. -/
theorem log_forgottenAloft :
    (start (.ofMillis 1000) 0).log "orders" forgottenAloft =
      [.came 0 false 0 0, .called 0] ++ .forgotten ::
        [.loaded 0 (.ok listed) 0,
          .answered 0 listed, .came 1 false 0 0] ++
        .answered 1 listed :: [] := by
  rfl

/-- The law at work here: the list that the second task is given was asked for before the list
was forgotten, and came after that. -/
theorem answered_since_forgotten_aloft :
    let log := (start (.ofMillis 1000) 0).log "orders" forgottenAloft
    ∃ earlier between later instances,
      log = earlier ++ .forgotten :: between ++ .answered 1 instances :: later ∧
        Came 1 between ∧ (∀ loader fault done, .loaded loader (.error fault) done ∉ between) ∧
        ∃ front loader given done back,
          between = front ++ .loaded loader (.ok given) done :: back ∧ completions back = 0 ∧
            (.called loader ∈ front ∨ .called loader ∈ earlier) ∧
            (.forgotten ∉ back → instances = given) ∧ (.forgotten ∈ back → instances = []) := by
  intro log
  let between : List Sight := [.loaded 0 (.ok listed) 0, .answered 0 listed, .came 1 false 0 0]
  have came : Came 1 between := ⟨false, 0, 0, by simp [between]⟩
  have unfailing : ∀ loader fault done, .loaded loader (.error fault) done ∉ between := by
    simp [between]
  exact ⟨_, between, _, _, log_forgottenAloft, came, unfailing,
    answered_since_forgotten "orders" (.ofMillis 1000) 0 forgottenAloft _ _ _ _ _
      log_forgottenAloft came unfailing⟩

/-- A task that comes after a list was forgotten can be given one that was asked for before. -/
theorem exists_outdated :
    ¬ ∀ (service : String) (ttl : Duration) (now : Instant) (moves : List Move)
      (earlier between later : List Sight) (ticket : Ticket) (instances : List Instance),
      (start ttl now).log service moves =
        earlier ++ .forgotten :: between ++ .answered ticket instances :: later →
      Came ticket between →
      (∀ loader fault done, .loaded loader (.error fault) done ∉ between) →
      ∃ front loader done back,
        between = front ++ .loaded loader (.ok instances) done :: back ∧
          .called loader ∈ front := by
  intro always
  obtain ⟨front, loader, done, back, split, called⟩ :=
    always "orders" (.ofMillis 1000) 0 forgottenAloft _ _ _ _ _ log_forgottenAloft
      ⟨false, 0, 0, by simp⟩ (by simp)
  have among := congrArg (.called loader ∈ ·) split
  simp [called] at among

end Traffic

end CallRouting
