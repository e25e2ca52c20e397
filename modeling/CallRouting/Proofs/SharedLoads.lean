import CallRouting.Proofs.LoadLine

/-!
# One load for all who wait

Where tasks come only to get a list, nobody in line has seen more than one load complete.
Whoever gets the lock next has either seen none, and loads, or one, and takes the list at
hand. So a task that comes for a list that is not fresh, and loads it, loads it for all
that come before its load completes, whether it succeeds or fails.
-/

namespace CallRouting

/-- Whether a sight can be seen where tasks come only to get the list. -/
def Sight.OfGets : Sight → Prop
  | .came _ reload _ _ => reload = false
  | .forgotten => False
  | .called _ | .loaded .. | .answered .. | .left _ => True

/-- Nobody loads in any case, and nothing is forgotten. -/
def OnlyGets (log : List Sight) : Prop := ∀ sight ∈ log, sight.OfGets

/-- There is no list at hand, or it has expired. -/
def Stale (ttl : Duration) (log : List Sight) (now : Instant) : Prop :=
  ∀ cached, kept log = some cached → cached.loadedAt + ttl.nanos < now

/-- Who asks the directory has seen no load complete, and who is given a list has seen no
other load than the one that brought it. -/
def Sight.Shared (log : List Sight) : Sight → Prop
  | .called ticket | .loaded ticket _ _ => completions log = completions (before ticket log)
  | .answered ticket _ => completions log ≤ completions (before ticket log) + 1
  | .came .. | .left _ | .forgotten => True

/-- The tasks of a service share their loads. -/
structure Shares (log : List Sight) (state : ServiceState) : Prop where
  waiting : ∀ ticket ∈ state.slot.lock.line,
    completions log ≤ completions (before ticket log) + 1
  loading : ∀ ticket, state.phase? ticket = some .loading →
    completions log = completions (before ticket log)
  shared : Always Sight.Shared log

/-- One load more is noticed: the counter of 64 bits that has gone on by one is another number,
even where it runs over. -/
theorem ofNat_succ_ne (count : Nat) : UInt64.ofNat (count + 1) ≠ UInt64.ofNat count := by
  intro same
  have numbers := congrArg UInt64.toNat same
  simp only [UInt64.toNat_ofNat'] at numbers
  omega

/-- Of two tasks in a log, the one that came earlier had seen less. -/
theorem completions_before_le {first second : Ticket} {log : List Sight}
    (sooner : (before first log).length ≤ (before second log).length) :
    completions (before first log) ≤ completions (before second log) :=
  completions_le
    (List.prefix_of_prefix_length_le (before_part first log) (before_part second log) sooner)

namespace Shares

variable {ttl : Duration} {log : List Sight} {state after : ServiceState} {seen : List Sight}
  {ticket : Ticket}

/-- Who is about to ask the directory has seen no load complete.

It has noted the count of loads when it came and has found it unchanged. At most one load has
completed since, and one more load would have changed the count, even where it runs over. -/
theorem unchanged (shares : Shares log state) (told : Told ttl log state) (onlyGets : OnlyGets log)
    {noted : Option UInt64} (phase : state.phase? ticket = some (.queued noted))
    (holds : state.slot.lock.holder? = some ticket)
    (same : ∀ count, noted = some count → count = state.slot.loads) :
    completions log = completions (before ticket log) := by
  obtain ⟨reload, now, ahead, coming⟩ := told.traced.came phase rfl
  cases onlyGets _ coming
  obtain ⟨count, rfl⟩ := told.traced.noted_of_came phase coming
  have numbers := (same count rfl).symm.trans (told.noted ticket count phase)
  rw [told.loads] at numbers
  have most := shares.waiting ticket (List.mem_of_mem_head? holds)
  have least := completions_le (before_part ticket log)
  by_contra differs
  have one : completions log = completions (before ticket log) + 1 := by omega
  rw [one] at numbers
  exact ofNat_succ_ne _ numbers

/-- A load takes its task out of the line, and whoever stood behind it came later. -/
theorem waiting_step (shares : Shares log state) (told : Told ttl log state)
    (lined : Lined log state)
    (stepped : state.Step ttl after seen) (member : ticket ∈ after.slot.lock.line) :
    completions (log ++ seen) ≤ completions (before ticket (log ++ seen)) + 1 := by
  -- Without a load in the step, whoever waited does so with as many loads behind it as before, and
  -- whoever has just come with none.
  have idle (quiet : completions seen = 0) :
      completions (log ++ seen) ≤ completions (before ticket (log ++ seen)) + 1 := by
    rw [completions_append, quiet, Nat.add_zero]
    rcases Lined.line_step stepped with shorter | ⟨other, reload, phase, rfl, longer⟩
    · have waited := shorter.subset member
      rw [before_append (lined.came told.traced waited)]
      exact shares.waiting ticket waited
    · rw [longer, List.mem_append, List.mem_singleton] at member
      rcases member with waited | rfl
      · rw [before_append (lined.came told.traced waited)]
        exact shares.waiting ticket waited
      · rw [before_split (told.traced.not_came phase)]
        exact Nat.le_succ _
  cases stepped with
  | load other answer phase =>
    have holds := lined.first other phase
    have behind : ticket ∈ state.slot.lock.release.line := member
    have waited := ((lined.mem_release holds ticket).mp behind).2
    have sorted := lined.sorted
    rw [state.slot.lock.line_release other holds, List.pairwise_cons] at sorted
    have later := completions_before_le (Nat.le_of_lt (sorted.1 ticket behind))
    rw [before_append (lined.came told.traced waited), completions_append,
      shares.loading other phase]
    exact Nat.add_le_add_right later 1
  | _ => exact idle rfl

/-- While a task waits for the directory no load completes. -/
theorem loading_step (shares : Shares log state) (told : Told ttl log state)
    (lined : Lined log state)
    (onlyGets : OnlyGets log) (stepped : state.Step ttl after seen)
    (loading : after.phase? ticket = some .loading) :
    completions (log ++ seen) = completions (before ticket (log ++ seen)) := by
  -- Most steps neither complete a load nor begin one.
  have old (quiet : completions seen = 0) (same : state.phase? ticket = some .loading) :
      completions (log ++ seen) = completions (before ticket (log ++ seen)) := by
    rw [before_append (told.traced.came same rfl), completions_append, quiet]
    exact shares.loading ticket same
  cases stepped with
  | quiet now nextTicket later further => exact old rfl loading
  | forget => exact old rfl loading
  | call other noted phase holds same =>
    rw [ServiceState.phase?_put] at loading
    split at loading
    · rename_i here
      subst here
      rw [before_append (told.traced.came phase rfl), completions_append]
      exact shares.unchanged told onlyGets phase holds same
    · exact old rfl loading
  | load other answer phase =>
    -- No other task loads, since both would hold the lock.
    obtain ⟨differs, same⟩ := ServiceState.phase?_of_put loading (by simp)
    have holders := (lined.first ticket same).symm.trans (lined.first other phase)
    exact absurd (Option.some.inj holders) differs
  | _ => exact old rfl (ServiceState.phase?_of_put loading (by simp)).2

/-- A step that answers a task, or has it call, does so with one load more than there were when it
came, at most.

Whoever gets a fresh list gets it as it comes; whoever calls has seen no load since; and whoever
waits in line or loads has seen at most the one that it is answered by. -/
theorem shared_step (shares : Shares log state) (told : Told ttl log state)
    (onlyGets : OnlyGets log) (stepped : state.Step ttl after seen) :
    Always Sight.Shared (log ++ seen) := by
  have shared := shares.shared
  cases stepped with
  | quiet now nextTicket later further => rwa [List.append_nil]
  | ask reload => rwa [List.append_nil]
  | fresh ticket cached phase found =>
    refine shared.pair trivial (Nat.le_succ_of_le ?_)
    rw [before_split (told.traced.not_came phase), completions_append]
    exact Nat.le_refl _
  | reuse ticket count phase holds changed =>
    exact shared.snoc (shares.waiting ticket (List.mem_of_mem_head? holds))
  | call ticket noted phase holds same =>
    exact shared.snoc (shares.unchanged told onlyGets phase holds same)
  | load ticket answer phase =>
    refine shared.pair (shares.loading ticket phase) ?_
    change completions _ ≤ completions _ + 1
    rw [before_append (told.traced.came phase rfl), completions_append,
      shares.loading ticket phase]
    exact Nat.le_refl _
  | _ => exact shared.snoc trivial

/-- A step keeps the loads shared. Each field has a lemma of its own above. -/
theorem step (shares : Shares log state) (told : Told ttl log state) (lined : Lined log state)
    (onlyGets : OnlyGets log) (stepped : state.Step ttl after seen) :
    Shares (log ++ seen) after where
  waiting _ := shares.waiting_step told lined stepped
  loading _ := shares.loading_step told lined onlyGets stepped
  shared := shares.shared_step told onlyGets stepped

end Shares

/-- Of two different sights in a log, one comes first. -/
theorem split_or_split {front back front' back' : List Sight} {first second : Sight}
    (same : front ++ first :: back = front' ++ second :: back') (differs : first ≠ second) :
    (∃ between, front' = front ++ first :: between) ∨
      ∃ between, front = front' ++ second :: between := by
  rcases List.append_eq_append_iff.mp same with ⟨between, rfl, rest⟩ | ⟨between, rfl, rest⟩
  · cases between with
    | nil => exact absurd (List.cons.inj rest).1 differs
    | cons head between =>
      obtain ⟨rfl, rfl⟩ := List.cons.inj rest
      exact .inl ⟨between, rfl⟩
  · cases between with
    | nil => exact absurd (List.cons.inj rest).1.symm differs
    | cons head between =>
      obtain ⟨rfl, rfl⟩ := List.cons.inj rest
      exact .inr ⟨between, rfl⟩

/-- A load in a log whose task came to get the list. -/
structure Flight (log : List Sight) where
  /-- What had been seen when the task came. -/
  earlier : List Sight
  first : Ticket
  now : Instant
  ahead : Nat
  /-- What was seen until the directory answered it. -/
  between : List Sight
  answer : Except DirectoryFault (List Instance)
  done : Instant
  later : List Sight
  split : log = earlier ++ .came first false now ahead :: between ++
    .loaded first answer done :: later

namespace Flight

variable {ttl : Duration} {log : List Sight} {state : ServiceState} {ticket : Ticket}

/-- What was seen when the directory answered. -/
def aloft (flight : Flight log) : List Sight :=
  flight.earlier ++ .came flight.first false flight.now flight.ahead :: flight.between

/-- What was seen when the directory answered is a beginning of the log. -/
theorem aloft_part (flight : Flight log) : flight.aloft <+: log :=
  ⟨_, flight.split.symm⟩

/-- The coming of the first task is in the log. -/
theorem first_mem (flight : Flight log) :
    .came flight.first false flight.now flight.ahead ∈ log :=
  flight.aloft_part.subset (by simp [aloft])

/-- The load of the first task is in the log. -/
theorem loaded_mem (flight : Flight log) :
    .loaded flight.first flight.answer flight.done ∈ log := by
  have part : flight.aloft ++ [.loaded flight.first flight.answer flight.done] <+: log :=
    ⟨flight.later, (List.append_cons ..).symm.trans flight.split.symm⟩
  exact part.subset (by simp)

/-- A task came no earlier than the first one and before the directory answered. -/
def Carries (flight : Flight log) (ticket : Ticket) : Prop :=
  Came ticket (.came flight.first false flight.now flight.ahead :: flight.between)

/-- A task that a load carries has come. -/
theorem Carries.came {flight : Flight log} (carried : flight.Carries ticket) : Came ticket log := by
  obtain ⟨reload, moment, place, member⟩ := carried
  refine ⟨reload, moment, place, ?_⟩
  rw [flight.split]
  exact List.mem_append_left _ (List.mem_append_right _ member)

/-- What the load gives: the directory's list, or in place of a failure the list at hand. -/
def given (flight : Flight log) : List Instance :=
  match flight.answer with
  | .ok instances => instances
  | .error _ => atHand flight.earlier

/-- Until the first task has its answer no load completes. -/
theorem completions_aloft (flight : Flight log) (traced : Traced log state)
    (shares : Shares log state) : completions flight.aloft = completions flight.earlier := by
  have untouched := shares.shared.of_split flight.split
  rwa [Sight.Shared, traced.before_front flight.split] at untouched

/-- Who comes in the meantime comes after the first task: what was seen before it includes all
that was seen before the first, and is part of what was seen before the directory answered. -/
theorem before_carried (flight : Flight log) (traced : Traced log state)
    (carried : flight.Carries ticket) :
    flight.earlier <+: before ticket log ∧ before ticket log <+: flight.aloft ∧
      (ticket ≠ flight.first →
        .came flight.first false flight.now flight.ahead ∈ before ticket log) := by
  obtain ⟨reload, moment, place, member⟩ := carried
  obtain ⟨front, back, cut⟩ := List.append_of_mem member
  have split : log = (flight.earlier ++ front) ++ .came ticket reload moment place ::
      (back ++ .loaded flight.first flight.answer flight.done :: flight.later) :=
    flight.split.trans (by rw [cut]; simp)
  rw [traced.before_eq split, aloft, cut]
  refine ⟨List.prefix_append _ _, ⟨_, by rw [List.append_assoc]⟩, fun differs => ?_⟩
  cases front with
  | nil =>
    cases (List.cons.inj cut).1
    exact absurd rfl differs
  | cons head front =>
    obtain ⟨rfl, _⟩ := List.cons.inj cut
    simp

/-- Who comes in the meantime has seen no load more than the first task. -/
theorem completions_before (flight : Flight log) (traced : Traced log state)
    (shares : Shares log state) (carried : flight.Carries ticket) :
    completions (before ticket log) = completions flight.earlier := by
  obtain ⟨after, within, _⟩ := flight.before_carried traced carried
  refine Nat.le_antisymm ?_ (completions_le after)
  exact (flight.completions_aloft traced shares) ▸ completions_le within

/-- What comes later than the answer of the directory has seen one load more. -/
theorem completions_landed (flight : Flight log) (traced : Traced log state)
    (shares : Shares log state) (further : List Sight) :
    completions (flight.aloft ++ .loaded flight.first flight.answer flight.done :: further) =
      completions flight.earlier + 1 + completions further := by
  have one : completions (.loaded flight.first flight.answer flight.done :: further) =
      completions further + 1 := List.countP_cons_of_pos rfl
  rw [completions_append, flight.completions_aloft traced shares, one, Nat.add_assoc,
    Nat.add_comm 1]

/-- The first task alone asks the directory. -/
theorem eq_first_of_called (flight : Flight log) (traced : Traced log state)
    (lined : Lined log state) (shares : Shares log state) (carried : flight.Carries ticket)
    (called : .called ticket ∈ log) : ticket = flight.first := by
  by_contra differs
  obtain ⟨front, back, split⟩ := List.append_of_mem called
  have same := traced.before_of_split split rfl Nat.one_pos carried.came
  rcases split_or_split (flight.split.symm.trans split) (by simp) with
    ⟨further, rfl⟩ | ⟨further, sooner⟩
  · -- After the answer it has seen a load complete, and would not ask.
    have untouched := shares.shared.of_split split
    rw [Sight.Shared, same, flight.completions_before traced shares carried] at untouched
    have landed := flight.completions_landed traced shares further
    rw [aloft] at landed
    omega
  · -- Before the answer the first task stands in line before it.
    obtain ⟨_, _, ahead⟩ := flight.before_carried traced carried
    have first := (lined.inTurn.of_split split).1 flight.first
      (same ▸ ⟨false, flight.now, flight.ahead, ahead differs⟩)
    have inside (sight : Sight) (member : sight ∈ front) : sight ∈ flight.aloft := by
      rw [aloft, sooner]
      exact List.mem_append_left _ member
    rcases first with ⟨instances, member⟩ | member
    · have sooner := traced.rank_lt_of_mem flight.split rfl rfl (inside _ member)
      exact absurd sooner (by simp [Sight.rank])
    · have sooner := traced.rank_lt_of_mem flight.split rfl rfl (inside _ member)
      exact absurd sooner (by simp [Sight.rank])

/-- Where only gets run, the list at hand stays until a load completes. -/
theorem kept_append_of_onlyGets {seen : List Sight} (onlyGets : OnlyGets seen) (log : List Sight)
    (idle : completions seen = 0) : kept (log ++ seen) = kept log :=
  kept_append_of_quiet log idle fun forgotten => onlyGets _ forgotten

/-- The list at hand does not change until the directory answers. -/
theorem kept_within (flight : Flight log) (traced : Traced log state) (shares : Shares log state)
    (onlyGets : OnlyGets log) {front : List Sight} (after : flight.earlier <+: front)
    (within : front <+: flight.aloft) : kept front = kept flight.earlier := by
  obtain ⟨seen, rfl⟩ := after
  have idle := completions_le within
  rw [flight.completions_aloft traced shares, completions_append] at idle
  refine kept_append_of_onlyGets (fun sight member => onlyGets sight ?_) _ (by omega)
  rw [flight.split]
  exact List.mem_append_left _ (within.subset (List.mem_append_right _ member))

/-- Nobody who comes in the meantime is given a list before the directory answers.

A list that is given without a load would have to be fresh when its task came, but it was too old
already when the first task came. A load that completes would be one in the meantime, and there is
none. -/
theorem not_answered_aloft (flight : Flight log) (told : Told ttl log state)
    (shares : Shares log state) (onlyGets : OnlyGets log)
    (stale : Stale ttl flight.earlier flight.now) (carried : flight.Carries ticket)
    {front back : List Sight} {instances : List Instance}
    (split : log = front ++ .answered ticket instances :: back) : ¬ front <+: flight.aloft := by
  intro within
  have traced := told.traced
  have seen := flight.completions_before traced shares carried
  have most := completions_le within
  obtain ⟨after, inside, behind⟩ := flight.before_carried traced carried
  obtain ⟨reload, now, ahead, between, came⟩ :=
    traced.exists_coming split rfl (by simp [Sight.rank]) carried.came
  rw [came] at split
  rw [flight.completions_aloft traced shares, came, completions_coming, seen] at most
  rcases told.fresh_or_load split with ⟨_, cached, found, young⟩ | loads
  · rw [flight.kept_within traced shares onlyGets after inside] at found
    have coming : log = before ticket log ++ .came ticket reload now ahead ::
        (between ++ .answered ticket instances :: back) := split.trans (by simp)
    have later : flight.now ≤ now := by
      by_cases differs : ticket = flight.first
      · have here : .came ticket reload now ahead ∈ log := by
          rw [split]
          simp
        subst differs
        cases traced.eq_of_rank_eq flight.first_mem here rfl rfl rfl
        exact Nat.le_refl _
      · exact told.moment_le coming rfl (behind differs) rfl
    exact absurd (Nat.lt_of_lt_of_le (stale cached found) later) (Nat.not_lt.mpr young)
  · omega

/-- All who come before the directory answers are given the same list.

They are answered after the directory has, and before any further load, since they see only one.
In between nothing changes the list at hand. -/
theorem eq_given_of_answered (flight : Flight log) (told : Told ttl log state)
    (shares : Shares log state) (onlyGets : OnlyGets log)
    (stale : Stale ttl flight.earlier flight.now) (carried : flight.Carries ticket)
    {instances : List Instance} (answered : .answered ticket instances ∈ log) :
    instances = flight.given := by
  have traced := told.traced
  obtain ⟨front, back, split⟩ := List.append_of_mem answered
  rcases split_or_split (flight.split.symm.trans split) (by simp) with
    ⟨further, landed⟩ | ⟨further, sooner⟩
  · have idle : completions further = 0 := by
      have most := shares.shared.of_split split
      have all := flight.completions_landed traced shares further
      rw [Sight.Shared, traced.before_of_split split rfl (by simp [Sight.rank]) carried.came,
        flight.completions_before traced shares carried] at most
      rw [aloft, ← landed] at all
      omega
    have quiet : OnlyGets further := by
      intro sight member
      refine onlyGets sight ?_
      rw [split, landed]
      simp [member]
    have brought : kept flight.aloft = kept flight.earlier :=
      flight.kept_within traced shares onlyGets (List.prefix_append _ _) (List.prefix_refl _)
    rw [(told.justified.of_split split).1, landed, List.append_cons, atHand,
      kept_append_of_onlyGets quiet _ idle, kept_append, ← aloft, brought, given, atHand]
    cases flight.answer <;> rfl
  · exact absurd ⟨_, sooner.symm⟩
      (flight.not_answered_aloft told shares onlyGets stale carried split)

end Flight

/-- Who comes for a list that is not fresh, and has nobody ahead of it, sees no load complete
before it asks the directory, so it is given nothing before that.

Its place in the line bounds the loads that may complete before it calls, and that place is the
first one. -/
theorem called_of_answered {ttl : Duration} {log : List Sight} {state : ServiceState}
    (told : Told ttl log state) (lined : Lined log state) {earlier rest : List Sight}
    {first : Ticket} {now : Instant} (split : log = earlier ++ .came first false now 0 :: rest)
    (stale : Stale ttl earlier now) {instances : List Instance}
    (answered : .answered first instances ∈ log) : .called first ∈ log := by
  have traced := told.traced
  have coming : .came first false now 0 ∈ log := by rw [split]; simp
  obtain ⟨front, back, answering⟩ := List.append_of_mem answered
  by_contra absent
  have uncalled : .called first ∉ front := fun member =>
    absent (by rw [answering]; exact List.mem_append_left _ member)
  obtain ⟨reload, moment, place, between, came⟩ :=
    traced.exists_coming answering rfl (by simp [Sight.rank]) ⟨_, _, _, coming⟩
  have here : .came first reload moment place ∈ log := by rw [answering, came]; simp
  cases traced.eq_of_rank_eq coming here rfl rfl rfl
  rw [traced.before_eq split] at came
  subst came
  have bounded := (lined.inTurn.of_split answering) uncalled false now 0 (by simp)
  rw [traced.before_front answering, completions_coming] at bounded
  rcases told.fresh_or_load answering with ⟨_, cached, found, young⟩ | loads
  · exact absurd (stale cached found) (Nat.not_lt.mpr young)
  · omega

/-- The first to come for a list that is not fresh loads it, if it is not dropped before.

Being answered it has called, so its load has completed, and that was after it came. -/
theorem exists_flight {ttl : Duration} {log : List Sight} {state : ServiceState}
    (told : Told ttl log state)
    (lined : Lined log state) {earlier rest : List Sight} {first : Ticket} {now : Instant}
    (split : log = earlier ++ .came first false now 0 :: rest) (stale : Stale ttl earlier now)
    {instances : List Instance} (answered : .answered first instances ∈ log) :
    ∃ flight : Flight log,
      flight.earlier = earlier ∧ flight.first = first ∧ flight.now = now ∧ flight.ahead = 0 := by
  have called := called_of_answered told lined split stale answered
  obtain ⟨answer, done, loaded⟩ := told.traced.loaded_of_answered answered called
  obtain ⟨front, later, loading⟩ := List.append_of_mem loaded
  rcases split_or_split (split.symm.trans loading) (by simp) with
    ⟨between, rfl⟩ | ⟨between, sooner⟩
  · exact ⟨⟨earlier, first, now, 0, between, answer, done, later, loading⟩, rfl, rfl, rfl, rfl⟩
  · have member : .loaded first answer done ∈ earlier := by rw [sooner]; simp
    exact absurd (told.traced.rank_lt_of_mem split rfl rfl member) (by simp [Sight.rank])

end CallRouting
