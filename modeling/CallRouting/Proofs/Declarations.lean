import CallRouting.Proofs.Choices

/-!
# Who gets which policy

Callers declare policies at their calls, and the cache answers from its whole history in
three ways: the name is kept, there is no more room, or the policy comes in. The rule behind
it needs no cache. Names come first, first served: the first so many different names are
kept, each with the policy that was declared first under it, and whoever declares another
name, or nothing, gets the default policy.

A cache follows a series of calls if its names are the first ones of the series, in order,
and each leads to its first policy. The step is one call in each of the three ways; the run is
an induction over the calls. Since names are only ever added behind the ones that are there,
an answer is never revised: neither one with a policy that is kept nor one with the default.
-/

namespace CallRouting

namespace PolicyCache

/-- The cache after a series of calls. -/
def after (cache : PolicyCache) (calls : List (Option RetryPolicy)) : PolicyCache :=
  calls.foldl (fun cache call => (cache.resolve call).1) cache

/-- A series of calls may be cut in two. -/
theorem after_append (cache : PolicyCache) (calls more : List (Option RetryPolicy)) :
    cache.after (calls ++ more) = (cache.after calls).after more :=
  List.foldl_append

/-- The names under which calls declare policies, in the order in which they first come. -/
def namesOf (calls : List (Option RetryPolicy)) : List String :=
  ((calls.filterMap id).map RetryPolicy.name).eraseDups

/-- The policy that is declared first under a name. -/
def firstUnder (name : String) (calls : List (Option RetryPolicy)) : Option RetryPolicy :=
  (calls.filterMap id).find? fun declared => decide (declared.name = name)

/-- What a call gets after others, said without a cache: the first policy under its name, if
that is among the first names with this call, and the default policy otherwise. -/
def firstCome (standard : RetryPolicy) (capacity : Nat) (calls : List (Option RetryPolicy)) :
    Option RetryPolicy → Option RetryPolicy
  | none => some standard
  | some declared =>
    if declared.name ∈ (namesOf (calls ++ [some declared])).take capacity then
      firstUnder declared.name (calls ++ [some declared])
    else some standard

/-- A name is declared just if some policy is declared under it. -/
theorem mem_namesOf (name : String) (calls : List (Option RetryPolicy)) :
    name ∈ namesOf calls ↔ (firstUnder name calls).isSome = true := by
  unfold namesOf firstUnder
  rw [List.mem_eraseDups, List.mem_map, List.find?_isSome]
  simp only [decide_eq_true_eq]

/-- Later calls add their new names behind the ones that are there. -/
theorem namesOf_append (calls more : List (Option RetryPolicy)) :
    namesOf (calls ++ more) = namesOf calls ++
      (((more.filterMap id).map RetryPolicy.name).filter (· ∉ namesOf calls)).eraseDups := by
  unfold namesOf
  rw [List.filterMap_append, List.map_append, List.eraseDups_append]
  simp only [List.removeAll, List.mem_eraseDups, List.elem_eq_mem, decide_not]

/-- A call without a policy brings no name. -/
theorem namesOf_none (calls : List (Option RetryPolicy)) :
    namesOf (calls ++ [none]) = namesOf calls := by
  simp [namesOf]

/-- A call with a policy brings its name, unless that was there. -/
theorem namesOf_some (calls : List (Option RetryPolicy)) (declared : RetryPolicy) :
    namesOf (calls ++ [some declared]) =
      if declared.name ∈ namesOf calls then namesOf calls
      else namesOf calls ++ [declared.name] := by
  rw [namesOf_append]
  by_cases old : declared.name ∈ namesOf calls <;> simp [old, List.eraseDups_cons]

/-- Whether a name is among the first ones is settled when it first comes. -/
theorem mem_take_namesOf (calls more : List (Option RetryPolicy)) (capacity : Nat) (name : String)
    (declared : name ∈ namesOf calls) :
    name ∈ (namesOf (calls ++ more)).take capacity ↔ name ∈ (namesOf calls).take capacity := by
  rw [namesOf_append, List.take_append, List.mem_append]
  constructor
  · rintro (before | behind)
    · exact before
    · have new := List.mem_eraseDups.mp (List.mem_of_mem_take behind)
      have absent : name ∉ namesOf calls := of_decide_eq_true (List.mem_filter.mp new).2
      exact absurd declared absent
  · exact .inl

/-- A further call never moves a first policy. -/
theorem firstUnder_append (name : String) (calls more : List (Option RetryPolicy))
    (declared : name ∈ namesOf calls) :
    firstUnder name (calls ++ more) = firstUnder name calls := by
  have found := (mem_namesOf name calls).mp declared
  unfold firstUnder at found ⊢
  rw [List.filterMap_append, List.find?_append, Option.or_of_isSome found]

/-- A new name brings its own policy. -/
theorem firstUnder_new (calls : List (Option RetryPolicy)) (declared : RetryPolicy)
    (fresh : declared.name ∉ namesOf calls) :
    firstUnder declared.name (calls ++ [some declared]) = some declared := by
  have absent : firstUnder declared.name calls = none := by
    rw [← Option.not_isSome_iff_eq_none]
    exact fun present => fresh ((mem_namesOf _ _).mpr present)
  unfold firstUnder at absent ⊢
  rw [List.filterMap_append, List.find?_append, absent]
  simp

/-- A cache keeps the first names of a series of calls, each with its first policy. -/
structure Follows (cache : PolicyCache) (calls : List (Option RetryPolicy)) : Prop where
  names : cache.kept.keys = (namesOf calls).take cache.capacity
  policies : ∀ name ∈ cache.kept.keys, cache.kept.find? name = firstUnder name calls

/-- The three ways in which a cache takes a policy, each with what it leaves and answers. -/
inductive Takes (cache : PolicyCache) (declared : RetryPolicy) : PolicyCache × Resolved → Prop
  | hit (known : declared.name ∈ cache.kept.keys) :
      Takes cache declared (cache, .kept declared.name)
  | comesIn (new : declared.name ∉ cache.kept.keys) (room : cache.kept.size < cache.capacity) :
      Takes cache declared (cache.keep declared room, .kept declared.name)
  | full (new : declared.name ∉ cache.kept.keys) (noRoom : cache.capacity ≤ cache.kept.size) :
      Takes cache declared (cache, .standard)

/-- To resolve a declared policy is one of the three. -/
theorem resolve_takes (cache : PolicyCache) (declared : RetryPolicy) :
    cache.Takes declared (cache.resolve (some declared)) := by
  simp only [resolve, Registry.contains_iff]
  split
  · rename_i known
    exact .hit known
  · rename_i new
    split
    · rename_i room
      exact .comesIn new room
    · rename_i full
      exact .full new (Nat.not_lt.mp full)

/-- The names that are kept after a call, and only they, are answered by their policies. -/
theorem resolved_eq (cache : PolicyCache) (declared : RetryPolicy) :
    (cache.resolve (some declared)).2 =
      if declared.name ∈ (cache.resolve (some declared)).1.kept.keys then .kept declared.name
      else .standard := by
  have takes := cache.resolve_takes declared
  generalize cache.resolve (some declared) = result at takes ⊢
  cases takes with
  | hit known => rw [if_pos known]
  | comesIn new room =>
    have added : declared.name ∈ (cache.keep declared room).kept.keys := by
      simp [keep, Registry.keys_put, new]
    rw [if_pos added]
  | full new noRoom => rw [if_neg new]

/-- A call keeps the default policy. -/
theorem standard_resolve (cache : PolicyCache) (call : Option RetryPolicy) :
    (cache.resolve call).1.standard = cache.standard := by
  cases call with
  | none => rfl
  | some declared =>
    have takes := cache.resolve_takes declared
    generalize cache.resolve (some declared) = result at takes ⊢
    cases takes <;> rfl

/-- A call keeps the number of places. -/
theorem capacity_resolve (cache : PolicyCache) (call : Option RetryPolicy) :
    (cache.resolve call).1.capacity = cache.capacity := by
  cases call with
  | none => rfl
  | some declared =>
    have takes := cache.resolve_takes declared
    generalize cache.resolve (some declared) = result at takes ⊢
    cases takes <;> rfl

/-- No series of calls changes the default policy or the number of places. -/
theorem rules_after (cache : PolicyCache) (calls : List (Option RetryPolicy)) :
    (cache.after calls).standard = cache.standard ∧
      (cache.after calls).capacity = cache.capacity := by
  induction calls generalizing cache with
  | nil => exact ⟨rfl, rfl⟩
  | cons call rest inductionHypothesis =>
    obtain ⟨sameStandard, sameCapacity⟩ := inductionHypothesis (cache.resolve call).1
    constructor
    · exact sameStandard.trans (cache.standard_resolve call)
    · exact sameCapacity.trans (cache.capacity_resolve call)

namespace Follows

variable {cache : PolicyCache} {calls : List (Option RetryPolicy)}

/-- A new cache follows no calls at all. -/
theorem empty (standard : RetryPolicy) (capacity : Nat) :
    (PolicyCache.empty standard capacity).Follows [] := by
  constructor
  · simp [PolicyCache.empty, namesOf, Registry.keys_empty]
  · intro name kept
    cases kept

/-- What a cache keeps has been declared. -/
theorem named (follows : cache.Follows calls) (name : String)
    (kept : name ∈ cache.kept.keys) : name ∈ namesOf calls := by
  rw [follows.names] at kept
  exact List.mem_of_mem_take kept

/-- As long as there is room, all names are kept. -/
theorem keys_of_room (follows : cache.Follows calls) (room : cache.kept.size < cache.capacity) :
    cache.kept.keys = namesOf calls ∧ (namesOf calls).length < cache.capacity := by
  have short : (namesOf calls).length < cache.capacity := by
    rw [cache.kept.size_eq, follows.names, List.length_take] at room
    omega
  constructor
  · rw [follows.names, List.take_of_length_le (Nat.le_of_lt short)]
  · exact short

/-- A full cache has got all the names that it ever will. -/
theorem length_of_full (follows : cache.Follows calls)
    (full : cache.capacity ≤ cache.kept.size) : cache.capacity ≤ (namesOf calls).length := by
  rw [cache.kept.size_eq, follows.names, List.length_take] at full
  omega

/-- One call more.

The three ways to take a policy leave the names as they are, or add one behind them. What is
full stays full, so a name beyond the places changes nothing. -/
theorem step (follows : cache.Follows calls) (call : Option RetryPolicy) :
    (cache.resolve call).1.Follows (calls ++ [call]) := by
  cases call with
  | none =>
    constructor
    · rw [namesOf_none]
      exact follows.names
    · intro name kept
      rw [firstUnder_append name calls [none] (follows.named name kept)]
      exact follows.policies name kept
  | some declared =>
    -- A name that stays keeps its first policy, however the call is answered.
    have policies : ∀ name ∈ cache.kept.keys,
        cache.kept.find? name = firstUnder name (calls ++ [some declared]) := by
      intro name kept
      rw [firstUnder_append name calls _ (follows.named name kept)]
      exact follows.policies name kept
    have takes := cache.resolve_takes declared
    generalize cache.resolve (some declared) = result at takes ⊢
    cases takes with
    | hit known =>
      constructor
      · rw [namesOf_some, if_pos (follows.named _ known)]
        exact follows.names
      · exact policies
    | comesIn new room =>
      obtain ⟨keys, short⟩ := follows.keys_of_room room
      have fresh : declared.name ∉ namesOf calls := keys ▸ new
      constructor
      · have fits : (namesOf calls ++ [declared.name]).length ≤ cache.capacity := by
          rw [List.length_append, List.length_singleton]
          omega
        change (cache.kept.put declared.name declared).keys = _
        rw [Registry.keys_put, if_neg new, namesOf_some, if_neg fresh, keys]
        exact (List.take_of_length_le fits).symm
      · intro name kept
        change (cache.kept.put declared.name declared).find? name = _
        rw [Registry.find?_put]
        split
        · rename_i same
          rw [← same, firstUnder_new calls declared fresh]
        · rename_i other
          change name ∈ (cache.kept.put declared.name declared).keys at kept
          rw [Registry.keys_put, if_neg new, List.mem_append, List.mem_singleton] at kept
          exact policies name (kept.resolve_right (Ne.symm other))
    | full new noRoom =>
      constructor
      · have enough := follows.length_of_full noRoom
        rw [namesOf_some]
        split
        · exact follows.names
        · rw [List.take_append_of_le_length enough]
          exact follows.names
      · exact policies

/-- A cache that follows some calls follows further ones, as they are resolved one by one. -/
theorem after (follows : cache.Follows calls) (more : List (Option RetryPolicy)) :
    (cache.after more).Follows (calls ++ more) := by
  induction more generalizing cache calls with
  | nil => rwa [List.append_nil]
  | cons call rest inductionHypothesis =>
    have next := inductionHypothesis (follows.step call)
    rwa [List.append_assoc] at next

/-- The policy that is kept under a name stays, whatever is called. -/
theorem find?_after (follows : cache.Follows calls) (more : List (Option RetryPolicy))
    (name : String) (kept : name ∈ cache.kept.keys) :
    (cache.after more).kept.find? name = cache.kept.find? name := by
  have later := follows.after more
  have declared := follows.named name kept
  have stays : name ∈ (cache.after more).kept.keys := by
    rw [later.names, (cache.rules_after more).2, mem_take_namesOf calls more _ _ declared]
    exact follows.names ▸ kept
  rw [later.policies name stays, firstUnder_append name calls more declared,
    follows.policies name kept]

/-- Which of the shared policies a declaration stands for, by the first names. -/
theorem resolved_eq (follows : cache.Follows calls) (declared : RetryPolicy) :
    (cache.resolve (some declared)).2 =
      if declared.name ∈ (namesOf (calls ++ [some declared])).take cache.capacity then
        .kept declared.name
      else .standard := by
  rw [PolicyCache.resolved_eq, (follows.step (some declared)).names, capacity_resolve]

/-- The policy that a call gets, by the first names.

A name among the first ones is kept, and under it the policy that came first; any other name gets
the default. -/
theorem policy_eq (follows : cache.Follows calls) (call : Option RetryPolicy) :
    some ((cache.resolve call).1.policy (cache.resolve call).2) =
      firstCome cache.standard cache.capacity calls call := by
  cases call with
  | none => rfl
  | some declared =>
    have next := follows.step (some declared)
    rw [follows.resolved_eq declared, firstCome]
    by_cases first :
        declared.name ∈ (namesOf (calls ++ [some declared])).take cache.capacity
    · have kept : declared.name ∈ (cache.resolve (some declared)).1.kept.keys := by
        rw [next.names, capacity_resolve]
        exact first
      have named := (mem_namesOf _ _).mp (List.mem_of_mem_take first)
      obtain ⟨own, found⟩ := Option.isSome_iff_exists.mp named
      rw [if_pos first, if_pos first]
      simp only [policy, next.policies declared.name kept, found, Option.getD_some]
    · rw [if_neg first, if_neg first]
      simp only [policy, standard_resolve]

/-- What an answer stands for stays the same, whatever is called. -/
theorem policy_after (follows : cache.Follows calls) (call : Option RetryPolicy)
    (later : List (Option RetryPolicy)) :
    ((cache.resolve call).1.after later).policy (cache.resolve call).2 =
      (cache.resolve call).1.policy (cache.resolve call).2 := by
  have fixed := ((cache.resolve call).1.rules_after later).1
  cases call with
  | none => exact fixed
  | some declared =>
    rw [PolicyCache.resolved_eq]
    split
    · rename_i kept
      simp only [policy, (follows.step _).find?_after later declared.name kept, fixed]
    · exact fixed

/-- A name that has been declared is answered in the same way from then on. -/
theorem resolved_after (follows : cache.Follows calls) (declared again : RetryPolicy)
    (later : List (Option RetryPolicy)) (same : again.name = declared.name) :
    (((cache.resolve (some declared)).1.after later).resolve (some again)).2 =
      (cache.resolve (some declared)).2 := by
  have known : declared.name ∈ namesOf (calls ++ [some declared]) := by
    rw [namesOf_some]
    split
    · assumption
    · exact List.mem_append_right _ (List.mem_singleton.mpr rfl)
  have next := (follows.step (some declared)).after later
  rw [next.resolved_eq again, follows.resolved_eq declared, (PolicyCache.rules_after _ later).2,
    capacity_resolve, same, List.append_assoc]
  simp only [mem_take_namesOf _ _ _ _ known]

end Follows

/-- The policy cache against its rule, for every default policy, every number of places and
every series of calls. The next call gets what comes first, first served: the first policy
under its name if that is among the first names, this call counted, and the default policy
otherwise or without a name. As many names are kept as there are different ones, up to the
number of places. And no answer is ever revised: it stands for the same policy at all later
times, and every later call under the same name gets the same answer.

By induction over the calls the cache keeps the first names, each with its first policy. A name
that is among the first ones stays so, whatever is declared later, so no answer changes. -/
theorem first_come_first_served (standard : RetryPolicy) (capacity : Nat)
    (calls : List (Option RetryPolicy)) (call : Option RetryPolicy) :
    let next := (((empty standard capacity).after calls).resolve call).1
    let resolved := (((empty standard capacity).after calls).resolve call).2
    some (next.policy resolved) = firstCome standard capacity calls call ∧
      next.size = min capacity (namesOf (calls ++ [call])).length ∧
      (∀ later, (next.after later).policy resolved = next.policy resolved) ∧
      (call = none → resolved = .standard) ∧
      ∀ declared, call = some declared →
        (resolved =
          if declared.name ∈ (namesOf (calls ++ [call])).take capacity then .kept declared.name
          else .standard) ∧
        ∀ again later, again.name = declared.name →
          ((next.after later).resolve (some again)).2 = resolved := by
  intro next resolved
  have follows : ((empty standard capacity).after calls).Follows calls :=
    (Follows.empty standard capacity).after calls
  obtain ⟨sameStandard, sameCapacity⟩ := (empty standard capacity).rules_after calls
  refine ⟨?_, ?_, follows.policy_after call, ?_, ?_⟩
  · rw [follows.policy_eq call, sameStandard, sameCapacity]
    rfl
  · have names := (follows.step call).names
    rw [capacity_resolve, sameCapacity] at names
    change next.kept.size = _
    rw [Registry.size_eq, names, List.length_take]
    rfl
  · rintro rfl
    rfl
  · rintro declared rfl
    constructor
    · have told := follows.resolved_eq declared
      rwa [sameCapacity] at told
    · intro again later same
      exact follows.resolved_after declared again later same

/-- One place, which a policy under the default's own name takes first. The next name gets the
default policy, and still does after others have called. -/
theorem first_come_first_served_onePlace :
    let calls := [none, some ((RetryPolicy.named "default").withMaxAttempts 7)]
    let late := RetryPolicy.named "late"
    let cache := (empty (.named "default") 1).after calls
    (cache.resolve (some late)).2 = .standard ∧
      (cache.resolve (some late)).1.size = 1 ∧
      (((cache.resolve (some late)).1.after [some (.named "later"), none]).resolve
        (some (late.withMaxAttempts 2))).2 = .standard := by
  intro calls late cache
  obtain ⟨-, size, -, -, onDeclared⟩ :=
    first_come_first_served (.named "default") 1 calls (some late)
  obtain ⟨resolved, stays⟩ := onDeclared late rfl
  have names : namesOf (calls ++ [some late]) = ["default", "late"] := by decide
  have refused : (cache.resolve (some late)).2 = .standard := by
    rw [names] at resolved
    exact resolved
  rw [names] at size
  exact ⟨refused, size, (stays (late.withMaxAttempts 2) _ rfl).trans refused⟩

end PolicyCache

namespace World

variable {ω : Type} [Weight ω]

omit [Weight ω] in
/-- What a caller declares at an event, if that is a call. -/
def declared : Event ω → Option (Option RetryPolicy)
  | .adjust (.declarePolicy declared) => some declared
  | _ => none

/-- At an event the policy cache resolves what a call brings in that event, if one begins there,
and is left alone otherwise. -/
theorem policies_step (world : World ω) (event : Event ω) :
    (world.step event).client.router.policies =
      world.client.router.policies.after (declared event).toList := by
  by_cases adjusts : ∃ adjustment, event = .adjust adjustment
  · obtain ⟨adjustment, rfl⟩ := adjusts
    cases adjustment <;> rfl
  · have calm : ∀ adjustment, event ≠ .adjust adjustment :=
      fun adjustment same => adjusts ⟨adjustment, same⟩
    have silent : declared event = none := by
      unfold declared
      split
      · exact absurd rfl (calm _)
      · rfl
    obtain ⟨cache, balance, after⟩ := world.sameRules_step event calm
    rw [after, silent]
    rfl

/-- In every run of a client, whatever else happens between the calls, its cache is the one
after the calls that declare or do without a policy. -/
theorem policies_run (world : World ω) (events : List (Event ω)) :
    (world.run events).client.router.policies =
      world.client.router.policies.after (events.filterMap declared) := by
  induction events generalizing world with
  | nil => rfl
  | cons event rest inductionHypothesis =>
    have series : (event :: rest).filterMap declared =
        (declared event).toList ++ rest.filterMap declared := by
      cases found : declared event <;> simp [found]
    change ((world.step event).run rest).client.router.policies = _
    rw [inductionHypothesis, world.policies_step, series, PolicyCache.after_append]

end World

end CallRouting
