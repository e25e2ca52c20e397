import CallRouting.Proofs.TaskTraces
import Mathlib.Data.List.Induction

/-!
# Which list a task is given

What was seen tells which list is at hand: that of the last load that succeeded, if it
has not been forgotten since. Every task is given the list at hand, and there are three
ways to come by it: the list is fresh when the task comes, some load has completed since
then, or the task has loaded itself.
-/

namespace CallRouting

namespace Sight

/-- Whether the directory is seen to answer. -/
def isLoad : Sight → Bool
  | .loaded .. => true
  | _ => false

/-- When something is seen that the time matters for. -/
def moment? : Sight → Option Instant
  | .came _ _ now _ | .loaded _ _ now => some now
  | .called _ | .answered .. | .left _ | .forgotten => none

/-- The list at hand after a sight. -/
def keep (cached : Option CachedList) : Sight → Option CachedList
  | .loaded _ (.ok instances) now => some ⟨instances, now⟩
  | .forgotten => none
  | .loaded _ (.error _) _ | .came .. | .called _ | .answered .. | .left _ => cached

end Sight

/-- How many loads have completed, failed ones included. -/
def completions (log : List Sight) : Nat := log.countP Sight.isLoad

/-- The list at hand after all that was seen, and when it came. -/
def kept (log : List Sight) : Option CachedList := log.foldl Sight.keep none

/-- The list at hand, empty if there is none. -/
def atHand (log : List Sight) : List Instance := ((kept log).map (·.instances)).getD []

/-- The times of what was seen. -/
def moments (log : List Sight) : List Instant := log.filterMap Sight.moment?

/-- The loads that complete in a log are those in its parts. -/
theorem completions_append (log seen : List Sight) :
    completions (log ++ seen) = completions log + completions seen :=
  List.countP_append

/-- Whether somebody comes in between makes no difference to how many loads have completed. -/
theorem completions_coming (earlier between : List Sight) (ticket : Ticket) (reload : Bool)
    (now : Instant) (ahead : Nat) :
    completions (earlier ++ .came ticket reload now ahead :: between) =
      completions earlier + completions between := by
  rw [completions_append, completions, completions, completions,
    List.countP_cons_of_neg (by simp [Sight.isLoad])]

/-- A load that is seen has completed. -/
theorem completions_pos {log : List Sight} {ticket : Ticket}
    {answer : Except DirectoryFault (List Instance)} {now : Instant}
    (loaded : .loaded ticket answer now ∈ log) : 0 < completions log :=
  List.countP_pos_iff.mpr ⟨_, loaded, rfl⟩

/-- No more loads complete in a part of a log than in the whole. -/
theorem completions_le {earlier log : List Sight} (earlierPart : earlier <+: log) :
    completions earlier ≤ completions log :=
  earlierPart.sublist.countP_le

/-- The list at hand after a log is what its later part makes of the one from before. -/
theorem kept_append (log seen : List Sight) :
    kept (log ++ seen) = seen.foldl Sight.keep (kept log) :=
  List.foldl_append

/-- Where no load completes and nothing is forgotten, the list at hand stays. -/
theorem kept_append_of_quiet (log : List Sight) {seen : List Sight} (idle : completions seen = 0)
    (remembered : .forgotten ∉ seen) : kept (log ++ seen) = kept log := by
  induction seen using List.reverseRecOn with
  | nil => rw [List.append_nil]
  | append_singleton seen sight inductionHypothesis =>
    rw [completions_append, Nat.add_eq_zero_iff] at idle
    rw [List.mem_append, not_or] at remembered
    rw [← List.append_assoc, kept_append, inductionHypothesis idle.1 remembered.1]
    cases sight with
    | loaded ticket answer now => cases idle.2
    | forgotten => exact absurd (List.mem_singleton_self _) remembered.2
    | _ => rfl

/-- The list at hand was there before, or a load has brought it. -/
theorem load_of_foldl_keep {seen : List Sight} {first : Option CachedList} {cached : CachedList}
    (found : seen.foldl Sight.keep first = some cached) :
    first = some cached ∨ ∃ earlier ticket later,
      seen = earlier ++ .loaded ticket (.ok cached.instances) cached.loadedAt :: later := by
  induction seen using List.reverseRecOn with
  | nil => exact .inl found
  | append_singleton seen sight inductionHypothesis =>
    rw [List.foldl_append] at found
    -- A load that is found among what was seen earlier is found in the longer log as well.
    have before (same : seen.foldl Sight.keep first = some cached) :
        first = some cached ∨ ∃ earlier ticket later, seen ++ [sight] =
          earlier ++ .loaded ticket (.ok cached.instances) cached.loadedAt :: later := by
      refine (inductionHypothesis same).imp_right ?_
      rintro ⟨earlier, ticket, later, rfl⟩
      exact ⟨earlier, ticket, later ++ [sight], by simp⟩
    cases sight with
    | loaded ticket answer now =>
      cases answer with
      | ok instances =>
        cases found
        exact .inr ⟨seen, ticket, [], rfl⟩
      | error fault => exact before found
    | forgotten => cases found
    | _ => exact before found

/-- Where loads complete, one is the last. -/
theorem exists_last_load {seen : List Sight} (some : 0 < completions seen) :
    ∃ front ticket answer now back,
      seen = front ++ .loaded ticket answer now :: back ∧ completions back = 0 := by
  induction seen using List.reverseRecOn with
  | nil => exact absurd some (Nat.lt_irrefl 0)
  | append_singleton seen sight inductionHypothesis =>
    have before (none : completions [sight] = 0) :
        ∃ front ticket answer now back,
          seen ++ [sight] = front ++ .loaded ticket answer now :: back ∧ completions back = 0 := by
      rw [completions_append, none] at some
      obtain ⟨front, ticket, answer, now, back, rfl, quiet⟩ := inductionHypothesis some
      exact ⟨front, ticket, answer, now, back ++ [sight], by simp,
        by rw [completions_append, quiet, none]⟩
    cases sight with
    | loaded ticket answer now => exact ⟨seen, ticket, answer, now, [], rfl, rfl⟩
    | _ => exact before rfl

/-- The last load brings its list, if it succeeds and nothing is forgotten later. -/
theorem kept_of_last_load {front back : List Sight} {ticket : Ticket} {instances : List Instance}
    {now : Instant} (quiet : completions back = 0) (remembered : .forgotten ∉ back) :
    kept (front ++ .loaded ticket (.ok instances) now :: back) = some ⟨instances, now⟩ := by
  rw [List.append_cons, kept_append_of_quiet _ quiet remembered, kept_append]
  rfl

/-- A law of logs: each sight is lawful after those before it. -/
def Always (Law : List Sight → Sight → Prop) (log : List Sight) : Prop :=
  ∀ earlier sight, earlier ++ [sight] <+: log → Law earlier sight

namespace Always

variable {Law : List Sight → Sight → Prop} {log : List Sight}

/-- Every law holds of an empty log. -/
theorem nil : Always Law [] := by
  intro earlier sight part
  simp at part

/-- A log keeps to a law if its last sight does so after what was seen before. -/
theorem snoc (always : Always Law log) {sight : Sight} (next : Law log sight) :
    Always Law (log ++ [sight]) := by
  intro earlier other part
  rcases List.prefix_concat_iff.mp part with whole | inside
  · obtain ⟨rfl, rfl⟩ := List.append_inj' whole rfl |>.imp_right List.singleton_inj.mp
    exact next
  · exact always earlier other inside

/-- A law that always holds still does after two sights more, if it holds of each of them. -/
theorem pair (always : Always Law log) {first second : Sight} (next : Law log first)
    (last : Law (log ++ [first]) second) : Always Law (log ++ [first, second]) := by
  have both := (always.snoc next).snoc last
  rwa [List.append_assoc] at both

/-- What a log keeps to holds of each of its sights, after those before it. -/
theorem of_split (always : Always Law log) {earlier later : List Sight} {sight : Sight}
    (split : log = earlier ++ sight :: later) : Law earlier sight :=
  always earlier sight ⟨later, by simp [split]⟩

end Always

/-- How a task that has seen so much comes by its list. -/
inductive Source (ttl : Duration) (ticket : Ticket) (log : List Sight) : Prop
  /-- The list is fresh when the task comes. -/
  | fresh (earlier : List Sight) (now : Instant) (ahead : Nat) (cached : CachedList)
      (coming : log = earlier ++ [.came ticket false now ahead])
      (found : kept earlier = some cached) (young : now ≤ cached.loadedAt + ttl.nanos)
  /-- A load has completed since the task came. -/
  | shared (changed : completions (before ticket log) < completions log)
  /-- The task has loaded itself. -/
  | own (earlier : List Sight) (answer : Except DirectoryFault (List Instance)) (now : Instant)
      (loading : log = earlier ++ [.loaded ticket answer now])

/-- What a sight that comes after others says about them. Who asks the directory although
a fresh list would do has seen no load complete, as far as the number of loads tells. -/
def Sight.Justified (ttl : Duration) (log : List Sight) : Sight → Prop
  | .called ticket => ∀ now ahead, .came ticket false now ahead ∈ log →
      UInt64.ofNat (completions (before ticket log)) = UInt64.ofNat (completions log)
  | .answered ticket instances => instances = atHand log ∧ Source ttl ticket log
  | .came .. | .loaded .. | .left _ | .forgotten => True

namespace ServiceState.Step

variable {ttl : Duration} {state after : ServiceState} {seen : List Sight}

/-- What is seen of a step tells what becomes of the list at hand. -/
theorem cached_eq (stepped : state.Step ttl after seen) :
    after.slot.cached = seen.foldl Sight.keep state.slot.cached := by
  cases stepped with
  | load ticket answer phase => cases answer <;> rfl
  | _ => rfl

/-- What is seen of a step tells how many loads complete. -/
theorem loads_eq (stepped : state.Step ttl after seen) :
    after.slot.loads = state.slot.loads + UInt64.ofNat (completions seen) := by
  cases stepped with
  | load ticket answer phase => rfl
  | _ => exact (UInt64.add_zero _).symm

/-- No step goes back in time. -/
theorem now_le (stepped : state.Step ttl after seen) : state.now ≤ after.now := by
  cases stepped with
  | quiet now nextTicket later further => exact later
  | _ => exact Nat.le_refl _

/-- What is seen of a step is seen when it is made. -/
theorem moment_eq (stepped : state.Step ttl after seen) :
    ∀ moment ∈ moments seen, moment = state.now := by
  cases stepped <;> simp [moments, Sight.moment?]

end ServiceState.Step

/-- The state as the log tells it. -/
structure Told (ttl : Duration) (log : List Sight) (state : ServiceState) : Prop where
  traced : Traced log state
  cached : state.slot.cached = kept log
  loads : state.slot.loads = UInt64.ofNat (completions log)
  /-- Who waits for the lock has noted how many loads had completed when it came. -/
  noted : ∀ ticket count, state.phase? ticket = some (.queued (some count)) →
    count = UInt64.ofNat (completions (before ticket log))
  ordered : (moments log).Pairwise (· ≤ ·)
  past : ∀ moment ∈ moments log, moment ≤ state.now
  justified : Always (Sight.Justified ttl) log

namespace Told

variable {ttl : Duration} {log : List Sight} {state after : ServiceState} {seen : List Sight}

/-- The list at hand is the one that the log tells. -/
theorem instances_eq (told : Told ttl log state) : state.slot.instances = atHand log := by
  rw [CacheSlot.instances, told.cached, atHand]

/-- What is seen earlier is seen at an earlier time. -/
theorem moment_le (told : Told ttl log state) {earlier later : List Sight} {sight other : Sight}
    {moment past : Instant} (split : log = earlier ++ sight :: later)
    (seenAt : sight.moment? = some moment) (member : other ∈ earlier)
    (otherAt : other.moment? = some past) : past ≤ moment := by
  have ordered := told.ordered
  rw [split, moments, List.filterMap_append, List.filterMap_cons_some seenAt] at ordered
  exact (List.pairwise_append.mp ordered).2.2 past
    (List.mem_filterMap.mpr ⟨other, member, otherAt⟩) moment List.mem_cons_self

/-- Each step keeps true what waiting tasks have noted: the number of loads that had completed
when they came. -/
theorem noted_step (told : Told ttl log state) (stepped : state.Step ttl after seen)
    {ticket : Ticket} {count : UInt64} (waits : after.phase? ticket = some (.queued (some count))) :
    count = UInt64.ofNat (completions (before ticket (log ++ seen))) := by
  -- Who waited before the step has come, so what it noted is told by the old log.
  have old (same : state.phase? ticket = some (.queued (some count))) :
      count = UInt64.ofNat (completions (before ticket (log ++ seen))) := by
    rw [before_append (told.traced.came same rfl)]
    exact told.noted ticket count same
  cases stepped with
  | quiet now nextTicket later further => exact old waits
  | forget => exact old waits
  | queue other reload phase stale =>
    by_cases same : ticket = other
    · subst same
      rw [before_split (told.traced.not_came phase)]
      have noted := (if_pos rfl).symm.trans waits
      cases reload <;> cases noted
      exact told.loads
    · exact old ((if_neg same).symm.trans waits)
  | _ => exact old (ServiceState.phase?_of_put waits (by simp)).2

/-- Whatever is seen next is justified by what was seen.

Each step adds one sight or two. An answer gives what is at hand and names its reason: the list
was fresh, or a load has completed since its task came, or it is the load of the task. A call is
justified since no load has completed since. -/
theorem justified_step (told : Told ttl log state) (stepped : state.Step ttl after seen) :
    Always (Sight.Justified ttl) (log ++ seen) := by
  have justified := told.justified
  cases stepped with
  | quiet now nextTicket later further => rwa [List.append_nil]
  | ask reload => rwa [List.append_nil]
  | fresh ticket cached phase found =>
    obtain ⟨there, young⟩ := Option.filter_eq_some_iff.mp found
    rw [told.cached] at there
    refine justified.pair trivial ⟨?_, .fresh log _ _ cached rfl there ?_⟩
    · rw [atHand, kept_append, there]
      rfl
    · simpa [CachedList.isExpired] using young
  | queue ticket reload phase stale => exact justified.snoc trivial
  | reuse ticket count phase holds changed =>
    refine justified.snoc ⟨told.instances_eq, .shared ?_⟩
    refine Nat.lt_of_le_of_ne (completions_le (before_part ticket log)) fun same => ?_
    rw [told.noted ticket count phase, told.loads, same] at changed
    exact changed rfl
  | call ticket count phase holds unchanged =>
    refine justified.snoc fun now ahead member => ?_
    obtain ⟨noted, rfl⟩ := told.traced.noted_of_came phase member
    rw [← told.noted ticket noted phase, unchanged noted rfl, told.loads]
  | load ticket answer phase =>
    refine justified.pair trivial ⟨?_, .own log answer state.now rfl⟩
    rw [atHand, kept_append, ← told.cached, CacheSlot.instances]
    cases answer <;> rfl
  | withdraw ticket reload phase => exact justified.snoc trivial
  | leave ticket phase found waits => exact justified.snoc trivial
  | forget => exact justified.snoc trivial

/-- What a log tells, it tells after each step. -/
theorem step (told : Told ttl log state) (stepped : state.Step ttl after seen) :
    Told ttl (log ++ seen) after where
  traced := told.traced.step stepped
  cached := by rw [stepped.cached_eq, told.cached, kept_append]
  loads := by rw [stepped.loads_eq, told.loads, completions_append, UInt64.ofNat_add]
  noted ticket count := told.noted_step stepped
  ordered := by
    rw [moments, List.filterMap_append]
    refine List.pairwise_append.mpr ⟨told.ordered, ?_, ?_⟩
    · refine List.pairwise_of_forall_mem_list fun first firstMember second secondMember => ?_
      rw [stepped.moment_eq first firstMember, stepped.moment_eq second secondMember]
    · intro first firstMember second secondMember
      rw [stepped.moment_eq second secondMember]
      exact told.past first firstMember
  past moment member := by
    rw [moments, List.filterMap_append, List.mem_append] at member
    rcases member with early | late
    · exact Nat.le_trans (told.past moment early) stepped.now_le
    · rw [stepped.moment_eq moment late]
      exact stepped.now_le
  justified := told.justified_step stepped

/-- A task is given a fresh list as soon as it comes, or waits until a load completes.

Its answer is justified: by a fresh list, and then nothing lies in between; by a load that it has
noticed, or by its own one, and that lies in between, for nothing is seen of a task before it
comes. -/
theorem fresh_or_load (told : Told ttl log state) {earlier between later : List Sight}
    {ticket : Ticket} {reload : Bool} {now : Instant} {ahead : Nat} {instances : List Instance}
    (split : log = earlier ++ .came ticket reload now ahead :: between ++
      .answered ticket instances :: later) :
    (between = [] ∧ ∃ cached, kept earlier = some cached ∧ now ≤ cached.loadedAt + ttl.nanos) ∨
      0 < completions between := by
  have traced := told.traced
  have split' := split
  rw [List.append_assoc, List.cons_append] at split'
  obtain ⟨_, source⟩ := told.justified.of_split split
  cases source with
  | fresh before moment place cached coming found young =>
    have again : log = before ++ .came ticket false moment place ::
        (.answered ticket instances :: later) := by rw [split, coming]; simp
    have same := (traced.before_eq split').symm.trans (traced.before_eq again)
    rw [← same] at found coming
    obtain ⟨same, rfl⟩ := List.cons.inj (List.append_cancel_left coming)
    cases same
    exact .inl ⟨rfl, cached, found, young⟩
  | shared changed =>
    rw [traced.before_front split, completions_coming] at changed
    exact .inr (by omega)
  | own before answer done loading =>
    have member : .loaded ticket answer done ∈
        earlier ++ .came ticket reload now ahead :: between := by rw [loading]; simp
    rcases List.mem_append.mp member with sooner | after
    · exact absurd (traced.rank_lt_of_mem split' rfl rfl sooner) (Nat.not_lt_zero _)
    · exact .inr (completions_pos (by simpa using after))

end Told

end CallRouting
