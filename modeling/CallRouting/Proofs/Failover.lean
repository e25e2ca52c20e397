import CallRouting.Proofs.Course
import Mathlib.Data.Finset.Card
import Mathlib.Data.List.Chain

/-!
# Failing over to another instance

A further attempt is made on an instance that has not failed in this invocation, as
long as the candidates hold one; once all have failed, on another one than the last;
and on that one only if there is no other. The law speaks of the candidates as they are
at the moment of the choice, so nothing is asked of what happens to them in between, nor
of the counters by which the turns are taken.

What has failed is told from the notes alone. The invariant of a run is that the
invocation keeps the same list, in the same order, and that every attempt that has begun
has failed, the running one apart.
-/

namespace CallRouting

/-- The identity on which an attempt has failed, or got a reply that is not accepted. -/
def Note.failure? (policy : RetryPolicy) : Note → Option Identity
  | .ended attempt outcome _ =>
    if policy.accepts outcome then none else some attempt.target.identity
  | _ => none

/-- The identity on which an attempt has begun. -/
def Note.engagement? : Note → Option Identity
  | .engaged _ _ attempt => some attempt.target.identity
  | _ => none

/-- The identities that have failed, in order. -/
def failures (policy : RetryPolicy) (noted : List Note) : List Identity :=
  noted.filterMap (Note.failure? policy)

/-- The identities on which attempts have begun, in order. -/
def engagements (noted : List Note) : List Identity := noted.filterMap Note.engagement?

/-- The failures in two parts are those of each part. -/
theorem failures_append (policy : RetryPolicy) (noted added : List Note) :
    failures policy (noted ++ added) = failures policy noted ++ failures policy added :=
  List.filterMap_append

/-- The attempts in two parts are those of each part. -/
theorem engagements_append (noted added : List Note) :
    engagements (noted ++ added) = engagements noted ++ engagements added :=
  List.filterMap_append

/-- The beginning of a selection is neither an attempt nor a failure. -/
theorem Selection.opening_quiet (selection : Selection) (policy : RetryPolicy) (now : Instant) :
    failures policy (selection.opening now) = [] ∧ engagements (selection.opening now) = [] := by
  unfold Selection.opening
  split <;> exact ⟨rfl, rfl⟩

/-- An outcome that calls for a further attempt is a failure. -/
theorem RetryPolicy.accepts_eq_false (policy : RetryPolicy) (outcome : Except Failure Reply)
    (retries : policy.Retries outcome) : policy.accepts outcome = false := by
  cases outcome with
  | ok reply =>
    change policy.retriesReply reply = true at retries
    simp [accepts, retries]
  | error failure => rfl

/-- How a choice keeps away from what has failed. -/
structure Evades (candidates : List Instance) (failed : List Identity) (x : Instance) : Prop where
  offered : x ∈ candidates
  untried : (∃ y ∈ candidates, y.identity ∉ failed) → x.identity ∉ failed
  other : ∀ last, failed.getLast? = some last →
    (∃ y ∈ candidates, y.identity ≠ last) → x.identity ≠ last
  reused : ∀ last, failed.getLast? = some last →
    (x.identity = last ↔ ∀ y ∈ candidates, y.identity = last)

/-- Whatever is left of the candidates keeps away from what has failed.

While some candidate is untried, only untried ones are left. When all have been tried, all but the
last failed one are left, unless there is nothing else. -/
theorem evades_of_mem_avoiding (candidates : List Instance) (failed : List Identity) (x : Instance)
    (left : x ∈ avoiding candidates failed) : Evades candidates failed x := by
  have offered : x ∈ candidates := mem_of_mem_avoiding candidates failed x left
  have untried (fresh : ∃ y ∈ candidates, y.identity ∉ failed) : x.identity ∉ failed :=
    avoiding_untried candidates failed fresh x left
  have other (last : Identity) (latest : failed.getLast? = some last)
      (differs : ∃ y ∈ candidates, y.identity ≠ last) : x.identity ≠ last := by
    by_cases fresh : ∃ y ∈ candidates, y.identity ∉ failed
    · intro same
      exact untried fresh (same ▸ List.mem_of_getLast? latest)
    · have tried : ∀ y ∈ candidates, y.identity ∈ failed := by
        intro y member
        by_contra absent
        exact fresh ⟨y, member, absent⟩
      exact avoiding_last candidates failed last latest tried differs x left
  refine ⟨offered, untried, other, ?_⟩
  intro last latest
  constructor
  · intro same y member
    by_contra differs
    exact other last latest ⟨y, member, differs⟩ same
  · intro all
    exact all x offered

/-- The law of failover for all that was noted: every attempt carries the number of the
failures before it and one, all attempts before it have failed, and unless it is the
first one, its choice keeps away from them. -/
def FailsOver (policy : RetryPolicy) (noted : List Note) : Prop :=
  ∀ earlier candidates number attempt later,
    noted = earlier ++ .engaged candidates number attempt :: later →
      number = (failures policy earlier).length + 1 ∧
        engagements earlier = failures policy earlier ∧
        (1 < number → Evades candidates (failures policy earlier) attempt.target)

namespace FailsOver

variable {policy : RetryPolicy} {noted : List Note}

/-- The law goes on if it holds of each attempt that is added.

An attempt that was noted has the law already; one that is added has it with what was noted and
what was added before it. -/
theorem append (law : FailsOver policy noted) (added : List Note)
    (next : ∀ earlier candidates number attempt later,
      added = earlier ++ .engaged candidates number attempt :: later →
        number = (failures policy (noted ++ earlier)).length + 1 ∧
          engagements (noted ++ earlier) = failures policy (noted ++ earlier) ∧
          (1 < number →
            Evades candidates (failures policy (noted ++ earlier)) attempt.target)) :
    FailsOver policy (noted ++ added) := by
  intro earlier candidates number attempt later split
  rcases List.append_eq_append_iff.mp split with
    ⟨between, rfl, addedSplit⟩ | ⟨between, notedSplit, rest⟩
  · exact next between candidates number attempt later addedSplit
  · cases between with
    | nil =>
      obtain rfl : noted = earlier := by simpa using notedSplit
      have addedSplit := next [] candidates number attempt later (by simpa using rest.symm)
      simpa only [List.append_nil] using addedSplit
    | cons note between =>
      obtain ⟨rfl, _⟩ := List.cons.inj rest
      exact law earlier candidates number attempt between notedSplit

/-- Notes without an attempt leave the law as it is. -/
theorem append_quiet (law : FailsOver policy noted) (added : List Note)
    (quiet : engagements added = []) : FailsOver policy (noted ++ added) := by
  apply law.append added
  intro earlier candidates number attempt later split
  rw [split, engagements_append] at quiet
  cases (List.append_eq_nil_iff.mp quiet).2

/-- One more attempt keeps the law if it has the next number, nothing is running, and its target
is none of those that it has to avoid. -/
theorem append_engaged (law : FailsOver policy noted) (candidates : List Instance) (number : Nat)
    (attempt : Attempt) (count : number = (failures policy noted).length + 1)
    (engaged : engagements noted = failures policy noted)
    (evades : 1 < number → Evades candidates (failures policy noted) attempt.target) :
    FailsOver policy (noted ++ [.engaged candidates number attempt]) := by
  apply law.append
  intro earlier others n other later split
  have first : earlier = [] := by
    cases earlier with
    | nil => rfl
    | cons note earlier =>
      have impossible := congrArg List.length split
      simp at impossible
  subst first
  cases split
  rw [List.append_nil]
  exact ⟨count, engaged, evades⟩

/-- What obeys the law has obeyed it before. -/
theorem of_append (added : List Note) (law : FailsOver policy (noted ++ added)) :
    FailsOver policy noted := by
  intro earlier candidates number attempt later split
  exact law earlier candidates number attempt (later ++ added) (by simp [split])

/-- Identities that are on offer at each attempt. -/
def Held (ids : Finset Identity) (noted : List Note) : Prop :=
  ∀ candidates number attempt, .engaged candidates number attempt ∈ noted →
    ∀ identity ∈ ids, ∃ x ∈ candidates, x.identity = identity

/-- The last attempt differs from all before it as long as those are fewer than the identities on
offer.

Then some identity on offer has not failed yet, and while there is one, the attempt is made on one
that has not. -/
theorem last_fresh {ids : Finset Identity} {candidates : List Instance} {number : Nat}
    {attempt : Attempt}
    (law : FailsOver policy (noted ++ [.engaged candidates number attempt]))
    (held : Held ids (noted ++ [.engaged candidates number attempt]))
    (fewer : (engagements noted).length < ids.card) :
    attempt.target.identity ∉ engagements noted := by
  obtain ⟨count, engaged, evades⟩ := law noted candidates number attempt [] rfl
  rw [engaged] at fewer ⊢
  by_cases first : failures policy noted = []
  · simp [first]
  · have further : 1 < number := by
      have positive := List.length_pos_iff.mpr first
      omega
    have more : (failures policy noted).toFinset.card < ids.card :=
      Nat.lt_of_le_of_lt (List.toFinset_card_le _) fewer
    obtain ⟨identity, member, fresh⟩ := Finset.exists_mem_notMem_of_card_lt_card more
    obtain ⟨y, offered, rfl⟩ := held candidates number attempt (by simp) identity member
    exact (evades further).untried ⟨y, offered, by simpa using fresh⟩

/-- The last attempt differs from the one before it if two identities are on offer. -/
theorem last_other {ids : Finset Identity} {candidates : List Instance} {number : Nat}
    {attempt : Attempt}
    (law : FailsOver policy (noted ++ [.engaged candidates number attempt]))
    (held : Held ids (noted ++ [.engaged candidates number attempt])) (two : 2 ≤ ids.card)
    (last : Identity) (latest : (engagements noted).getLast? = some last) :
    last ≠ attempt.target.identity := by
  obtain ⟨count, engaged, evades⟩ := law noted candidates number attempt [] rfl
  rw [engaged] at latest
  have further : 1 < number := by
    have positive := List.length_pos_of_mem (List.mem_of_getLast? latest)
    omega
  obtain ⟨identity, member, differs⟩ := Finset.exists_mem_ne two last
  obtain ⟨y, offered, rfl⟩ := held candidates number attempt (by simp) identity member
  exact Ne.symm ((evades further).other last latest ⟨y, offered, differs⟩)

/-- While the same identities are on offer, as many attempts as there are of them are made
on different ones, and no two in a row on the same one if there are two.

As long as some identity has not failed, evading means to take one that has not, so no two of
the first attempts agree. After that evading still means not to take the last one again. -/
theorem spread (ids : Finset Identity) (law : FailsOver policy noted) (held : Held ids noted) :
    ((engagements noted).take ids.card).Nodup ∧
      (2 ≤ ids.card → (engagements noted).IsChain (· ≠ ·)) := by
  induction noted using List.reverseRecOn with
  | nil => exact ⟨by simp [engagements], fun _ => .nil⟩
  | append_singleton noted note inductionHypothesis =>
    obtain ⟨different, alternating⟩ := inductionHypothesis (law.of_append [note])
      fun candidates number attempt member => held candidates number attempt (by simp [member])
    rw [engagements_append]
    have passed (nothing : engagements [note] = []) :
        ((engagements noted ++ engagements [note]).take ids.card).Nodup ∧
          (2 ≤ ids.card → (engagements noted ++ engagements [note]).IsChain (· ≠ ·)) := by
      rw [nothing, List.append_nil]
      exact ⟨different, alternating⟩
    cases note with
    | selecting due now => exact passed rfl
    | refused candidates => exact passed rfl
    | ended attempt outcome now => exact passed rfl
    | engaged candidates number attempt =>
      change (List.take _ (_ ++ [attempt.target.identity])).Nodup ∧
        (_ → List.IsChain _ (_ ++ [attempt.target.identity]))
      constructor
      · by_cases fewer : (engagements noted).length < ids.card
        · have fresh := law.last_fresh held fewer
          rw [List.take_of_length_le (Nat.le_of_lt fewer)] at different
          rw [List.take_of_length_le (by rw [List.length_append]; exact fewer)]
          refine List.nodup_append.mpr ⟨different, by simp, ?_⟩
          rintro identity member other last rfl
          exact fresh (List.mem_singleton.mp last ▸ member)
        · rw [List.take_append_of_le_length (Nat.not_lt.mp fewer)]
          exact different
      · intro two
        refine List.isChain_append.mpr ⟨alternating two, .singleton _, ?_⟩
        intro last latest next first
        rw [List.head?_cons, Option.mem_some_iff] at first
        exact first ▸ law.last_other held two last latest

end FailsOver

namespace Selection

variable {ω : Type}

/-- A selection that goes by the turns of retries. -/
def ByTurns (selection : Selection) : Prop :=
  match selection.phase with
  | .looking strategy _ => strategy = .retryRoundRobin
  | .asked | .chosen _ => selection.wanted = some .retryRoundRobin

/-- A selection by the turns of further attempts settles on them, whatever strategy is
configured. -/
theorem settled_byTurns (selection : Selection) (router : Router ω) (byTurns : selection.ByTurns) :
    selection.settled router = .retryRoundRobin := by
  obtain ⟨service, wanted, failed, phase⟩ := selection
  cases phase with
  | asked =>
    change wanted = some .retryRoundRobin at byTurns
    simp [settled, byTurns]
  | looking strategy lookup => exact byTurns
  | chosen result =>
    change wanted = some .retryRoundRobin at byTurns
    simp [settled, byTurns]

end Selection

namespace Invocation

variable {ω : Type} [Weight ω]

/-- The invocation keeps what has failed, and every attempt that has begun is among it
but the running ones. -/
structure Kept (noted : List Note) (invocation : Invocation) (running : List Identity) :
    Prop where
  failed : failures invocation.policy noted = invocation.failed
  engaged : engagements noted = invocation.failed ++ running
  count : invocation.ended = invocation.failed.length

/-- The identity of the running attempt, if there is one. -/
def running (invocation : Invocation) : List Identity :=
  match invocation.phase with
  | .working attempt => [attempt.target.identity]
  | _ => []

/-- A selection keeps away from what has failed for the invocation. -/
structure Avoiding (invocation : Invocation) (selection : Selection) : Prop where
  failed : selection.failed = invocation.failed
  byTurns : invocation.failed ≠ [] → selection.ByTurns

/-- The law of failover has been obeyed, and the invocation is in a position to obey it
further on. -/
structure Evading (noted : List Note) (invocation : Invocation) : Prop where
  law : FailsOver invocation.policy noted
  kept : invocation.result? = none → Kept noted invocation invocation.running
  avoiding : ∀ selection, invocation.phase = .selecting selection → invocation.Avoiding selection

/-- A selection for a further attempt keeps away from what has failed. -/
theorem retrySelection_avoiding (invocation : Invocation) :
    invocation.Avoiding invocation.retrySelection := ⟨rfl, fun _ => rfl⟩

/-- A selection that keeps away from what has failed leads to an attempt by the law.

The selection picks from the candidates that are left without the failed ones, or from all of
them if nothing is left; either way what it picks evades them. -/
theorem Advanced.evading {invocation : Invocation} {router : Router ω} {moment : Moment ω}
    {selection : Selection} {after : Router ω × Invocation} {noted added : List Note}
    (advanced : invocation.Advanced router moment selection after added)
    (law : FailsOver invocation.policy noted) (kept : Kept noted invocation [])
    (avoids : invocation.Avoiding selection) : Evading (noted ++ added) after.2 := by
  obtain ⟨failed, engaged, count⟩ := kept
  rw [List.append_nil] at engaged
  cases advanced with
  | looking cache lookup waits nearer =>
    rw [List.append_nil]
    refine ⟨law, fun _ => ⟨failed, by simp [engaged, running], count⟩, ?_⟩
    intro current phase
    cases phase
    exact ⟨avoids.failed, fun some => selection.settled_byTurns router (avoids.byTurns some)⟩
  | refused cache instances balance choice =>
    exact ⟨law.append_quiet _ rfl, fun open' => (by cases open'), fun _ phase => (by cases phase)⟩
  | engaged cache instances balance x choice ledger handle opened =>
    have evades (further : 1 < invocation.ended + 1) :
        Evades (router.candidates instances) (failures invocation.policy noted) x := by
      have some : invocation.failed ≠ [] := by
        rintro none
        simp [count, none] at further
      have nonempty : avoiding (router.candidates instances) selection.failed ≠ [] := by
        intro none
        rw [none, Balance.choose_nil] at choice
        cases choice
      rw [selection.settled_byTurns router (avoids.byTurns some)] at choice
      obtain ⟨y, left, chosen⟩ := router.balance.choose_mem .retryRoundRobin moment.draw moment.now
        selection.service _ nonempty trivial (fun same => by cases same)
      rw [choice] at chosen
      cases chosen
      rw [failed, ← avoids.failed]
      exact evades_of_mem_avoiding _ _ x left
    refine ⟨?_, fun _ => ⟨?_, ?_, count⟩, fun _ phase => (by cases phase)⟩
    · exact law.append_engaged _ _ _ (by rw [failed, count]) (by rw [failed, engaged]) evades
    · rw [failures_append, failed]
      exact List.append_nil _
    · rw [engagements_append, engaged]
      rfl

/-- Notes of neither an attempt nor a failure change nothing that is kept. -/
theorem Kept.append_quiet {invocation : Invocation} {noted : List Note} {running : List Identity}
    (kept : Kept noted invocation running) (added : List Note)
    (silent : failures invocation.policy added = [] ∧ engagements added = []) :
    Kept (noted ++ added) invocation running where
  failed := by rw [failures_append, silent.1, List.append_nil, kept.failed]
  engaged := by rw [engagements_append, silent.2, List.append_nil, kept.engaged]
  count := kept.count

/-- What is kept when an attempt has ended that is to be followed by another one: its identity has
failed, and nothing is running. -/
theorem Kept.afterFailure {invocation : Invocation} {noted : List Note} (attempt : Attempt)
    (outcome : Except Failure Reply) (now : Instant)
    (kept : Kept noted invocation [attempt.target.identity])
    (retries : invocation.policy.Retries outcome) :
    Kept (noted ++ [.ended attempt outcome now]) (invocation.afterFailure attempt) [] where
  failed := by
    have failure := invocation.policy.accepts_eq_false outcome retries
    rw [failures_append]
    change failures invocation.policy noted ++ _ = invocation.failed ++ _
    rw [kept.failed]
    simp [failures, Note.failure?, Invocation.afterFailure, failure]
  engaged := by
    rw [engagements_append, kept.engaged]
    simp [engagements, Note.engagement?, Invocation.afterFailure]
  count := by simp [Invocation.afterFailure, kept.count]

/-- Each step keeps the law of failover.

One case for each kind of step. A selection that begins, an invocation that ends and one that
rests note no attempt; the other steps lead to one through a selection, which has been told
what failed. -/
theorem meet_evading (noted : List Note) (invocation : Invocation) (encounter : Encounter ω)
    (holds : Evading noted invocation) (awaits : invocation.Awaits encounter) :
    Evading (noted ++ invocation.notes encounter.router encounter.moment encounter.answer)
      (invocation.meet encounter) := by
  obtain ⟨await, waits, fits, _⟩ := awaits
  obtain ⟨law, kept, avoids⟩ := holds
  have step := invocation.resume_step encounter.router encounter.moment encounter.answer await
    waits fits
  unfold meet
  generalize invocation.resume encounter.router encounter.moment encounter.answer = after at step ⊢
  generalize invocation.notes encounter.router encounter.moment encounter.answer = added at step ⊢
  generalize encounter.answer = answer at step
  cases step with
  | select selection answer after noted' phase advanced =>
    have still := kept (by simp only [result?, phase])
    simp only [running, phase] at still
    have silent := selection.opening_quiet invocation.policy encounter.moment.now
    rw [← List.append_assoc]
    exact advanced.evading (law.append_quiet _ silent.2) (still.append_quiet _ silent)
      (avoids selection phase)
  | finish attempt outcome result phase verdict =>
    exact ⟨law.append_quiet _ rfl, fun open' => (by cases open'), fun _ phase => (by cases phase)⟩
  | rest attempt outcome phase verdict positive =>
    have still := kept (by simp only [result?, phase])
    simp only [running, phase] at still
    have retries := ((invocation.policy.judge_again_iff _ _ _ _).mp verdict).1
    obtain ⟨failed, engaged, count⟩ :=
      still.afterFailure attempt outcome encounter.moment.now retries
    exact ⟨law.append_quiet _ rfl, fun _ => ⟨failed, engaged, count⟩,
      fun _ phase => (by cases phase)⟩
  | again attempt outcome after noted' phase verdict zero advanced =>
    have still := kept (by simp only [result?, phase])
    simp only [running, phase] at still
    have retries := ((invocation.policy.judge_again_iff _ _ _ _).mp verdict).1
    have after := still.afterFailure attempt outcome encounter.moment.now retries
    have law' := (law.append_quiet [.ended attempt outcome encounter.moment.now] rfl).append_quiet
      [.selecting encounter.moment.now encounter.moment.now] rfl
    have evading := advanced.evading law' (after.append_quiet _ ⟨rfl, rfl⟩)
      (retrySelection_avoiding _)
    simpa only [List.append_assoc, List.cons_append, List.nil_append] using evading
  | wake due after noted' phase advanced =>
    have still := kept (by simp only [result?, phase])
    simp only [running, phase] at still
    have evading := advanced.evading
      (law.append_quiet [.selecting due encounter.moment.now] rfl)
      (still.append_quiet _ ⟨rfl, rfl⟩) (retrySelection_avoiding _)
    simpa only [List.append_assoc, List.singleton_append] using evading

/-- Every further attempt of an invocation is made on a candidate of that moment that
keeps away from what has failed before. While the candidates hold the same identities,
the first attempts, as many as there are identities, are made on different ones; and no
two in a row are made on the same one if there are at least two.

The invariant says which identities have failed up to the current attempt, and that every
attempt has evaded those that failed before it. Each encounter keeps it, whatever the router
has become in between. The spread follows from evading alone. -/
theorem failover_law (service : String) (policy : RetryPolicy) (encounters : List (Encounter ω))
    (attended : (start service policy).Attended encounters) :
    let noted := (start service policy).chronicle encounters
    (∀ earlier candidates number attempt later,
      noted = earlier ++ .engaged candidates number attempt :: later →
        number = (failures policy earlier).length + 1 ∧
          (1 < number → Evades candidates (failures policy earlier) attempt.target)) ∧
      ∀ ids : Finset Identity,
        (∀ candidates number attempt, .engaged candidates number attempt ∈ noted →
          ∀ identity, identity ∈ ids ↔ ∃ x ∈ candidates, x.identity = identity) →
        ((engagements noted).take ids.card).Nodup ∧
          (2 ≤ ids.card → (engagements noted).IsChain (· ≠ ·)) := by
  intro noted
  have first : Evading [] (start service policy) := by
    refine ⟨?_, fun _ => ⟨rfl, rfl, rfl⟩, ?_⟩
    · intro earlier candidates number attempt later split
      simp at split
    · intro selection phase
      cases phase
      exact ⟨rfl, fun some => (some rfl).elim⟩
  have step (noted : List Note) (invocation : Invocation) (encounter : Encounter ω)
      (holds : Evading noted invocation ∧ invocation.policy = policy)
      (awaits : invocation.Awaits encounter) :
      Evading (noted ++ invocation.notes encounter.router encounter.moment encounter.answer)
        (invocation.meet encounter) ∧ (invocation.meet encounter).policy = policy := by
    refine ⟨meet_evading noted invocation encounter holds.1 awaits, ?_⟩
    obtain ⟨await, waits, fits, _⟩ := awaits
    exact (invocation.resume_step _ _ _ await waits fits).policy_eq.trans holds.2
  obtain ⟨⟨law, _, _⟩, unchanged⟩ := chronicle_induction
    (fun noted invocation => Evading noted invocation ∧ invocation.policy = policy) (fun _ => True)
    (fun noted invocation encounter holds _ => step noted invocation encounter holds)
    [] (start service policy) encounters (fun _ _ => trivial) ⟨first, rfl⟩ attended
  rw [unchanged, List.nil_append] at law
  constructor
  · intro earlier candidates number attempt later split
    obtain ⟨count, _, evades⟩ := law earlier candidates number attempt later split
    exact ⟨count, evades⟩
  · intro ids same
    apply law.spread ids
    intro candidates number attempt member identity among
    exact (same candidates number attempt member identity).mp among

/-- Two instances of one service. -/
def twins : List Instance := [.ofAddress "orders" "10.0.0.1" 80, .ofAddress "orders" "10.0.0.2" 80]

/-- A run over the two that fails on each of them once and then succeeds. -/
def threeTries : List (Encounter Float) :=
  [.plain "orders" twins 0 .turn, .plain "orders" twins 5 (.work (.error .timeout)),
    .plain "orders" twins 9 (.work (.error .timeout)),
    .plain "orders" twins 12 (.work (.ok (.integer 7)))]

/-- Among two candidates the attempts alternate. -/
theorem failover_law_threeTries :
    let restless := (RetryPolicy.named "restless").withWait .zero
    let noted := (start "orders" restless).chronicle threeTries
    (start "orders" restless).Attended threeTries ∧
      ((engagements noted).take 2).Nodup ∧ (engagements noted).IsChain (· ≠ ·) := by
  intro restless noted
  let one : Instance := .ofAddress "orders" "10.0.0.1" 80
  let two : Instance := .ofAddress "orders" "10.0.0.2" 80
  have first : (start "orders" restless).meet (.plain "orders" twins 0 .turn) =
      ⟨"orders", restless, 0, [], .working ⟨one, 0, 0⟩⟩ := rfl
  have second : meet ⟨"orders", restless, 0, [], .working ⟨one, 0, 0⟩⟩
      (.plain "orders" twins 5 (.work (.error .timeout))) =
      ⟨"orders", restless, 1, [one.identity], .working ⟨two, 0, 5⟩⟩ := rfl
  have third : meet ⟨"orders", restless, 1, [one.identity], .working ⟨two, 0, 5⟩⟩
      (.plain "orders" twins 9 (.work (.error .timeout))) =
      ⟨"orders", restless, 2, [one.identity, two.identity], .working ⟨one, 0, 9⟩⟩ := rfl
  have attended : (start "orders" restless).Attended threeTries := by
    simp only [threeTries, Attended, first, second, third, and_true]
    exact ⟨⟨.turn, rfl, rfl, by simp⟩, ⟨.work, rfl, rfl, by simp⟩, ⟨.work, rfl, rfl, by simp⟩,
      ⟨.work, rfl, rfl, by simp⟩⟩
  -- The three tries and what becomes of them, in the order in which they are noted.
  have written : noted =
      [.selecting 0 0, .engaged twins 1 ⟨one, 0, 0⟩, .ended ⟨one, 0, 0⟩ (.error .timeout) 5,
        .selecting 5 5, .engaged twins 2 ⟨two, 0, 5⟩, .ended ⟨two, 0, 5⟩ (.error .timeout) 9,
        .selecting 9 9, .engaged twins 3 ⟨one, 0, 9⟩,
        .ended ⟨one, 0, 9⟩ (.ok (.integer 7)) 12] := by
    simp only [noted, threeTries, chronicle, first, second, third]
    rfl
  obtain ⟨different, alternating⟩ := (failover_law "orders" restless threeTries attended).2
    {one.identity, two.identity} (by
      intro candidates number attempt member identity
      change _ ∈ noted at member
      obtain rfl : candidates = twins := by
        rw [written] at member
        simp at member
        tauto
      simp [twins, one, two, eq_comm])
  exact ⟨attended, different, alternating (Nat.le_refl 2)⟩

end Invocation

end CallRouting
