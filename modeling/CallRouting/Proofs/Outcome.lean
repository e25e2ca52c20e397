import CallRouting.Proofs.Endings

/-!
# What an invocation gives back

The result of an invocation, told from its rounds: the reply of the last attempt, if it
is accepted or none is left; the failure of the last attempt, if it is not retried or
none is left; and no instance, if the selection after the last round was offered an
empty list. Each of these is stated as an equivalence, so a result of one kind is never
given in the place of another.
-/

namespace CallRouting

/-- When a verdict ends the invocation, and with what: a reply is returned if it is accepted or no
attempt is left, an error that is not retried is returned as such, and one that would be retried
is returned as the last of all attempts. -/
theorem RetryPolicy.judge_finish_iff (policy : RetryPolicy) (service : String) (n : Nat)
    (x : Instance) (outcome : Except Failure Reply) (result : Except RoutingError Reply) :
    policy.judge service n x outcome = .finish result ↔
      (∃ reply, outcome = .ok reply ∧ result = .ok reply ∧
        (policy.retriesReply reply = false ∨ policy.maxAttempts ≤ n)) ∨
      (∃ failure, outcome = .error failure ∧ policy.retriesError failure = false ∧
        result = .error (.notRetryable service n failure)) ∨
      (∃ failure, outcome = .error failure ∧ policy.retriesError failure = true ∧
        policy.maxAttempts ≤ n ∧
        result = .error (.exhausted service n x.identity.text failure)) := by
  cases outcome with
  | ok reply =>
    by_cases again : policy.retriesReply reply = true ∧ n < policy.maxAttempts
    · simp [judge, again, Nat.not_le.mpr again.2]
    · have accepted : policy.retriesReply reply = false ∨ policy.maxAttempts ≤ n :=
        (Decidable.not_and_iff_or_not.mp again).imp Bool.eq_false_iff.mpr Nat.not_lt.mp
      have judged : policy.judge service n x (.ok reply) = .finish (.ok reply) := by
        simpa [judge] using again
      rw [judged]
      constructor
      · intro same
        cases same
        exact Or.inl ⟨reply, rfl, rfl, accepted⟩
      · rintro (⟨other, same, rfl, _⟩ | ⟨_, same, _⟩ | ⟨_, same, _⟩)
        · cases same
          rfl
        · cases same
        · cases same
  | error failure =>
    cases retried : policy.retriesError failure with
    | false => simp [judge, retried, @eq_comm _ result]
    | true =>
      by_cases left : n < policy.maxAttempts
      · simp [judge, retried, left]
      · simp [judge, retried, left, Nat.not_lt.mp left, @eq_comm _ result]

/-- The rounds of an invocation that has ended, and what was noted after the last of
them: nothing, or a selection that found an empty list. -/
structure Finished (policy : RetryPolicy) (rounds : List Round) (rest : List Note) : Prop where
  bounded : rounds.length ≤ policy.maxAttempts
  series : Series policy rounds
  retried : ∀ round ∈ rounds.dropLast, policy.Retries round.outcome
  complete : rest = [] ∨ ∃ due now, rest = [.selecting due now, .refused []] ∧
    Led policy rounds due now ∧ ∀ round ∈ rounds, policy.Retries round.outcome

/-- How the result of an invocation is fixed by its rounds and by what was noted after
the last of them. -/
structure Settled (service : String) (policy : RetryPolicy) (rounds : List Round)
    (rest : List Note) (result : Except RoutingError Reply) : Prop extends
    Finished policy rounds rest where
  ok_iff : ∀ reply, result = .ok reply ↔
    ∃ last, rounds.getLast? = some last ∧ last.outcome = .ok reply ∧
      (policy.retriesReply reply = false ∨ rounds.length = policy.maxAttempts)
  notRetryable_iff : ∀ about attempts cause,
    result = .error (.notRetryable about attempts cause) ↔
      about = service ∧ attempts = rounds.length ∧
        ∃ last, rounds.getLast? = some last ∧ last.outcome = .error cause ∧
          policy.retriesError cause = false
  exhausted_iff : ∀ about attempts text cause,
    result = .error (.exhausted about attempts text cause) ↔
      about = service ∧ attempts = rounds.length ∧ rounds.length = policy.maxAttempts ∧
        ∃ last, rounds.getLast? = some last ∧ text = last.attempt.target.identity.text ∧
          last.outcome = .error cause ∧ policy.retriesError cause = true
  noInstance_iff : ∀ about, result = .error (.noInstance about) ↔
    about = service ∧ rounds.length < policy.maxAttempts ∧
      ∃ due now, rest = [.selecting due now, .refused []]
  kinds : ∀ error, result = .error error → error.code = .noInstanceAvailable ∨
    error.code = .retryExhausted ∨ error.code = .nonRetryable

section

variable {service : String} {policy : RetryPolicy} {rounds : List Round}

/-- A selection that finds an empty list settles the result: each round before it called
for another one, so none of them can have ended the invocation.

The rounds before were all followed by another one, so none of them was the last one that is
allowed, and none ended in a reply that is accepted or an error that is not retried. -/
theorem Past.settled_refused (behind : Past policy rounds)
    (left : rounds.length < policy.maxAttempts) (due now : Instant)
    (led : Led policy rounds due now) :
    Settled service policy rounds [.selecting due now, .refused []]
      (.error (.noInstance service)) where
  bounded := Nat.le_of_lt left
  series := behind.series
  retried := fun round member => behind.retried round (List.dropLast_subset rounds member)
  complete := Or.inr ⟨due, now, rfl, led, behind.retried⟩
  ok_iff := by
    intro reply
    constructor
    · intro same
      cases same
    · rintro ⟨last, latest, outcome, accepted | full⟩
      · have rejected := behind.retried last (List.mem_of_getLast? latest)
        rw [outcome] at rejected
        simp [RetryPolicy.Retries, accepted] at rejected
      · omega
  notRetryable_iff := by
    intro about attempts cause
    constructor
    · intro same
      cases same
    · rintro ⟨_, _, last, latest, outcome, final⟩
      have retried := behind.retried last (List.mem_of_getLast? latest)
      rw [outcome] at retried
      simp [RetryPolicy.Retries, final] at retried
  exhausted_iff := by
    intro about attempts text cause
    constructor
    · intro same
      cases same
    · rintro ⟨_, _, full, _⟩
      omega
  noInstance_iff := by
    intro about
    constructor
    · intro same
      cases same
      exact ⟨rfl, left, due, now, rfl⟩
    · rintro ⟨rfl, _⟩
      rfl
  kinds := by
    intro error same
    cases same
    exact Or.inl rfl

variable {last : Round} (finished : Finished policy rounds [])
  (latest : rounds.getLast? = some last)

include finished latest

/-- The reply of the last round settles the result if it is accepted or no attempt is
left. -/
theorem Finished.settled_reply (reply : Reply) (outcome : last.outcome = .ok reply)
    (accepted : policy.retriesReply reply = false ∨ rounds.length = policy.maxAttempts) :
    Settled service policy rounds [] (.ok reply) where
  toFinished := finished
  ok_iff := by
    intro other
    simp only [latest, Option.some.injEq, exists_eq_left', outcome, Except.ok.injEq]
    exact ⟨fun same => ⟨same, same ▸ accepted⟩, And.left⟩
  notRetryable_iff := by simp [latest, outcome]
  exhausted_iff := by simp [latest, outcome]
  noInstance_iff := by simp
  kinds := by simp

/-- The failure of the last round settles the result if it is not retried.

The other conditions speak of the outcome of the same last round, which was not a reply and is not
retried. -/
theorem Finished.settled_notRetryable (failure : Failure) (outcome : last.outcome = .error failure)
    (final : policy.retriesError failure = false) :
    Settled service policy rounds []
      (.error (.notRetryable service rounds.length failure)) where
  toFinished := finished
  ok_iff := by simp [latest, outcome]
  notRetryable_iff := by
    intro about attempts cause
    simp only [latest, Option.some.injEq, exists_eq_left', outcome, Except.error.injEq,
      RoutingError.notRetryable.injEq]
    constructor
    · rintro ⟨rfl, rfl, rfl⟩
      exact ⟨rfl, rfl, rfl, final⟩
    · rintro ⟨rfl, rfl, rfl, _⟩
      exact ⟨rfl, rfl, rfl⟩
  exhausted_iff := by
    intro about attempts text cause
    constructor
    · intro same
      cases same
    · rintro ⟨_, _, _, other, same, _, cause_eq, retried⟩
      obtain rfl : last = other := Option.some.inj (latest.symm.trans same)
      obtain rfl : failure = cause := Except.error.inj (outcome.symm.trans cause_eq)
      simp [final] at retried
  noInstance_iff := by simp
  kinds := by
    intro error same
    cases same
    exact Or.inr (Or.inr rfl)

/-- The failure of the last round settles the result if it is retried and no attempt is left.

It cannot count as an error that is not retried, since the policy retries it. -/
theorem Finished.settled_exhausted (failure : Failure) (outcome : last.outcome = .error failure)
    (retries : policy.retriesError failure = true) (full : rounds.length = policy.maxAttempts) :
    Settled service policy rounds []
      (.error (.exhausted service rounds.length last.attempt.target.identity.text failure)) where
  toFinished := finished
  ok_iff := by simp [latest, outcome]
  notRetryable_iff := by
    intro about attempts cause
    constructor
    · intro same
      cases same
    · rintro ⟨_, _, other, same, cause_eq, final⟩
      obtain rfl : last = other := Option.some.inj (latest.symm.trans same)
      obtain rfl : failure = cause := Except.error.inj (outcome.symm.trans cause_eq)
      simp [final] at retries
  exhausted_iff := by
    intro about attempts text cause
    simp only [latest, Option.some.injEq, exists_eq_left', outcome, Except.error.injEq,
      RoutingError.exhausted.injEq]
    constructor
    · rintro ⟨rfl, rfl, rfl, rfl⟩
      exact ⟨rfl, rfl, full, rfl, rfl, retries⟩
    · rintro ⟨rfl, rfl, _, rfl, rfl, _⟩
      exact ⟨rfl, rfl, rfl, rfl⟩
  noInstance_iff := by simp
  kinds := by
    intro error same
    cases same
    exact Or.inr (Or.inl rfl)

end

/-- The verdict on the attempt after some rounds settles the result.

With its round the rounds are complete, so the number of the attempt is the number of rounds, and
no attempt is left if that is the greatest. -/
theorem Past.settled_judged {service : String} {policy : RetryPolicy} {past : List Round}
    (behind : Past policy past) (left : past.length < policy.maxAttempts)
    (round : Round) (number : round.number = past.length + 1) (offered : round.candidates ≠ [])
    (led : Led policy past round.due round.selectedAt) (result : Except RoutingError Reply)
    (verdict : policy.judge service round.number round.attempt.target round.outcome =
      .finish result) : Settled service policy (past ++ [round]) [] result := by
  have length : (past ++ [round]).length = past.length + 1 := List.length_append
  have finished : Finished policy (past ++ [round]) [] :=
    ⟨length ▸ left, behind.series.snoc round number offered led, by simpa using behind.retried,
      Or.inl rfl⟩
  have latest : (past ++ [round]).getLast? = some round := List.getLast?_concat
  rw [number, ← length] at verdict
  have full (most : policy.maxAttempts ≤ (past ++ [round]).length) :
      (past ++ [round]).length = policy.maxAttempts := Nat.le_antisymm finished.bounded most
  rcases (policy.judge_finish_iff _ _ _ _ _).mp verdict with
    ⟨reply, outcome, rfl, accepted⟩ | ⟨failure, outcome, final, rfl⟩ |
    ⟨failure, outcome, retries, most, rfl⟩
  · exact finished.settled_reply latest reply outcome (accepted.imp_right full)
  · exact finished.settled_notRetryable latest failure outcome final
  · exact finished.settled_exhausted latest failure outcome retries (full most)

namespace Invocation

variable {ω : Type} [Weight ω]

/-- Every usual run of an invocation ends after at most four answers for each attempt
that is allowed, and waits for something until then. Once it has ended, it has gone
through rounds that are numbered from one on, and these fix its result.

The number of answers that are still needed bounds the run. The result is read off the course
of the invocation, which each answer takes one stage further: the rounds that are over, and how
far the current one has come. A run can only end at two of the stages. -/
theorem outcome_settled (service : String) (policy : RetryPolicy)
    (encounters : List (Encounter ω)) (usual : ∀ encounter ∈ encounters, encounter.Usual)
    (attended : (start service policy).Attended encounters) :
    let invocation := (start service policy).follow encounters
    encounters.length ≤ 4 * policy.maxAttempts ∧
      (invocation.await? = none ↔ invocation.result? ≠ none) ∧
      ∀ result, invocation.result? = some result →
        ∃ rounds rest,
          (start service policy).chronicle encounters = rounds.flatMap Round.notes ++ rest ∧
            Settled service policy rounds rest result := by
  intro invocation
  have course : Course service policy _ invocation := follow_course encounters attended
  obtain ⟨unspent, needed⟩ := stepsLeft_start service policy
  have bound := (start service policy).length_add_stepsLeft_le encounters unspent attended
  refine ⟨by omega, result?_of_await?_none course, ?_⟩
  intro result ended
  have refused := refused_eq_nil service policy encounters usual attended
  obtain ⟨past, current, behind, stage, noted⟩ := course
  change Stage service policy past current invocation at stage
  generalize invocation = final at stage ended
  cases stage with
  | fresh first => cases ended
  | selecting => cases ended
  | working => cases ended
  | resting => cases ended
  | refused due now led left candidates =>
    cases ended
    obtain rfl : candidates = [] := refused candidates (by simp [noted])
    exact ⟨past, _, noted, behind.settled_refused left due now led⟩
  | judged round number offered led left result verdict =>
    cases ended
    exact ⟨past ++ [round], [], by simp [noted],
      behind.settled_judged left round number offered led result verdict⟩

/-- A run that fails once and succeeds a second later. -/
def secondTry : List (Encounter Float) :=
  let known : List Instance := [.ofAddress "orders" "10.0.0.1" 80]
  [.plain "orders" known 0 .turn,
    .plain "orders" known 5 (.work (.error .timeout)),
    .plain "orders" known 1000000005 .time,
    .plain "orders" known 1000000009 (.work (.ok (.integer 7)))]

/-- The invocation gives back the reply of its second attempt. -/
theorem outcome_settled_secondTry :
    (∀ encounter ∈ secondTry, encounter.Usual) ∧
      (start "orders" (.named "twice")).Attended secondTry ∧
      ∃ rounds rest,
        (start "orders" (.named "twice")).chronicle secondTry =
            rounds.flatMap Round.notes ++ rest ∧
          Settled "orders" (.named "twice") rounds rest (.ok (.integer 7)) := by
  have usual : ∀ encounter ∈ secondTry, encounter.Usual := by
    simp only [secondTry, List.forall_mem_cons]
    exact ⟨.plain .., .plain .., .plain .., .plain .., by simp⟩
  have attended : (start "orders" (.named "twice")).Attended secondTry := by
    refine ⟨⟨.turn, rfl, rfl, by simp⟩, ⟨.work, rfl, rfl, by simp⟩,
      ⟨.time 1000000005, rfl, rfl, ?_⟩, ⟨.work, rfl, rfl, by simp⟩, trivial⟩
    rintro due ⟨⟩
    exact Nat.le_refl _
  exact ⟨usual, attended, (outcome_settled "orders" _ secondTry usual attended).2.2 _ rfl⟩

end Invocation

end CallRouting
