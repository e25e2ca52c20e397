import CallRouting.Proofs.Candidates

/-!
# How long a selection can wait

A lookup waits at most three times: for its turn, for the load lock and for the
directory. Each answer of the kind that it waits for brings it nearer to its list,
however the cache has changed in the meantime. A selection waits with its lookup and
chooses as soon as the list is there, so after each answer it either waits again,
nearer to its end, or has chosen from the candidates in that list.
-/

namespace CallRouting

namespace Lookup

/-- How many answers a lookup can still need. -/
def stepsLeft (lookup : Lookup) : Nat :=
  match lookup.phase with
  | .asked _ => 3
  | .queued _ => 2
  | .loading => 1
  | .answered _ => 0

/-- A lookup waits exactly as long as it has no list. -/
theorem await?_isSome_iff (lookup : Lookup) :
    lookup.await?.isSome = true ↔ lookup.result? = none := by
  obtain ⟨service, phase⟩ := lookup
  cases phase <;> simp [await?, result?]

/-- An answer of the kind that is waited for brings the list nearer: from each phase a lookup goes
on to a later one. -/
theorem stepsLeft_resume (lookup : Lookup) (cache : Cache) (now : Instant) (ticket : Ticket)
    (answer : Answer) (await : Await) (waits : lookup.await? = some await)
    (fits : answer.fits await = true) :
    (lookup.resume cache now ticket answer).2.stepsLeft < lookup.stepsLeft := by
  obtain ⟨service, phase⟩ := lookup
  cases phase with
  | asked reload =>
    cases waits
    cases answer <;> simp only [Answer.fits, Bool.false_eq_true] at fits
    simp only [resume, Cache.come]
    split <;> simp [stepsLeft]
  | queued seen =>
    cases waits
    cases answer <;> simp only [Answer.fits, Bool.false_eq_true] at fits
    simp only [resume, Cache.enter]
    split <;> simp [stepsLeft]
  | loading =>
    cases waits
    cases answer <;> simp only [Answer.fits, Bool.false_eq_true] at fits
    simp [resume, Cache.complete, stepsLeft]
  | answered instances => cases waits

/-- A lookup never needs more than three answers. -/
theorem stepsLeft_le (lookup : Lookup) : lookup.stepsLeft ≤ 3 := by
  obtain ⟨service, phase⟩ := lookup
  cases phase <;> simp [stepsLeft]

end Lookup

namespace Selection

variable {ω : Type}

/-- How many answers a selection can still need. -/
def stepsLeft (selection : Selection) : Nat :=
  match selection.phase with
  | .asked => 3
  | .looking _ lookup => lookup.stepsLeft
  | .chosen _ => 0

/-- A selection never needs more than three answers. -/
theorem stepsLeft_le (selection : Selection) : selection.stepsLeft ≤ 3 := by
  unfold stepsLeft
  split
  · exact Nat.le_refl 3
  · exact Lookup.stepsLeft_le _
  · exact Nat.zero_le 3

/-- The strategy that a selection goes by when it goes on. -/
def settled (selection : Selection) (router : Router ω) : Strategy :=
  match selection.phase with
  | .looking strategy _ => strategy
  | .asked | .chosen _ => selection.wanted.getD router.strategy

/-- The lookup of a selection that goes on, and the cache that it leaves. -/
def lookedUp? (selection : Selection) (router : Router ω) (moment : Moment ω) (answer : Answer) :
    Option (Cache × Lookup) :=
  match selection.phase, answer with
  | .asked, .turn =>
    some ((Lookup.get selection.service).resume router.cache moment.now moment.ticket .turn)
  | .looking _ lookup, answer =>
    some (lookup.resume router.cache moment.now moment.ticket answer)
  | _, _ => none

/-- The candidates that a selection gets when it goes on, if its list is there then. -/
def offered? (selection : Selection) (router : Router ω) (moment : Moment ω) (answer : Answer) :
    Option (List Instance) := do
  let (_, lookup) ← selection.lookedUp? router moment answer
  let instances ← lookup.result?
  pure (router.candidates instances)

variable [Weight ω]

/-- A selection goes on with its lookup and settles on the answer to it. -/
theorem resume_eq (selection : Selection) (router : Router ω) (moment : Moment ω) (answer : Answer)
    (cache : Cache) (lookup : Lookup)
    (looked : selection.lookedUp? router moment answer = some (cache, lookup)) :
    selection.resume router moment answer =
      selection.settle { router with cache } moment (selection.settled router) lookup := by
  obtain ⟨service, wanted, failed, phase⟩ := selection
  cases phase with
  | asked =>
    cases answer <;> cases looked
    rfl
  | looking strategy current =>
    have gone : current.resume router.cache moment.now moment.ticket answer = (cache, lookup) :=
      Option.some.inj looked
    simp only [resume, gone]
    rfl
  | chosen result => cases looked

omit [Weight ω] in
/-- A selection that waits goes on with its lookup at each answer that fits. -/
theorem lookedUp?_of_fits (selection : Selection) (router : Router ω) (moment : Moment ω)
    (answer : Answer) (await : Await) (waits : selection.await? = some await)
    (fits : answer.fits await = true) :
    ∃ cache lookup, selection.lookedUp? router moment answer = some (cache, lookup) ∧
      lookup.stepsLeft < selection.stepsLeft := by
  obtain ⟨service, wanted, failed, phase⟩ := selection
  cases phase with
  | asked =>
    cases waits
    cases answer <;> simp only [Answer.fits, Bool.false_eq_true] at fits
    have nearer := (Lookup.get service).stepsLeft_resume router.cache moment.now moment.ticket .turn
      .turn rfl rfl
    exact ⟨_, _, rfl, nearer⟩
  | looking strategy lookup =>
    exact ⟨_, _, rfl,
      lookup.stepsLeft_resume router.cache moment.now moment.ticket answer await waits fits⟩
  | chosen result => cases waits

/-- What can come of a selection when it goes on: it waits further, or it chooses from
the candidates in its list. The second part is what it was offered. -/
inductive Progress (selection : Selection) (router : Router ω) (moment : Moment ω) :
    Router ω × Selection → Option (List Instance) → Prop
  | looking (cache : Cache) (lookup : Lookup) (waits : lookup.await?.isSome = true)
      (nearer : lookup.stepsLeft < selection.stepsLeft) :
      Progress selection router moment
        ({ router with cache },
          { selection with phase := .looking (selection.settled router) lookup })
        none
  | chosen (cache : Cache) (instances : List Instance) (balance : Balance ω)
      (picked : Option Instance)
      (choice : router.balance.choose (selection.settled router) moment.draw moment.now
        selection.service (avoiding (router.candidates instances) selection.failed) =
          (balance, picked)) :
      Progress selection router moment
        ({ router with cache, balance }, { selection with phase := .chosen picked })
        (some (router.candidates instances))

/-- A selection that waits makes progress at each answer that fits. -/
theorem resume_progress (selection : Selection) (router : Router ω) (moment : Moment ω)
    (answer : Answer) (await : Await) (waits : selection.await? = some await)
    (fits : answer.fits await = true) :
    selection.Progress router moment (selection.resume router moment answer)
      (selection.offered? router moment answer) := by
  obtain ⟨cache, lookup, looked, nearer⟩ :=
    selection.lookedUp?_of_fits router moment answer await waits fits
  rw [selection.resume_eq router moment answer cache lookup looked]
  simp only [offered?, looked, settle, bind, Option.bind]
  cases answered : lookup.result? with
  | none => exact .looking cache lookup (lookup.await?_isSome_iff.mpr answered) nearer
  | some instances => exact .chosen cache instances _ _ rfl

end Selection

end CallRouting
