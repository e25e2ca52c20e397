import CallRouting.Proofs.Failover

/-!
# The turns of further attempts

Further attempts take turns of their own: each goes to the one whose turn it is among the
candidates that are left to choose from. All invocations of a service share these turns. While an
invocation has them to itself, they follow one another without a gap.
-/

namespace CallRouting

variable {ω : Type}

/-- How many turns further attempts have taken for a service. -/
def Router.retryTurn (router : Router ω) (service : String) : UInt64 :=
  router.balance.retryRotation.count service

/-- An attempt, the candidates for it and the turn that further attempts had come to then. -/
structure Try where
  turn : UInt64
  candidates : List Instance
  target : Instance

/-- The identity on which an attempt was made. -/
def Try.identity (made : Try) : Identity := made.target.identity

/-- Whether an attempt was made on the one whose turn it was, of those that were left when some
had failed. -/
def Try.Turned (failed : List Identity) (made : Try) : Prop :=
  let left := avoiding made.candidates failed
  left[made.turn.toNat % left.length]? = some made.target

/-- The attempt that is noted, if one is. -/
def Note.tried? (turn : UInt64) : Note → Option Try
  | .engaged candidates _ attempt => some ⟨turn, candidates, attempt.target⟩
  | _ => none

/-- Attempts of which each but the first was made on the one whose turn it was. -/
inductive InTurn : List Try → Prop
  | nil : InTurn []
  | first (made : Try) : InTurn [made]
  | further (earlier : List Try) (made : Try) (inTurn : InTurn earlier) (some : earlier ≠ [])
      (turned : made.Turned (earlier.map Try.identity)) : InTurn (earlier ++ [made])

/-- Attempts after the first one that took one turn after the other, and how many turns are taken
then. -/
structure Undisturbed (tries : List Try) (left : UInt64) : Prop where
  consecutive : tries.tail.IsChain fun made next => next.turn = made.turn + 1
  left : ∀ last, tries.tail.getLast? = some last → left = last.turn + 1

/-- A further attempt that takes the next turn leaves the attempts undisturbed. -/
theorem Undisturbed.append {tries : List Try} {left : UInt64} (undisturbed : Undisturbed tries left)
    (some : tries ≠ []) (candidates : List Instance) (target : Instance) :
    Undisturbed (tries ++ [⟨left, candidates, target⟩]) (left + 1) := by
  obtain ⟨first, rest, rfl⟩ := List.exists_cons_of_ne_nil some
  constructor
  · refine List.isChain_append.mpr ⟨undisturbed.consecutive, .singleton _, ?_⟩
    rintro last latest _ ⟨⟩
    exact undisturbed.left last latest
  · intro last latest
    rw [List.cons_append, List.tail_cons, List.getLast?_concat] at latest
    cases latest
    rfl

/-- A single attempt is undisturbed: the turns are those of further ones. -/
theorem undisturbed_of_one (tries : List Try) (one : tries.tail = []) (left : UInt64) :
    Undisturbed tries left := by
  constructor <;> simp [one]

variable [Weight ω]

/-- A choice by the turns of further attempts takes one and gives the one whose turn it is. -/
theorem Balance.choose_retryRoundRobin (balance : Balance ω) (draw : Draw ω) (now : Instant)
    (service : String) (candidates : List Instance) (nonempty : candidates ≠ []) :
    (balance.choose .retryRoundRobin draw now service candidates).1.retryRotation.count service =
        balance.retryRotation.count service + 1 ∧
      (balance.choose .retryRoundRobin draw now service candidates).2 =
        candidates[(balance.retryRotation.count service).toNat % candidates.length]? := by
  obtain ⟨counted, taken⟩ := balance.retryRotation.select_of_ne_nil service candidates nonempty
  have some : candidates.isEmpty = false := by simpa using nonempty
  unfold choose select
  generalize balance.retryRotation.select service candidates = result at counted taken
  obtain ⟨rotation, picked⟩ := result
  subst taken
  simp only [some, Bool.false_eq_true, if_false]
  exact ⟨counted, trivial⟩

/-- What is chosen by the turns of further attempts is the one whose turn it is, and takes that
turn. -/
theorem Balance.of_choose_retryRoundRobin_eq_some {balance after : Balance ω} {draw : Draw ω}
    {now : Instant} {service : String} {candidates : List Instance} {x : Instance}
    (choice : balance.choose .retryRoundRobin draw now service candidates = (after, some x)) :
    after.retryRotation.count service = balance.retryRotation.count service + 1 ∧
      candidates[(balance.retryRotation.count service).toNat % candidates.length]? = some x := by
  have nonempty : candidates ≠ [] := by
    rintro rfl
    rw [choose_nil] at choice
    cases choice
  obtain ⟨counted, taken⟩ :=
    balance.choose_retryRoundRobin draw now service candidates nonempty
  rw [choice] at counted taken
  exact ⟨counted, taken.symm⟩

/-- Where nothing is chosen by the turns of further attempts, no turn is taken. -/
theorem Balance.eq_of_choose_retryRoundRobin_eq_none {balance after : Balance ω} {draw : Draw ω}
    {now : Instant} {service : String} {candidates : List Instance}
    (choice : balance.choose .retryRoundRobin draw now service candidates = (after, none)) :
    after = balance := by
  by_cases nonempty : candidates = []
  · rw [nonempty, choose_nil] at choice
    exact (congrArg Prod.fst choice).symm
  · have taken := (balance.choose_retryRoundRobin draw now service candidates nonempty).2
    rw [choice] at taken
    have inside := Nat.mod_lt (balance.retryRotation.count service).toNat
      (List.length_pos_iff.mpr nonempty)
    simp [List.getElem?_eq_getElem inside] at taken

namespace Invocation

/-- The attempts that an invocation begins when it goes on. -/
def triesAt (invocation : Invocation) (met : Encounter ω) : List Try :=
  (invocation.notes met.router met.moment met.answer).filterMap
    (Note.tried? (met.router.retryTurn invocation.service))

/-- The attempts of a run. -/
def tries (invocation : Invocation) : List (Encounter ω) → List Try
  | [] => []
  | met :: rest => invocation.triesAt met ++ (invocation.meet met).tries rest

/-- Whether nobody else takes a turn of the further attempts for the service between one encounter
and the next. -/
def Alone (invocation : Invocation) : List (Encounter ω) → Prop
  | [] => True
  | met :: rest =>
    (∀ next ∈ rest.head?, next.router.retryTurn invocation.service =
      (invocation.resume met.router met.moment met.answer).1.retryTurn invocation.service) ∧
      (invocation.meet met).Alone rest

/-- An invocation whose attempts have been in turn, and that will take the next one in turn. -/
structure Underway (tries : List Try) (invocation : Invocation) : Prop where
  inTurn : InTurn tries
  kept : invocation.result? = none →
    tries.map Try.identity = invocation.failed ++ invocation.running
  avoiding : ∀ selection, invocation.phase = .selecting selection →
    invocation.Avoiding selection ∧ selection.service = invocation.service

/-- What comes of a selection leaves the invocation in turn, and undisturbed. -/
theorem Advanced.underway {invocation : Invocation} {router : Router ω} {moment : Moment ω}
    {selection : Selection} {after : Router ω × Invocation} {tries : List Try} {added : List Note}
    (advanced : invocation.Advanced router moment selection after added) (inTurn : InTurn tries)
    (kept : tries.map Try.identity = invocation.failed) (avoids : invocation.Avoiding selection)
    (service : selection.service = invocation.service) :
    let more := added.filterMap (Note.tried? (router.retryTurn invocation.service))
    Underway (tries ++ more) after.2 ∧
      (Undisturbed tries (router.retryTurn invocation.service) →
        Undisturbed (tries ++ more) (after.1.retryTurn invocation.service)) := by
  intro more
  -- After a first attempt the choice goes by the turns of further attempts.
  have turns (some : tries ≠ []) : selection.settled router = .retryRoundRobin := by
    refine selection.settled_byTurns router (avoids.byTurns ?_)
    rw [← kept]
    simpa using some
  cases advanced with
  | looking cache lookup waits nearer =>
    simp only [more, List.filterMap_nil, List.append_nil]
    refine ⟨⟨inTurn, fun _ => by simp [kept, running], ?_⟩, id⟩
    rintro current ⟨⟩
    exact ⟨⟨avoids.failed, fun some => selection.settled_byTurns router (avoids.byTurns some)⟩,
      service⟩
  | refused cache instances balance choice =>
    simp only [more, List.filterMap_cons, Note.tried?, List.filterMap_nil, List.append_nil]
    refine ⟨⟨inTurn, by rintro ⟨⟩, by rintro _ ⟨⟩⟩, fun undisturbed => ?_⟩
    by_cases some : tries = []
    · exact undisturbed_of_one tries (by simp [some]) _
    · rw [turns some] at choice
      rw [Balance.eq_of_choose_retryRoundRobin_eq_none choice]
      exact undisturbed
  | engaged cache instances balance x choice ledger handle opened =>
    simp only [more, List.filterMap_cons, Note.tried?, List.filterMap_nil]
    by_cases some : tries = []
    · refine ⟨⟨?_, fun _ => by simp [kept, running, Try.identity], by rintro _ ⟨⟩⟩, fun _ => ?_⟩
      · subst some
        exact .first _
      · exact undisturbed_of_one _ (by simp [some]) _
    · rw [turns some, avoids.failed, ← kept, service] at choice
      obtain ⟨counted, taken⟩ := Balance.of_choose_retryRoundRobin_eq_some choice
      refine ⟨⟨.further tries _ inTurn some taken, fun _ => by simp [kept, running, Try.identity],
        by rintro _ ⟨⟩⟩, fun undisturbed => ?_⟩
      have further := undisturbed.append some (router.candidates instances) x
      rwa [Router.retryTurn, ← counted] at further

/-- An invocation stays in turn when its selection goes on for the service that it had. -/
theorem Advanced.service_eq {invocation : Invocation} {router : Router ω} {moment : Moment ω}
    {selection : Selection} {after : Router ω × Invocation} {added : List Note}
    (advanced : invocation.Advanced router moment selection after added) :
    after.2.service = invocation.service := by
  cases advanced <;> rfl

omit [Weight ω] in
/-- The beginning of a selection is no attempt. -/
theorem filterMap_tried?_opening (selection : Selection) (now : Instant) (turn : UInt64) :
    (selection.opening now).filterMap (Note.tried? turn) = [] := by
  unfold Selection.opening
  split <;> rfl

/-- What an attempt leaves when it has failed: the identities of all tries are those that the
invocation has noted as failed. -/
theorem Underway.afterFailure {tries : List Try} {invocation : Invocation}
    (underway : Underway tries invocation) (attempt : Attempt)
    (phase : invocation.phase = .working attempt) :
    tries.map Try.identity = (invocation.afterFailure attempt).failed := by
  have kept := underway.kept (by simp only [result?, phase])
  simp only [running, phase] at kept
  exact kept

/-- At each encounter the invocation stays in turn, and undisturbed.

Only a selection that comes to its choice makes a try; it avoids what has failed, which is all
that was tried. An encounter at which the invocation ends or waits takes no turn. -/
theorem meet_underway (tries : List Try) (invocation : Invocation) (met : Encounter ω)
    (underway : Underway tries invocation) (awaits : invocation.Awaits met) :
    Underway (tries ++ invocation.triesAt met) (invocation.meet met) ∧
      (invocation.meet met).service = invocation.service ∧
      (Undisturbed tries (met.router.retryTurn invocation.service) →
        Undisturbed (tries ++ invocation.triesAt met)
          ((invocation.resume met.router met.moment met.answer).1.retryTurn
            invocation.service)) := by
  obtain ⟨await, waits, fits, _⟩ := awaits
  have step := invocation.resume_step met.router met.moment met.answer await waits fits
  unfold meet triesAt
  generalize invocation.resume met.router met.moment met.answer = after at step ⊢
  generalize invocation.notes met.router met.moment met.answer = added at step ⊢
  generalize met.answer = answer at step
  cases step with
  | select selection answer after noted phase advanced =>
    have kept := underway.kept (by simp only [result?, phase])
    simp only [running, phase, List.append_nil] at kept
    obtain ⟨avoids, service⟩ := underway.avoiding selection phase
    rw [List.filterMap_append, filterMap_tried?_opening, List.nil_append]
    obtain ⟨onwards, further⟩ := advanced.underway underway.inTurn kept avoids service
    exact ⟨onwards, advanced.service_eq, further⟩
  | finish attempt outcome result phase verdict =>
    simp only [List.filterMap_cons, Note.tried?, List.filterMap_nil, List.append_nil]
    exact ⟨⟨underway.inTurn, by rintro ⟨⟩, by rintro _ ⟨⟩⟩, trivial, id⟩
  | rest attempt outcome phase verdict positive =>
    simp only [List.filterMap_cons, Note.tried?, List.filterMap_nil, List.append_nil]
    refine ⟨⟨underway.inTurn, fun _ => ?_, by rintro _ ⟨⟩⟩, rfl, id⟩
    exact (underway.afterFailure attempt phase).trans (List.append_nil _).symm
  | again attempt outcome after noted phase verdict zero advanced =>
    obtain ⟨onwards, further⟩ := advanced.underway underway.inTurn
      (underway.afterFailure attempt phase) (retrySelection_avoiding _) rfl
    exact ⟨onwards, advanced.service_eq, further⟩
  | wake due after noted phase advanced =>
    have kept := underway.kept (by simp only [result?, phase])
    simp only [running, phase, List.append_nil] at kept
    obtain ⟨onwards, further⟩ := advanced.underway underway.inTurn kept
      (retrySelection_avoiding _) rfl
    exact ⟨onwards, advanced.service_eq, further⟩

/-- In a run the attempts are in turn. While nobody else takes the turns, they follow one another.

By induction on the encounters: what one of them leaves is what the next begins with, and alone it
also finds the count of turns that was left. -/
theorem tries_run (made : List Try) (left : UInt64) (invocation : Invocation)
    (encounters : List (Encounter ω)) (underway : Underway made invocation)
    (attended : invocation.Attended encounters) :
    InTurn (made ++ invocation.tries encounters) ∧
      (Undisturbed made left → invocation.Alone encounters →
        (∀ next ∈ encounters.head?, next.router.retryTurn invocation.service = left) →
          (made ++ invocation.tries encounters).tail.IsChain
            fun one next => next.turn = one.turn + 1) := by
  induction encounters generalizing made left invocation with
  | nil =>
    rw [tries, List.append_nil]
    exact ⟨underway.inTurn, fun undisturbed _ _ => undisturbed.consecutive⟩
  | cons met rest inductionHypothesis =>
    obtain ⟨onwards, service, further⟩ := meet_underway made invocation met underway attended.1
    obtain ⟨inTurn, consecutive⟩ := inductionHypothesis _
      ((invocation.resume met.router met.moment met.answer).1.retryTurn invocation.service) _
      onwards attended.2
    rw [tries, ← List.append_assoc]
    refine ⟨inTurn, fun undisturbed alone first => consecutive (further ?_) alone.2 ?_⟩
    · rw [first met rfl]
      exact undisturbed
    · rw [service]
      exact alone.1

/-- The attempts of an invocation are in turn from its start. -/
theorem tries_inTurn (service : String) (policy : RetryPolicy) (encounters : List (Encounter ω))
    (attended : (start service policy).Attended encounters) :
    InTurn ((start service policy).tries encounters) ∧
      ((start service policy).Alone encounters →
        ((start service policy).tries encounters).tail.IsChain
          fun one next => next.turn = one.turn + 1) := by
  have nothing : Underway [] (start service policy) := by
    refine ⟨.nil, fun _ => rfl, ?_⟩
    rintro selection ⟨⟩
    exact ⟨⟨rfl, fun some => (some rfl).elim⟩, rfl⟩
  cases encounters with
  | nil => exact ⟨.nil, fun _ => .nil⟩
  | cons met rest =>
    obtain ⟨inTurn, consecutive⟩ := tries_run [] (met.router.retryTurn service) _ _ nothing attended
    refine ⟨inTurn, fun alone => consecutive (undisturbed_of_one [] rfl _) alone ?_⟩
    rintro next ⟨⟩
    rfl

end Invocation

end CallRouting
