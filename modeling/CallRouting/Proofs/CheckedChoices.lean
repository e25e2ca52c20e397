import CallRouting.Proofs.Tables

/-!
# Choosing with checked operations

Three operations of the strategies have no result everywhere: there is no remainder and no
quotient by zero, nothing can be drawn from an empty range, and a list has no entry beyond
its end. Here the strategies are written with operations that check this and stop at the first
misstep.

Round robin, weighted response time and random do misstep on an empty list. A choice asks them
only about other lists, and there no check ever fails: not by the counters, not by the table of
weights, whatever its length was, and not by a draw from the range that was asked for.
-/

namespace CallRouting

variable {ω : Type}

/-- Why an operation has no result. -/
inductive Misstep
  | divisionByZero
  | emptyRange
  | outOfRange
  deriving DecidableEq

namespace Checked

/-- The remainder of a division, unless that is by zero. -/
def remainder (a n : Nat) : Except Misstep Nat :=
  if n = 0 then .error .divisionByZero else .ok (a % n)

/-- The quotient of two counts, unless the second one is zero. -/
def quotient [Weight ω] (a b : UInt64) : Except Misstep ω :=
  if b = 0 then .error .divisionByZero else .ok (Weight.quotient a b)

/-- Draw a place below a length. -/
def place (draw : Draw ω) (length : Nat) : Except Misstep Nat :=
  if length = 0 then .error .emptyRange else .ok (draw.place length)

/-- Draw a number from zero up to an end. -/
def point [Weight ω] (draw : Draw ω) (last : ω) : Except Misstep ω :=
  if 0 < last then .ok (draw.point last) else .error .emptyRange

/-- The entry of a list in a place, unless the place is beyond the end. -/
def entry {α : Type} (list : List α) (place : Nat) : Except Misstep α :=
  match list[place]? with
  | some x => .ok x
  | none => .error .outOfRange

/-- There is an entry in every place below the length. -/
theorem entry_of_lt {α : Type} (list : List α) (place : Nat) (inside : place < list.length) :
    ∃ x, list[place]? = some x ∧ entry list place = .ok x :=
  ⟨list[place], List.getElem?_eq_getElem inside, by simp [entry, inside]⟩

end Checked

/-- The average latency, by a checked division. -/
def Tally.averageChecked [Weight ω] (tally : Tally) : Except Misstep ω :=
  if tally.total = 0 then .ok 0 else Checked.quotient tally.latency tally.total

/-- No average divides by zero. -/
theorem Tally.averageChecked_eq [Weight ω] (tally : Tally) :
    (tally.averageChecked : Except Misstep ω) = .ok tally.average := by
  unfold averageChecked average Checked.quotient
  by_cases none : tally.total = 0 <;> simp [none]

/-- Take a turn. -/
def Rotation.selectChecked (rotation : Rotation) (service : String) (candidates : List Instance) :
    Except Misstep (Rotation × Option Instance) := do
  let place ← Checked.remainder (rotation.count service).toNat candidates.length
  let x ← Checked.entry candidates place
  return ((rotation.next service candidates.length).1, some x)

/-- Taking turns through a list that is not empty goes without a misstep: the remainder is by a
length above zero, and so it is the place of an entry. -/
theorem Rotation.selectChecked_eq (rotation : Rotation) (service : String)
    (candidates : List Instance) (nonempty : candidates ≠ []) :
    ∃ x, (rotation.select service candidates).2 = .ok (some x) ∧
      rotation.selectChecked service candidates =
        .ok ((rotation.select service candidates).1, some x) := by
  have positive : 0 < candidates.length := List.length_pos_iff.mpr nonempty
  obtain ⟨x, found, entry⟩ := Checked.entry_of_lt candidates
    ((rotation.count service).toNat % candidates.length) (Nat.mod_lt _ positive)
  have remainder : Checked.remainder (rotation.count service).toNat candidates.length =
      .ok ((rotation.count service).toNat % candidates.length) := if_neg (Nat.ne_of_gt positive)
  have turn : (rotation.next service candidates.length).2 =
      some ((rotation.count service).toNat % candidates.length) := if_neg (Nat.ne_of_gt positive)
  have selected := (rotation.select_of_ne_nil service candidates nonempty).2
  rw [found] at selected
  refine ⟨x, selected, ?_⟩
  unfold selectChecked select
  rw [remainder]
  generalize rotation.next service candidates.length = taken at turn ⊢
  obtain ⟨after, place⟩ := taken
  subst turn
  simp only [bind, Except.bind, entry]
  rfl

namespace Ledger

variable [Weight ω]

/-- The average latencies of the candidates, each by a checked division. -/
def averagesChecked (ledger : Ledger ω) (now : Instant) (service : String) :
    List Instance → Except Misstep (Ledger ω × List ω)
  | [] => .ok (ledger, [])
  | x :: rest => do
    let (ledger, handle) := ledger.access now service x
    let average ← (ledger.tally handle).averageChecked
    let (ledger, others) ← ledger.averagesChecked now service rest
    return (ledger, average :: others)

/-- Compute the table of a service anew from checked averages. -/
def aggregateChecked (ledger : Ledger ω) (now : Instant) (service : String)
    (candidates : List Instance) : Except Misstep (Ledger ω × List ω) := do
  let (ledger, averages) ← ledger.averagesChecked now service candidates
  let table := weightTable averages
  let book := { ledger.book service with weights := some table }
  return ({ ledger with services := ledger.services.put service book }, table)

/-- The table of the service, computed anew if its length is not that of the candidates. -/
def fittingTableChecked (ledger : Ledger ω) (now : Instant) (service : String)
    (candidates : List Instance) : Except Misstep (Ledger ω × Option (List ω)) :=
  match (ledger.book service).weights with
  | none => .ok (ledger, none)
  | some table =>
    if table.length = candidates.length then .ok (ledger, some table)
    else do
      let (ledger, table) ← ledger.aggregateChecked now service candidates
      return (ledger, some table)

/-- No average of a candidate divides by zero, whatever its tally holds. -/
theorem averagesChecked_eq (ledger : Ledger ω) (now : Instant) (service : String)
    (candidates : List Instance) :
    ledger.averagesChecked now service candidates =
      .ok (ledger.averages now service candidates) := by
  induction candidates generalizing ledger with
  | nil => rfl
  | cons x rest inductionHypothesis =>
    simp only [averagesChecked, averages, Tally.averageChecked_eq, inductionHypothesis]
    rfl

/-- No check fails when a table is computed. -/
theorem aggregateChecked_eq (ledger : Ledger ω) (now : Instant) (service : String)
    (candidates : List Instance) :
    ledger.aggregateChecked now service candidates =
      .ok (ledger.aggregate now service candidates) := by
  simp only [aggregateChecked, averagesChecked_eq]
  rfl

/-- To find a table for some candidates, and to compute it anew, goes without a misstep. -/
theorem fittingTableChecked_eq (ledger : Ledger ω) (now : Instant) (service : String)
    (candidates : List Instance) :
    ledger.fittingTableChecked now service candidates =
      .ok (ledger.fittingTable now service candidates) := by
  unfold fittingTableChecked fittingTable
  cases (ledger.book service).weights with
  | none => rfl
  | some table =>
    dsimp only
    rw [aggregateChecked_eq]
    split <;> rfl

/-- Whatever table was there, the one that is found has an entry for each candidate. -/
theorem length_fittingTable (ledger : Ledger ω) (now : Instant) (service : String)
    (candidates : List Instance) (table : List ω)
    (found : (ledger.fittingTable now service candidates).2 = some table) :
    table.length = candidates.length := by
  unfold fittingTable at found
  split at found
  · cases found
  · split at found
    · rename_i length
      exact Option.some.inj found ▸ length
    · obtain rfl := Option.some.inj found
      exact (length_weightTable _).trans (ledger.length_averages now service candidates)

end Ledger

/-- Draw up to an end, and take the candidate whose interval the draw falls into. -/
def drawnChecked [Weight ω] {α : Type} (draw : Draw ω) (last : ω) (table : List ω)
    (candidates : List α) : Except Misstep (Option α) := do
  let point ← Checked.point draw last
  match table.findIdx? fun sum => point ≤ sum with
  | some index =>
    let x ← Checked.entry candidates index
    return some x
  | none => return candidates.head?

/-- A draw up to an end above zero, from a table as long as the list of candidates, fails no
check: the place that is found in the table is a place in the list. -/
theorem drawnChecked_eq [Weight ω] {α : Type} (draw : Draw ω) (last : ω) (positive : 0 < last)
    (table : List ω) (candidates : List α) (length : table.length = candidates.length) :
    drawnChecked draw last table candidates =
      .ok (drawn (draw.point last) table candidates) := by
  have point : Checked.point draw last = .ok (draw.point last) := if_pos positive
  unfold drawnChecked drawn
  rw [point]
  simp only [bind, Except.bind]
  cases fallen : table.findIdx? fun sum => draw.point last ≤ sum with
  | none => rfl
  | some index =>
    have inside : index < candidates.length :=
      length ▸ (List.findIdx?_eq_some_iff_findIdx_eq.mp fallen).1
    obtain ⟨x, found, entry⟩ := Checked.entry_of_lt candidates index inside
    simp only [entry, found]
    rfl

/-- A table is drawn from only up to an end above zero. -/
theorem pos_of_drawEnd? [Weight ω] (table : List ω) (last : ω)
    (ends : drawEnd? table = some last) : 0 < last := by
  unfold drawEnd? at ends
  split at ends
  · split at ends
    · rename_i positive
      exact Option.some.inj ends ▸ positive
    · cases ends
  · cases ends

namespace Balance

variable [Weight ω]

/-- Take turns on behalf of weighted response time. -/
def selectUnweightedChecked (balance : Balance ω) (service : String)
    (candidates : List Instance) : Except Misstep (Balance ω × Option Instance) := do
  let (rotation, picked) ← balance.weightedRotation.selectChecked service candidates
  return ({ balance with weightedRotation := rotation }, picked)

/-- Pick by weighted response time: by a draw from the table, or by turns if there is no table
to draw from. -/
def selectWeightedChecked (balance : Balance ω) (draw : Draw ω) (now : Instant)
    (service : String) (candidates : List Instance) :
    Except Misstep (Balance ω × Option Instance) := do
  let ledger := balance.ledger.openBook service
  let (ledger, table) ← ledger.fittingTableChecked now service candidates
  let balance := { balance with ledger }
  match table with
  | none => balance.selectUnweightedChecked service candidates
  | some table =>
    match drawEnd? table with
    | none => balance.selectUnweightedChecked service candidates
    | some last =>
      let picked ← drawnChecked draw last table candidates
      return (balance, picked)

/-- Pick by a strategy. -/
def selectChecked (balance : Balance ω) (strategy : Strategy) (draw : Draw ω) (now : Instant)
    (service : String) (candidates : List Instance) :
    Except Misstep (Balance ω × Option Instance) :=
  match strategy with
  | .roundRobin => do
    let (rotation, picked) ← balance.rotation.selectChecked service candidates
    return ({ balance with rotation }, picked)
  | .retryRoundRobin => do
    let (rotation, picked) ← balance.retryRotation.selectChecked service candidates
    return ({ balance with retryRotation := rotation }, picked)
  | .bestAvailable =>
    let (ledger, picked) := balance.ledger.leastActive now none candidates
    .ok ({ balance with ledger }, picked)
  | .weightedResponseTime => balance.selectWeightedChecked draw now service candidates
  | .random => do
    let place ← Checked.place draw candidates.length
    return (balance, some (← Checked.entry candidates place))
  | .custom _ rule => .ok (balance, rule service candidates)

/-- Choose by a strategy. -/
def chooseChecked (balance : Balance ω) (strategy : Strategy) (draw : Draw ω) (now : Instant)
    (service : String) (candidates : List Instance) :
    Except Misstep (Balance ω × Option Instance) :=
  if candidates.isEmpty then .ok (balance, none)
  else balance.selectChecked strategy draw now service candidates

omit [Weight ω] in
/-- The turns that stand in for a missing table fail no check as long as there are candidates. -/
theorem selectUnweightedChecked_eq (balance : Balance ω) (service : String)
    (candidates : List Instance) (nonempty : candidates ≠ []) :
    ∃ picked, (balance.selectUnweighted service candidates).2 = .ok picked ∧
      balance.selectUnweightedChecked service candidates =
        .ok ((balance.selectUnweighted service candidates).1, picked) := by
  obtain ⟨x, turned, taken⟩ :=
    balance.weightedRotation.selectChecked_eq service candidates nonempty
  refine ⟨some x, turned, ?_⟩
  rw [selectUnweightedChecked, taken]
  rfl

/-- Weighing goes without a misstep: it draws only up to an end above zero, and the table has an
entry for each candidate.

The table may be the one that was kept or a new one; both fit, since a kept one is used only at
the right length. -/
theorem selectWeightedChecked_eq (balance : Balance ω) (draw : Draw ω) (now : Instant)
    (service : String) (candidates : List Instance) (nonempty : candidates ≠ []) :
    ∃ picked, (balance.selectWeighted draw now service candidates).2 = .ok picked ∧
      balance.selectWeightedChecked draw now service candidates =
        .ok ((balance.selectWeighted draw now service candidates).1, picked) := by
  have fitting := (balance.ledger.openBook service).length_fittingTable now service candidates
  unfold selectWeighted selectWeightedChecked
  dsimp only
  rw [Ledger.fittingTableChecked_eq]
  simp only [bind, Except.bind]
  generalize (balance.ledger.openBook service).fittingTable now service candidates = fitted
    at fitting ⊢
  obtain ⟨ledger, table⟩ := fitted
  have unweighted :=
    selectUnweightedChecked_eq { balance with ledger } service candidates nonempty
  cases table with
  | none => exact unweighted
  | some table =>
    cases ends : drawEnd? table with
    | none => simpa only [ends] using unweighted
    | some last =>
      refine ⟨drawn (draw.point last) table candidates, by simp only [ends], ?_⟩
      simp only [ends, drawnChecked_eq draw last (pos_of_drawEnd? table last ends) table
        candidates (fitting table rfl)]
      rfl

/-- On a list that is not empty, no strategy of the library makes a misstep, and it picks what
it picks without the checks. Only the random one relies on its draw. -/
theorem selectChecked_eq (balance : Balance ω) (strategy : Strategy) (draw : Draw ω)
    (now : Instant) (service : String) (candidates : List Instance) (nonempty : candidates ≠ [])
    (builtIn : strategy.BuiltIn) (lawful : strategy = .random → draw.Lawful) :
    ∃ picked, (balance.select strategy draw now service candidates).2 = .ok picked ∧
      balance.selectChecked strategy draw now service candidates =
        .ok ((balance.select strategy draw now service candidates).1, picked) := by
  cases strategy with
  | roundRobin =>
    obtain ⟨x, turned, taken⟩ := balance.rotation.selectChecked_eq service candidates nonempty
    refine ⟨some x, turned, ?_⟩
    simp only [selectChecked, taken]
    rfl
  | retryRoundRobin =>
    obtain ⟨x, turned, taken⟩ := balance.retryRotation.selectChecked_eq service candidates nonempty
    refine ⟨some x, turned, ?_⟩
    simp only [selectChecked, taken]
    rfl
  | bestAvailable => exact ⟨_, rfl, rfl⟩
  | weightedResponseTime =>
    exact balance.selectWeightedChecked_eq draw now service candidates nonempty
  | random =>
    -- The range of the draw is not empty, and a draw within it is the place of a candidate.
    have positive : 0 < candidates.length := List.length_pos_iff.mpr nonempty
    obtain ⟨x, found, entry⟩ :=
      Checked.entry_of_lt candidates (draw.place candidates.length) (lawful rfl _ positive)
    have place : Checked.place draw candidates.length = .ok (draw.place candidates.length) :=
      if_neg (Nat.ne_of_gt positive)
    refine ⟨some x, by simp [select, nonempty, found], ?_⟩
    simp only [selectChecked, place, bind, Except.bind, entry, select, List.isEmpty_iff, nonempty,
      if_false]
    rfl
  | custom name rule => exact builtIn.elim

/-- On an empty list all strategies of the library but best available make a misstep. -/
theorem selectChecked_nil (balance : Balance ω) (strategy : Strategy) (draw : Draw ω)
    (now : Instant) (service : String) (builtIn : strategy.BuiltIn) :
    (∃ misstep, balance.selectChecked strategy draw now service [] = .error misstep) ↔
      strategy ≠ .bestAvailable := by
  cases strategy with
  | roundRobin => exact iff_of_true ⟨.divisionByZero, rfl⟩ (by simp)
  | retryRoundRobin => exact iff_of_true ⟨.divisionByZero, rfl⟩ (by simp)
  | bestAvailable => simp [selectChecked]
  | weightedResponseTime =>
    refine iff_of_true ⟨.divisionByZero, ?_⟩ (by simp)
    have fitting := (balance.ledger.openBook service).length_fittingTable now service []
    simp only [selectChecked, selectWeightedChecked, Ledger.fittingTableChecked_eq, bind,
      Except.bind]
    generalize (balance.ledger.openBook service).fittingTable now service [] = fitted at fitting ⊢
    obtain ⟨ledger, table⟩ := fitted
    cases table with
    | none => rfl
    | some table =>
      -- A table for nobody has no end to draw up to.
      obtain rfl := List.length_eq_zero_iff.mp (fitting table rfl)
      rfl
  | random => exact iff_of_true ⟨.emptyRange, rfl⟩ (by simp)
  | custom name rule => exact builtIn.elim

/-- For every state of the counters, the tallies and the tables, a choice from whatever list by
a strategy of the library goes without a misstep, as long as random draws keep to the length
they are asked for. It gives nothing just if the list is empty, and then nothing has changed;
what it gives is a member of the list.

The checked strategies agree with the others one by one, and each picks a member. -/
theorem choose_total (balance : Balance ω) (strategy : Strategy) (builtIn : strategy.BuiltIn)
    (draw : Draw ω) (lawful : strategy = .random → draw.Lawful) (now : Instant)
    (service : String) (candidates : List Instance) :
    let chosen := balance.choose strategy draw now service candidates
    balance.chooseChecked strategy draw now service candidates = .ok chosen ∧
      (chosen.2 = none ↔ candidates = []) ∧
      (chosen.2 = none → chosen.1 = balance) ∧
      ∀ x, chosen.2 = some x → x ∈ candidates := by
  intro chosen
  by_cases empty : candidates = []
  · subst empty
    exact ⟨rfl, iff_of_true rfl rfl, fun _ => rfl, fun x found => nomatch found⟩
  · obtain ⟨x, member, picked⟩ :=
      balance.choose_mem strategy draw now service candidates empty builtIn lawful
    have same : chosen.2 = some x := picked
    refine ⟨?_, ?_, ?_, ?_⟩
    · obtain ⟨picked, selected, checked⟩ :=
        balance.selectChecked_eq strategy draw now service candidates empty builtIn lawful
      have nonempty : candidates.isEmpty = false := by simpa using empty
      simp only [chosen, chooseChecked, choose, nonempty, checked]
      generalize balance.select strategy draw now service candidates = result at selected
      obtain ⟨after, result⟩ := result
      subst selected
      rfl
    · simp [same, empty]
    · simp [same]
    · intro y found
      rw [same] at found
      exact Option.some.inj found ▸ member

/-- A random choice from two instances keeps to the law. -/
theorem choose_total_random :
    Strategy.random.BuiltIn ∧ World.frontDraw.Lawful ∧
      (Balance.empty (.ofSeconds 3600) : Balance Int).chooseChecked .random World.frontDraw 0
        "orders" World.firstThenSecond =
          .ok (.empty (.ofSeconds 3600), some (.ofAddress "orders" "10.0.0.1" 80)) := by
  have builtIn : Strategy.random.BuiltIn := trivial
  have lawful : World.frontDraw.Lawful := fun _ positive => positive
  obtain ⟨total, _⟩ := choose_total (Balance.empty (.ofSeconds 3600) : Balance Int) .random builtIn
    World.frontDraw (fun _ => lawful) 0 "orders" World.firstThenSecond
  exact ⟨builtIn, lawful, total⟩

end Balance

end CallRouting
