import CallRouting.Stats.Weights
import Mathlib.Data.List.GetD
import Mathlib.MeasureTheory.Measure.Lebesgue.Basic

/-!
# The intervals of a table of weights

Here averages, weights and draws are exact numbers. A table of weights then cuts the range
from zero to its last sum into intervals, one for each candidate: from the sum before its
place, excluded, to its own sum, included. A draw goes to the candidate whose interval it
falls into, because that is the first one whose sum reaches it. The intervals are as long as
the weights, so each candidate gets its weight as the measure of its draws.
-/

open MeasureTheory

namespace CallRouting

/-- Exact numbers. -/
noncomputable instance : Weight ℝ where
  quotient a b := (a.toNat : ℝ) / b.toNat
  decideLE _ _ := inferInstance
  decideLT _ _ := inferInstance

/-- In exact numbers the total does not depend on how it is added up. -/
theorem sumOf_eq (values : List ℝ) : sumOf values = values.sum :=
  List.sum_eq_foldl.symm

/-- The sum before a place of a table: zero before the first one. -/
def sumBefore (table : List ℝ) (place : Nat) : ℝ := (0 :: table).getD place 0

/-- The draws between the sum before a place and the sum at it. -/
def interval (table : List ℝ) (place : Nat) : Set ℝ :=
  Set.Ioc (sumBefore table place) (sumBefore table (place + 1))

/-- The draws below an end that a table gives to a place: those that its sum is the first to
reach. -/
def drawsTo (table : List ℝ) (last : ℝ) (place : Nat) : Set ℝ :=
  {draw | 0 < draw ∧ draw < last ∧ table.findIdx? (fun sum => draw ≤ sum) = some place}

/-- The running sums from a start, in closed form: each place adds the total and takes its own
value away again. By induction on the values, with the start moved on by the first. -/
theorem sumBefore_runningSums (total start : ℝ) (values : List ℝ) (place : Nat)
    (inside : place ≤ values.length) :
    (start :: runningSums total start values).getD place 0 =
      start + place * total - (values.take place).sum := by
  induction values generalizing start place with
  | nil =>
    obtain rfl : place = 0 := Nat.le_zero.mp inside
    simp
  | cons value rest inductionHypothesis =>
    cases place with
    | zero => simp
    | succ place =>
      rw [List.getD_cons_succ, runningSums,
        inductionHypothesis _ _ (Nat.le_of_succ_le_succ inside)]
      simp only [List.take_succ_cons, List.sum_cons, Nat.cast_add, Nat.cast_one]
      ring

/-- The sum before a place is what the values before it leave of as many totals. -/
theorem sumBefore_weightTable (averages : List ℝ) (place : Nat) (inside : place ≤ averages.length) :
    sumBefore (weightTable averages) place =
      place * averages.sum - (averages.take place).sum := by
  rw [sumBefore, weightTable, sumBefore_runningSums _ _ _ _ inside, sumOf_eq, zero_add]

/-- The sum before a place beyond the first is the one that the table has in the place before. -/
theorem sumBefore_succ (table : List ℝ) (place : Nat) (inside : place < table.length) :
    sumBefore table (place + 1) = table[place] := by
  rw [sumBefore, List.getD_cons_succ, List.getD_eq_getElem _ _ inside]

section Averages

variable {averages : List ℝ} (nonneg : ∀ average ∈ averages, 0 ≤ average)

/-- The width of a candidate's interval is its weight: the total without its own average. -/
theorem step_weightTable (place : Nat) (average : ℝ) (there : averages[place]? = some average) :
    sumBefore (weightTable averages) (place + 1) - sumBefore (weightTable averages) place =
      averages.sum - average := by
  obtain ⟨inside, same⟩ := List.getElem?_eq_some_iff.mp there
  rw [sumBefore_weightTable _ _ inside, sumBefore_weightTable _ _ (Nat.le_of_lt inside),
    List.sum_take_succ _ _ inside, same]
  push_cast
  ring

include nonneg

/-- No candidate is slower than all together, so no weight is negative. -/
theorem sumBefore_mono (earlier later : Nat) (order : earlier ≤ later)
    (inside : later ≤ averages.length) :
    sumBefore (weightTable averages) earlier ≤ sumBefore (weightTable averages) later := by
  induction later, order using Nat.le_induction with
  | base => exact le_refl _
  | succ place _ inductionHypothesis =>
    have member : averages[place] ∈ averages := List.getElem_mem inside
    have part : averages[place] ≤ averages.sum := List.single_le_sum nonneg _ member
    have step := step_weightTable place averages[place] (List.getElem?_eq_getElem inside)
    have before := inductionHypothesis (Nat.le_of_lt inside)
    linarith

/-- The first sum that reaches a draw above zero is the one in whose interval it lies.

The sums grow, so all before the first that reaches the draw lie below it, and the last of those
is the lower end of the interval. -/
theorem findIdx?_iff_mem_interval (draw : ℝ) (positive : 0 < draw) (place : Nat) :
    ((weightTable averages).findIdx? fun sum => draw ≤ sum) = some place ↔
      draw ∈ interval (weightTable averages) place := by
  have length := length_weightTable averages
  rw [List.findIdx?_eq_some_iff_getElem, interval, Set.mem_Ioc]
  constructor
  · rintro ⟨inside, reached, first⟩
    rw [sumBefore_succ _ _ inside]
    refine ⟨?_, of_decide_eq_true reached⟩
    cases place with
    | zero => exact positive
    | succ before =>
      rw [sumBefore_succ _ _ (Nat.lt_of_succ_lt inside)]
      have missed := first before (Nat.lt_succ_self before)
      exact not_le.mp fun reaches => missed (decide_eq_true reaches)
  · rintro ⟨beyond, reaches⟩
    have inside : place < (weightTable averages).length := by
      by_contra outside
      rw [sumBefore, List.getD_cons_succ, List.getD_eq_default _ _ (Nat.le_of_not_lt outside)]
        at reaches
      exact absurd reaches (not_le.mpr positive)
    refine ⟨inside, decide_eq_true (sumBefore_succ _ _ inside ▸ reaches), ?_⟩
    intro earlier order reached
    have below := sumBefore_mono nonneg (earlier + 1) place order
      (Nat.le_of_lt (length ▸ inside))
    rw [sumBefore_succ _ _ (order.trans inside)] at below
    exact absurd (of_decide_eq_true reached) (not_le.mpr (below.trans_lt beyond))

/-- The draws that go to a place lie in its interval, between zero and the end. -/
theorem mem_drawsTo (last : ℝ) (place : Nat) (draw : ℝ) :
    draw ∈ drawsTo (weightTable averages) last place ↔
      0 < draw ∧ draw < last ∧ draw ∈ interval (weightTable averages) place := by
  refine and_congr_right fun positive => and_congr_right fun _ => ?_
  exact findIdx?_iff_mem_interval nonneg draw positive place

/-- The draws that go to a place are its interval, with or without the upper end. -/
theorem volume_drawsTo (last : ℝ) (final : (weightTable averages).getLast? = some last)
    (place : Nat) (average : ℝ) (there : averages[place]? = some average) :
    volume (drawsTo (weightTable averages) last place) =
      ENNReal.ofReal (averages.sum - average) := by
  have step := step_weightTable place average there
  obtain ⟨inside, -⟩ := List.getElem?_eq_some_iff.mp there
  have length := length_weightTable averages
  have positive := sumBefore_mono nonneg 0 place (Nat.zero_le _) (Nat.le_of_lt inside)
  -- No interval reaches beyond the end of the draws.
  have upToLast : sumBefore (weightTable averages) (place + 1) ≤ last := by
    rw [List.getLast?_eq_getElem?, length] at final
    obtain ⟨lastInside, same⟩ := List.getElem?_eq_some_iff.mp final
    have above := sumBefore_mono nonneg (place + 1) (averages.length - 1 + 1) (by omega) (by omega)
    rwa [sumBefore_succ _ _ lastInside, same] at above
  -- An interval has the same measure without its upper end, so it suffices to bound the draws by
  -- both.
  have inner : Set.Ioo (sumBefore (weightTable averages) place)
      (sumBefore (weightTable averages) (place + 1)) ⊆
        drawsTo (weightTable averages) last place := by
    rintro draw ⟨beyond, below⟩
    exact (mem_drawsTo nonneg last place draw).mpr
      ⟨positive.trans_lt beyond, below.trans_le upToLast, beyond, le_of_lt below⟩
  have outer : drawsTo (weightTable averages) last place ⊆
      interval (weightTable averages) place := fun draw given =>
    ((mem_drawsTo nonneg last place draw).mp given).2.2
  rw [← step]
  apply le_antisymm
  · exact (measure_mono outer).trans_eq Real.volume_Ioc
  · exact Real.volume_Ioo.symm.trans_le (measure_mono inner)

end Averages

/-- A table as it should be for candidates with these average latencies. It has a sum for
each of them; no sum is negative or less than the one before; the steps are the weights. -/
structure Tabulates (averages table : List ℝ) : Prop where
  length : table.length = averages.length
  nonneg : ∀ sum ∈ table, 0 ≤ sum
  sorted : table.Pairwise (· ≤ ·)
  step : ∀ place average, averages[place]? = some average →
    sumBefore table (place + 1) - sumBefore table place = averages.sum - average
  last : averages ≠ [] → table.getLast? = some ((averages.length - 1) * averages.sum)

/-- A table of weights is as it should be, for all averages that are not negative. Each field
follows from the closed form of the sums. -/
theorem tabulates_weightTable (averages : List ℝ) (nonneg : ∀ average ∈ averages, 0 ≤ average) :
    Tabulates averages (weightTable averages) := by
  have length := length_weightTable averages
  refine ⟨length, ?_, ?_, step_weightTable, ?_⟩
  · intro sum member
    obtain ⟨place, inside, rfl⟩ := List.getElem_of_mem member
    have above := sumBefore_mono nonneg 0 (place + 1) (Nat.zero_le _) (length ▸ inside)
    rwa [sumBefore_succ _ _ inside] at above
  · refine List.pairwise_iff_getElem.mpr fun earlier later insideEarlier insideLater order => ?_
    have above := sumBefore_mono nonneg (earlier + 1) (later + 1)
      (Nat.succ_le_succ (Nat.le_of_lt order)) (length ▸ insideLater)
    rwa [sumBefore_succ _ _ insideEarlier, sumBefore_succ _ _ insideLater] at above
  · intro nonempty
    obtain ⟨count, size⟩ := Nat.exists_eq_succ_of_ne_zero (mt List.length_eq_zero_iff.mp nonempty)
    have inside : count < (weightTable averages).length := by omega
    have sum := sumBefore_weightTable averages (count + 1) (Nat.le_of_eq size.symm)
    rw [sumBefore_succ _ _ inside, ← Nat.succ_eq_add_one, ← size, List.take_length] at sum
    have final : (weightTable averages).length - 1 = count := by omega
    rw [List.getLast?_eq_getElem?, final, List.getElem?_eq_getElem inside, sum]
    congr 1
    ring

/-- How a table shares out the draws between zero and its last sum among candidates with
these average latencies. -/
structure SharesOut (averages table : List ℝ) (last : ℝ) : Prop where
  /-- A draw is reached by a sum, so the candidate that stands in for a missing one is never
  needed. -/
  reached : ∀ draw, 0 ≤ draw → draw < last →
    ∃ place < averages.length, table.findIdx? (fun sum => draw ≤ sum) = some place
  /-- It goes to the one place in whose interval it lies. -/
  own : ∀ draw, 0 < draw → draw < last → ∃! place, draw ∈ interval table place
  goes : ∀ place draw, draw ∈ drawsTo table last place ↔
    0 < draw ∧ draw < last ∧ draw ∈ interval table place
  measure : ∀ place average, averages[place]? = some average →
    volume (drawsTo table last place) = ENNReal.ofReal (averages.sum - average)
  weightless : ∀ place average, averages[place]? = some average → averages.sum - average = 0 →
    drawsTo table last place = ∅
  quicker : ∀ place other average slower, averages[place]? = some average →
    averages[other]? = some slower → average ≤ slower →
    volume (drawsTo table last other) ≤ volume (drawsTo table last place)

/-- A table of weights shares the draws out as it should. A draw below the last sum is reached
by that one at the latest; the place is unique since the intervals do not overlap; and their
measures are the weights. -/
theorem sharesOut_weightTable (averages : List ℝ) (nonneg : ∀ average ∈ averages, 0 ≤ average)
    (last : ℝ) (final : (weightTable averages).getLast? = some last) :
    SharesOut averages (weightTable averages) last := by
  have length := length_weightTable averages
  have reached (draw : ℝ) (below : draw < last) :
      ∃ place < averages.length,
        (weightTable averages).findIdx? (fun sum => draw ≤ sum) = some place := by
    cases found : (weightTable averages).findIdx? (fun sum => draw ≤ sum) with
    | none =>
      have missed := List.findIdx?_eq_none_iff.mp found last (List.mem_of_getLast? final)
      exact absurd (le_of_lt below) (of_decide_eq_false missed)
    | some place =>
      obtain ⟨inside, -⟩ := List.findIdx?_eq_some_iff_getElem.mp found
      exact ⟨place, length ▸ inside, rfl⟩
  refine ⟨fun draw _ => reached draw, ?_, mem_drawsTo nonneg last,
    volume_drawsTo nonneg last final, ?_, ?_⟩
  · intro draw positive below
    obtain ⟨place, _, found⟩ := reached draw below
    have here := (findIdx?_iff_mem_interval nonneg draw positive place).mp found
    refine ⟨place, here, fun other inside => ?_⟩
    have again := (findIdx?_iff_mem_interval nonneg draw positive other).mpr inside
    exact Option.some.inj (again.symm.trans found)
  · intro place average there weightless
    refine Set.eq_empty_of_forall_notMem fun draw given => ?_
    obtain ⟨_, _, beyond, reaches⟩ := (mem_drawsTo nonneg last place draw).mp given
    have step := step_weightTable place average there
    linarith
  · intro place other average slower there elsewhere order
    rw [volume_drawsTo nonneg last final place average there,
      volume_drawsTo nonneg last final other slower elsewhere]
    exact ENNReal.ofReal_le_ofReal (sub_le_sub_left order _)

end CallRouting
