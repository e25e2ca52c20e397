import CallRouting.Stats.Tally

/-!
# Response-time weights

The weight of a candidate is the sum of all average latencies less its own, so
the quickest one weighs most. A table holds the running sums of the weights in the
order of the candidates; a draw between zero and the last sum falls into the
interval of one candidate.
-/

namespace CallRouting

variable {ω : Type} [Weight ω]

/-- The sum of some values, from the first one on. -/
def sumOf (values : List ω) : ω := values.foldl (· + ·) 0

/-- The running sums of `total - value`, from a start on. -/
def runningSums (total start : ω) : List ω → List ω
  | [] => []
  | value :: rest => (start + (total - value)) :: runningSums total (start + (total - value)) rest

/-- The table for candidates with these average latencies. -/
def weightTable (averages : List ω) : List ω := runningSums (sumOf averages) 0 averages

/-- The candidate whose interval a draw falls into, and the first one if the table
has no such interval or the candidate is missing. -/
def drawn {α : Type} (draw : ω) (table : List ω) (candidates : List α) : Option α :=
  match table.findIdx? fun sum => draw ≤ sum with
  | some index => candidates[index]? <|> candidates.head?
  | none => candidates.head?

/-- There is one running sum for each value. -/
theorem length_runningSums (total start : ω) (values : List ω) :
    (runningSums total start values).length = values.length := by
  induction values generalizing start with
  | nil => rfl
  | cons value rest inductionHypothesis => simp [runningSums, inductionHypothesis]

/-- A table has one entry for each average. -/
theorem length_weightTable (averages : List ω) : (weightTable averages).length = averages.length :=
  length_runningSums _ _ averages

end CallRouting
