import CallRouting.Proofs.Averages
import CallRouting.Proofs.Intervals

/-!
# Choices by weight

In exact numbers a choice by weight does what the table promises. It takes turns exactly if
there is nothing to weigh: no table was computed before, there is one candidate only, or
none of the candidates has taken any time. Otherwise it goes to the candidate into whose
interval the draw falls, so each candidate is chosen in proportion to its weight.
-/

open MeasureTheory

namespace CallRouting

/-- An average is a quotient of counters. -/
theorem Tally.rational_average (tally : Tally) :
    ∃ exact : ℚ≥0, (exact : ℝ) = (tally.average : ℝ) := by
  unfold average
  split
  · exact ⟨0, NNRat.cast_zero⟩
  · refine ⟨tally.latency.toNat / tally.total.toNat, ?_⟩
    push_cast
    rfl

namespace Ledger

/-- All averages of candidates are quotients of counters. -/
theorem rational_averages (ledger : Ledger ℝ) (now : Instant) (service : String)
    (candidates : List Instance) :
    ∀ average ∈ (ledger.averages now service candidates).2,
      ∃ exact : ℚ≥0, (exact : ℝ) = average := by
  induction candidates generalizing ledger with
  | nil => exact fun _ none => absurd none List.not_mem_nil
  | cons x rest inductionHypothesis =>
    rintro average (_ | ⟨_, later⟩)
    · exact Tally.rational_average _
    · exact inductionHypothesis _ average later

/-- No average is negative, since each is a quotient of counters. -/
theorem averages_nonneg (ledger : Ledger ℝ) (now : Instant) (service : String)
    (candidates : List Instance) :
    ∀ average ∈ (ledger.averages now service candidates).2, 0 ≤ average := by
  intro average member
  obtain ⟨exact, rfl⟩ := ledger.rational_averages now service candidates average member
  exact exact.cast_nonneg

/-- The averages behind the table that a choice among candidates goes by, if the table in
the book was computed from these candidates, if it has another length, or if there is none. -/
inductive Behind (ledger : Ledger ℝ) (now : Instant) (service : String)
    (candidates : List Instance) : Option (List ℝ) → Prop
  | unpublished (missing : (ledger.book service).weights = none) :
      ledger.Behind now service candidates none
  /-- The table was computed from the candidates at an earlier time. -/
  | kept (earlier : Ledger ℝ) (before : Instant)
      (weights : (ledger.book service).weights =
        some (earlier.aggregate before service candidates).2) :
      ledger.Behind now service candidates (some (earlier.averages before service candidates).2)
  /-- The table is computed anew. -/
  | renewed (table : List ℝ) (weights : (ledger.book service).weights = some table)
      (differs : table.length ≠ candidates.length) :
      ledger.Behind now service candidates
        (some ((ledger.openBook service).averages now service candidates).2)

namespace Behind

variable {ledger : Ledger ℝ} {now : Instant} {service : String} {candidates : List Instance}

/-- The table by which a choice goes is that of the averages behind it. -/
theorem fittingTable {averages? : Option (List ℝ)}
    (behind : ledger.Behind now service candidates averages?) :
    ((ledger.openBook service).fittingTable now service candidates).2 =
      averages?.map weightTable := by
  unfold Ledger.fittingTable
  rw [book_openBook]
  cases behind with
  | unpublished missing => rw [missing]; rfl
  | kept earlier before weights =>
    have length : (earlier.aggregate before service candidates).2.length = candidates.length :=
      (length_weightTable _).trans (length_averages _ _ _ _)
    rw [weights]
    dsimp only
    rw [if_pos length]
    rfl
  | renewed table weights differs =>
    rw [weights]
    dsimp only
    rw [if_neg differs]
    rfl

/-- There is an average for each candidate behind a table. -/
theorem length {averages : List ℝ} (behind : ledger.Behind now service candidates (some averages)) :
    averages.length = candidates.length := by
  cases behind <;> exact length_averages _ _ _ _

/-- No average behind a table is negative. -/
theorem nonneg {averages : List ℝ}
    (behind : ledger.Behind now service candidates (some averages)) :
    ∀ average ∈ averages, 0 ≤ average := by
  cases behind <;> exact averages_nonneg _ _ _ _

end Behind

end Ledger

/-- The end up to which a table is drawn from is its last sum. -/
theorem getLast?_of_drawEnd? (table : List ℝ) (last : ℝ) (ends : drawEnd? table = some last) :
    table.getLast? = some last := by
  unfold drawEnd? at ends
  split at ends
  · rename_i final found
    split at ends
    · exact found.trans ends
    · cases ends
  · cases ends

/-- No other candidate stands in for one that is there. -/
theorem drawn_eq (draw : ℝ) (table : List ℝ) (candidates : List Instance) (place : Nat)
    (x : Instance) (found : table.findIdx? (fun sum => draw ≤ sum) = some place)
    (there : candidates[place]? = some x) : drawn draw table candidates = some x := by
  unfold drawn
  rw [found]
  exact (congrArg (· <|> candidates.head?) there).trans rfl

/-- A table cannot be drawn from if there is one candidate only, or if no candidate has taken any
time.

The last of the running sums is the sum of all weights, and each average is left out of just one
weight. -/
theorem drawEnd?_weightTable (averages : List ℝ) (nonempty : averages ≠ [])
    (nonneg : ∀ average ∈ averages, 0 ≤ average) :
    if averages.length = 1 ∨ ∀ average ∈ averages, average = 0 then
      drawEnd? (weightTable averages) = none
    else
      drawEnd? (weightTable averages) = some ((averages.length - 1) * averages.sum) ∧
        0 < (averages.length - 1) * averages.sum := by
  have last := (tabulates_weightTable averages nonneg).last nonempty
  have size : 1 ≤ averages.length := List.length_pos_iff.mpr nonempty
  unfold drawEnd?
  rw [last]
  split
  · rename_i light
    refine if_neg (not_lt.mpr (le_of_eq ?_))
    rcases light with single | idle
    · rw [single, Nat.cast_one, sub_self, zero_mul]
    · rw [List.sum_eq_zero idle, mul_zero]
  · rename_i heavy
    obtain ⟨several, busy⟩ := not_or.mp heavy
    have positive : 0 < ((averages.length : ℝ) - 1) * averages.sum := by
      have many : (1 : ℝ) < averages.length := by
        exact_mod_cast lt_of_le_of_ne size (Ne.symm several)
      obtain ⟨average, member, differs⟩ := not_forall₂.mp busy
      have some : 0 < average := lt_of_le_of_ne (nonneg average member) (Ne.symm differs)
      have all : average ≤ averages.sum := List.single_le_sum nonneg average member
      exact mul_pos (sub_pos.mpr many) (some.trans_le all)
    exact ⟨if_pos positive, positive⟩

/-- There is nothing to weigh. -/
def Unweighable (candidates : List Instance) (averages? : Option (List ℝ)) : Prop :=
  averages? = none ∨ candidates.length = 1 ∨
    ∃ averages, averages? = some averages ∧ ∀ average ∈ averages, average = 0

/-- What a ledger publishes for candidates whose average latencies it finds to be these. -/
structure Ledger.Publishes (ledger : Ledger ℝ) (now : Instant) (service : String)
    (candidates : List Instance) (averages table : List ℝ) : Prop where
  published : ((ledger.aggregate now service candidates).1.book service).weights = some table
  length : table.length = candidates.length
  tabulates : Tabulates averages table
  rational : ∀ average ∈ averages, ∃ exact : ℚ≥0, (exact : ℝ) = average
  found : ledger.Sound →
    averages = candidates.map fun x => ledger.averageOf now service x.identity

/-- What a ledger publishes for candidates is the table of the averages that it finds. -/
theorem Ledger.publishes (ledger : Ledger ℝ) (now : Instant) (service : String)
    (candidates : List Instance) :
    ledger.Publishes now service candidates (ledger.averages now service candidates).2
      (weightTable (ledger.averages now service candidates).2) where
  published := by
    rw [ledger.weights_aggregate, if_pos rfl, ← ledger.aggregate_snd]
    rfl
  length := (length_weightTable _).trans (ledger.length_averages now service candidates)
  tabulates := tabulates_weightTable _ (ledger.averages_nonneg now service candidates)
  rational := ledger.rational_averages now service candidates
  found sound := ledger.averages_snd sound now service candidates

namespace Balance

/-- How a choice by weight chooses, if the table was computed from these averages. -/
structure Samples (balance : Balance ℝ) (now : Instant) (service : String)
    (candidates : List Instance) (averages? : Option (List ℝ)) : Prop where
  /-- It takes a turn exactly if there is nothing to weigh. -/
  turns : ∀ draw,
    (balance.select .weightedResponseTime draw now service candidates).1.weightedRotation.count
      service = balance.weightedRotation.count service + 1 ↔ Unweighable candidates averages?
  turn : Unweighable candidates averages? → ∀ draw,
    (balance.select .weightedResponseTime draw now service candidates).2 =
      .ok candidates[(balance.weightedRotation.count service).toNat % candidates.length]?
  /-- Otherwise the draw decides, and no turn is taken. -/
  still : ¬Unweighable candidates averages? → ∀ draw,
    (balance.select .weightedResponseTime draw now service candidates).1.weightedRotation =
      balance.weightedRotation
  draws : ¬Unweighable candidates averages? → ∃ averages last, averages? = some averages ∧
    last = (candidates.length - 1) * averages.sum ∧ 0 < last ∧
    SharesOut averages (weightTable averages) last ∧
    ∀ draw : Draw ℝ, 0 ≤ draw.point last → draw.point last < last →
      ∃ place x, candidates[place]? = some x ∧
        (weightTable averages).findIdx? (fun sum => draw.point last ≤ sum) = some place ∧
        (balance.select .weightedResponseTime draw now service candidates).2 = .ok (some x) ∧
        (0 < draw.point last → draw.point last ∈ interval (weightTable averages) place ∧
          ∀ other, draw.point last ∈ interval (weightTable averages) other → other = place)

section Choice

variable (balance : Balance ℝ) (draw : Draw ℝ) (now : Instant) (service : String)
  (candidates : List Instance)

/-- A turn is counted, and goes to the candidate in whose place it is. -/
theorem selectUnweighted_eq (nonempty : candidates ≠ []) :
    (balance.selectUnweighted service candidates).1.weightedRotation.count service =
        balance.weightedRotation.count service + 1 ∧
      (balance.selectUnweighted service candidates).2 =
        .ok candidates[(balance.weightedRotation.count service).toNat % candidates.length]? :=
  balance.weightedRotation.select_of_ne_nil service candidates nonempty

/-- Without a table that can be drawn from, a choice by weight takes a turn. -/
theorem select_of_nothing (averages? : Option (List ℝ))
    (behind : balance.ledger.Behind now service candidates averages?)
    (nothing : averages?.bind (fun averages => drawEnd? (weightTable averages)) = none) :
    (balance.select .weightedResponseTime draw now service candidates).1.weightedRotation =
        (balance.selectUnweighted service candidates).1.weightedRotation ∧
      (balance.select .weightedResponseTime draw now service candidates).2 =
        (balance.selectUnweighted service candidates).2 := by
  have fitted := behind.fittingTable
  simp only [select, selectWeighted]
  generalize (balance.ledger.openBook service).fittingTable now service candidates = fitting
    at fitted
  obtain ⟨ledger, table⟩ := fitting
  subst fitted
  cases averages? with
  | none => exact ⟨rfl, rfl⟩
  | some averages =>
    have ends : drawEnd? (weightTable averages) = none := nothing
    simp only [Option.map_some, ends]
    exact ⟨rfl, rfl⟩

/-- With a table that can be drawn from, a choice by weight draws. -/
theorem select_of_last (averages : List ℝ) (last : ℝ)
    (behind : balance.ledger.Behind now service candidates (some averages))
    (ends : drawEnd? (weightTable averages) = some last) :
    (balance.select .weightedResponseTime draw now service candidates).1.weightedRotation =
        balance.weightedRotation ∧
      (balance.select .weightedResponseTime draw now service candidates).2 =
        .ok (drawn (draw.point last) (weightTable averages) candidates) := by
  have fitted := behind.fittingTable
  simp only [select, selectWeighted]
  generalize (balance.ledger.openBook service).fittingTable now service candidates = fitting
    at fitted
  obtain ⟨ledger, table⟩ := fitting
  subst fitted
  simp only [Option.map_some, ends, and_self]

end Choice

/-- A table can be drawn from exactly if there is something to weigh: there is a table, it is for
several candidates, and some of them have taken time. -/
theorem drawEnd?_of_behind {balance : Balance ℝ} {now : Instant} {service : String}
    {candidates : List Instance} (nonempty : candidates ≠ []) (averages? : Option (List ℝ))
    (behind : balance.ledger.Behind now service candidates averages?) :
    (Unweighable candidates averages? ∧
        averages?.bind (fun averages => drawEnd? (weightTable averages)) = none) ∨
      ¬Unweighable candidates averages? ∧ ∃ averages, averages? = some averages ∧
        drawEnd? (weightTable averages) = some ((candidates.length - 1) * averages.sum) ∧
        0 < (candidates.length - 1) * averages.sum := by
  cases averages? with
  | none => exact .inl ⟨.inl rfl, rfl⟩
  | some averages =>
    have length := behind.length
    have some : averages ≠ [] := fun none => nonempty (by
      rw [none, List.length_nil] at length
      exact List.length_eq_zero_iff.mp length.symm)
    have ends := drawEnd?_weightTable averages some behind.nonneg
    rw [length] at ends
    split at ends
    · rename_i light
      refine .inl ⟨.inr ?_, ends⟩
      exact light.imp_right fun idle => ⟨averages, rfl, idle⟩
    · rename_i heavy
      refine .inr ⟨?_, averages, rfl, ends⟩
      rintro (missing | single | ⟨_, same, idle⟩)
      · cases missing
      · exact heavy (.inl single)
      · exact heavy (.inr (Option.some.inj same ▸ idle))

/-- A choice by weight goes by the averages behind its table. If there is nothing to weigh, it
takes a turn; otherwise the draw lies in just one interval, and the candidate is the one there.

Whether a turn was taken shows in the count of the rotation, which differs from the next one. -/
theorem samples_of_behind (balance : Balance ℝ) (now : Instant) (service : String)
    (candidates : List Instance) (nonempty : candidates ≠ []) (averages? : Option (List ℝ))
    (behind : balance.ledger.Behind now service candidates averages?) :
    balance.Samples now service candidates averages? := by
  have moves (turn : UInt64) : turn ≠ turn + 1 := by simp
  rcases drawEnd?_of_behind nonempty averages? behind with
    ⟨light, nothing⟩ | ⟨heavy, averages, rfl, ends, positive⟩
  · have taken (draw : Draw ℝ) :=
      balance.select_of_nothing draw now service candidates averages? behind nothing
    obtain ⟨counted, picked⟩ := balance.selectUnweighted_eq service candidates nonempty
    refine ⟨fun draw => iff_of_true ?_ light, fun _ draw => (taken draw).2.trans picked,
      fun heavy => absurd light heavy, fun heavy => absurd light heavy⟩
    rw [(taken draw).1, counted]
  · have drew (draw : Draw ℝ) :=
      balance.select_of_last draw now service candidates averages _ behind ends
    refine ⟨fun draw => iff_of_false ?_ heavy, fun light => absurd light heavy,
      fun _ draw => (drew draw).1, fun _ => ?_⟩
    · rw [(drew draw).1]
      exact moves _
    · have final := getLast?_of_drawEnd? _ _ ends
      have shared := sharesOut_weightTable averages behind.nonneg _ final
      refine ⟨averages, _, rfl, rfl, positive, shared, fun draw lower upper => ?_⟩
      obtain ⟨place, inside, found⟩ := shared.reached _ lower upper
      rw [behind.length] at inside
      have there := List.getElem?_eq_getElem inside
      refine ⟨place, candidates[place], there, found, ?_, fun above => ?_⟩
      · rw [(drew draw).2, drawn_eq _ _ _ place _ found there]
      · have here := ((shared.goes place _).mp ⟨above, upper, found⟩).2.2
        obtain ⟨_, _, one⟩ := shared.own _ above upper
        exact ⟨here, fun other there => (one other there).trans (one place here).symm⟩

end Balance

/-- In exact numbers the table of any candidates is as it should be, whatever was counted,
and a choice among them by a table that was computed from them, or without one, does what
the averages behind the table say.

The sums have a closed form, from which the intervals and their lengths follow; the choice
finds the one interval in which the draw lies. -/
theorem weighted_choice_exact (candidates : List Instance) (nonempty : candidates ≠ [])
    (now : Instant) (service : String) :
    (∀ ledger : Ledger ℝ,
      ledger.Publishes now service candidates (ledger.averages now service candidates).2
        (ledger.aggregate now service candidates).2) ∧
    ∀ (balance : Balance ℝ) (averages? : Option (List ℝ)),
      balance.ledger.Behind now service candidates averages? →
        balance.Samples now service candidates averages? :=
  ⟨fun ledger => ledger.publishes now service candidates,
    fun balance => balance.samples_of_behind now service candidates nonempty⟩

/-- A call to each of two instances has ended: the first took 10 ms, the second 30 ms. -/
noncomputable def calledTwice : Ledger ℝ :=
  let (ledger, handle) := (Ledger.empty (.ofSeconds 3600)).beforeCall 0
    (.ofAddress "orders" "10.0.0.1" 80)
  let (ledger, other) := (ledger.afterSuccess handle 10).beforeCall 0
    (.ofAddress "orders" "10.0.0.2" 80)
  ledger.afterSuccess other 30

/-- One call each leaves its latency as the average. -/
theorem averages_calledTwice :
    (calledTwice.averages 0 "orders" World.firstThenSecond).2 = [10, 30] := by
  have quotients : (calledTwice.averages 0 "orders" World.firstThenSecond).2 =
      [((10 : Nat) : ℝ) / (1 : Nat), ((30 : Nat) : ℝ) / (1 : Nat)] := by rfl
  rw [quotients]
  norm_num

/-- The state after a round has weighed the two instances. -/
noncomputable def weighedTwo : Balance ℝ :=
  { (Balance.empty (.ofSeconds 3600) : Balance ℝ) with
    ledger := (calledTwice.aggregate 0 "orders" World.firstThenSecond).1 }

/-- The table of the example was computed from these averages, and is kept. -/
theorem behind_weighedTwo :
    weighedTwo.ledger.Behind 0 "orders" World.firstThenSecond (some [10, 30]) := by
  have kept : weighedTwo.ledger.Behind 0 "orders" World.firstThenSecond
      (some (calledTwice.averages 0 "orders" World.firstThenSecond).2) :=
    .kept calledTwice 0 (calledTwice.publishes 0 "orders" World.firstThenSecond).published
  rwa [averages_calledTwice] at kept

/-- The quicker of the two instances has three quarters of the draws, and a draw of 35 out
of 40 goes to the other one. -/
theorem weighted_choice_exact_weighedTwo :
    World.firstThenSecond ≠ [] ∧
      volume (drawsTo (weightTable [10, 30]) 40 0) = 30 ∧
      (weighedTwo.select .weightedResponseTime ⟨fun _ => 0, fun _ => 35⟩ 0 "orders"
        World.firstThenSecond).2 = .ok (some (.ofAddress "orders" "10.0.0.2" 80)) := by
  have nonempty : World.firstThenSecond ≠ [] := List.cons_ne_nil _ _
  have samples := (weighted_choice_exact World.firstThenSecond nonempty 0 "orders").2
    weighedTwo _ behind_weighedTwo
  have heavy : ¬Unweighable World.firstThenSecond (some [10, 30]) := by
    rintro (missing | single | ⟨averages, same, idle⟩)
    · cases missing
    · cases single
    · obtain rfl := Option.some.inj same
      have zero := idle 10 List.mem_cons_self
      norm_num at zero
  obtain ⟨averages, last, same, ends, -, shared, drawn⟩ := samples.draws heavy
  obtain rfl := Option.some.inj same
  obtain rfl : last = 40 := by
    rw [ends]
    norm_num [World.firstThenSecond]
  -- The draw lies in the second interval, from 30 to 40, so it goes to the second instance.
  obtain ⟨place, x, there, -, chosen, one⟩ :=
    drawn ⟨fun _ => 0, fun _ => 35⟩ (by norm_num) (by norm_num)
  have second : (35 : ℝ) ∈ interval (weightTable [10, 30]) 1 := by
    rw [interval, sumBefore_weightTable _ _ (by decide), sumBefore_weightTable _ _ (by decide)]
    norm_num
  obtain rfl := (one (by norm_num)).2 1 second
  obtain rfl := Option.some.inj there
  have quick := shared.measure 0 10 rfl
  norm_num at quick
  exact ⟨nonempty, quick, chosen⟩

end CallRouting
