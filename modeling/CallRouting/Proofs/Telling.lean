import CallRouting.Proofs.Scenes
import Mathlib.Data.Finset.Card
import Mathlib.Data.Int.Cast.Lemmas
import Mathlib.Data.List.Infix

/-!
# What a tally makes of what it is told

Callers tell a tally when a call starts and how it ends, in any order, and may tell of ends
without a start. Three counters are plain sums over what was told. The count of running
calls stops at zero, so an end without a start is lost, and the count depends on the order:
it is the greatest surplus of starts over ends in any final part of what was told.

So ends that belong to no start never hide a running call for good. However ends are
assigned to earlier starts, the count is at most the number of starts that are still open,
and it is zero when all of them have their end.
-/

namespace CallRouting

namespace Count

/-- Whether the start of a call is told. -/
def isStart : Count → Bool
  | .start => true
  | .success _ | .failure _ => false

/-- Whether the end of a call is told. -/
def isEnd (count : Count) : Bool := !count.isStart

/-- Whether it is told that a call has failed. -/
def isFailure : Count → Bool
  | .failure _ => true
  | .start | .success _ => false

/-- How long the call took that ends. -/
def millis : Count → UInt64
  | .start => 0
  | .success ms | .failure ms => ms

/-- How many more calls a series starts than it ends. -/
def surplus (counts : List Count) : Int :=
  (counts.countP isStart : Int) - counts.countP isEnd

/-- The surplus of two parts is the sum of theirs. -/
theorem surplus_append (counts more : List Count) :
    surplus (counts ++ more) = surplus counts + surplus more := by
  simp only [surplus, List.countP_append, Nat.cast_add]
  omega

/-- No series starts more calls than it has entries. -/
theorem surplus_le (counts : List Count) : surplus counts ≤ counts.length := by
  have starts := List.countP_le_length (p := isStart) (l := counts)
  unfold surplus
  omega

/-- The surpluses of all final parts of a series, the empty one included. -/
def finalSurpluses (counts : List Count) : Set Int :=
  {difference | ∃ last, last <:+ counts ∧ difference = surplus last}

/-- The only final part of an empty series is empty, with no surplus. -/
theorem finalSurpluses_nil : IsGreatest (finalSurpluses []) 0 := by
  refine ⟨⟨[], List.suffix_rfl, rfl⟩, ?_⟩
  rintro _ ⟨last, final, rfl⟩
  rw [List.suffix_nil.mp final]
  exact Int.le_refl _

/-- Whatever is told next, it adds the same to every final part, but not to the empty one, whose
surplus stays zero.

So the greatest surplus goes on with that of the same part, or starts over from nothing. -/
theorem finalSurpluses_append (counts : List Count) (count : Count) (greatest : Int)
    (before : IsGreatest (finalSurpluses counts) greatest) :
    IsGreatest (finalSurpluses (counts ++ [count])) (max (greatest + surplus [count]) 0) := by
  obtain ⟨⟨longest, final, attained⟩, bound⟩ := before
  constructor
  · rcases le_total (greatest + surplus [count]) 0 with low | high
    · exact ⟨[], List.nil_suffix, max_eq_right low⟩
    · refine ⟨longest ++ [count], ?_, ?_⟩
      · exact List.suffix_concat_iff.mpr (.inr ⟨longest, rfl, final⟩)
      · rw [max_eq_left high, surplus_append, ← attained]
  · rintro _ ⟨last, inside, rfl⟩
    rcases List.suffix_concat_iff.mp inside with rfl | ⟨shorter, rfl, ends⟩
    · exact le_max_right _ _
    · have below : surplus shorter ≤ greatest := bound ⟨shorter, ends, rfl⟩
      rw [surplus_append]
      exact le_max_of_le_left (Int.add_le_add_right below _)

end Count

namespace Tally

/-- A fresh tally after it was told of a series of starts and ends. -/
def told (now : Instant) (counts : List Count) : Tally :=
  counts.foldl (fun tally count => count.apply tally) (.fresh now)

/-- What is told last is done to the tally that was told the rest. -/
theorem told_append (now : Instant) (counts : List Count) (count : Count) :
    told now (counts ++ [count]) = count.apply (told now counts) := by
  simp only [told, List.foldl_append, List.foldl_cons, List.foldl_nil]

/-- The counters that only grow are sums over what was told. -/
theorem counters_told (now : Instant) (counts : List Count) :
    (told now counts).total = UInt64.ofNat (counts.countP Count.isStart) ∧
      (told now counts).failed = UInt64.ofNat (counts.countP Count.isFailure) ∧
      (told now counts).latency =
        UInt64.ofNat (counts.map fun count => count.millis.toNat).sum := by
  induction counts using List.reverseRecOn with
  | nil => exact ⟨rfl, rfl, rfl⟩
  | append_singleton counts count inductionHypothesis =>
    obtain ⟨total, failed, latency⟩ := inductionHypothesis
    simp only [told_append, List.countP_append, List.map_append, List.sum_append,
      UInt64.ofNat_add, ← total, ← failed, ← latency]
    cases count <;>
      simp [Count.apply, started, succeeded, failedAfter, ended, Count.isStart, Count.isFailure,
        Count.millis]

/-- The count of running calls goes up by one at a start, as long as it has room, and down by
one at an end, but not below zero. -/
theorem active_apply (tally : Tally) (count : Count) (room : tally.active.toNat + 1 < 2 ^ 64) :
    ((count.apply tally).active.toNat : Int) =
      max (tally.active.toNat + Count.surplus [count]) 0 := by
  have ended (ms : UInt64) : ((tally.ended ms).active.toNat : Int) =
      max ((tally.active.toNat : Int) + -1) 0 := by
    rw [active_ended]
    omega
  cases count with
  | start =>
    have counted : tally.started.active.toNat = tally.active.toNat + 1 := by
      rw [started, UInt64.toNat_add, UInt64.toNat_one, Nat.mod_eq_of_lt room]
    have one : Count.surplus [.start] = 1 := rfl
    rw [Count.apply, counted, one]
    omega
  | success ms => exact ended ms
  | failure ms => exact ended ms

/-- The count of running calls is the greatest surplus in a final part of what was told, as
long as it fits its word. -/
theorem active_told (now : Instant) (counts : List Count) (few : counts.length < 2 ^ 64) :
    IsGreatest (Count.finalSurpluses counts) (told now counts).active.toNat := by
  induction counts using List.reverseRecOn with
  | nil => exact Count.finalSurpluses_nil
  | append_singleton counts count inductionHypothesis =>
    rw [List.length_append, List.length_singleton] at few
    have before := inductionHypothesis (by omega)
    have room : (told now counts).active.toNat + 1 < 2 ^ 64 := by
      obtain ⟨longest, final, attained⟩ := before.1
      have starts := Count.surplus_le longest
      have shorter := final.length_le
      omega
    rw [told_append, active_apply _ count room]
    exact Count.finalSurpluses_append counts count _ before

end Tally

namespace Count

/-- The places of a series at which something of a kind is told. -/
def places (kind : Count → Bool) (counts : List Count) : Finset Nat :=
  (Finset.range counts.length).filter fun place => (counts[place]?).any kind = true

/-- A place is one of a kind if what is told there is. -/
theorem mem_places (kind : Count → Bool) (counts : List Count) (place : Nat) :
    place ∈ places kind counts ↔ (counts[place]?).any kind = true := by
  simp only [places, Finset.mem_filter, Finset.mem_range, and_iff_right_iff_imp]
  intro told
  by_contra outside
  rw [List.getElem?_eq_none (Nat.le_of_not_lt outside)] at told
  cases told

/-- The places of a beginning are those before its end. -/
theorem mem_places_take (kind : Count → Bool) (counts : List Count) (moment place : Nat) :
    place ∈ places kind (counts.take moment) ↔ place < moment ∧ place ∈ places kind counts := by
  simp only [mem_places, List.getElem?_take]
  by_cases early : place < moment <;> simp [early]

/-- What is told last is told at the place after all others. -/
theorem places_append (kind : Count → Bool) (counts : List Count) (count : Count) :
    places kind (counts ++ [count]) =
      if kind count = true then insert counts.length (places kind counts)
      else places kind counts := by
  have earlier : ∀ place ∈ Finset.range counts.length,
      ((counts ++ [count])[place]?.any kind = true ↔ counts[place]?.any kind = true) := by
    intro place inside
    rw [List.getElem?_append_left (Finset.mem_range.mp inside)]
  rw [places, List.length_append, List.length_singleton, Finset.range_add_one,
    Finset.filter_insert, Finset.filter_congr earlier, List.getElem?_concat_length]
  rfl

/-- What is told in a final part of a series is told at the places from its beginning on.

By induction from the end: one more count is a new place, and it lies in the part unless that
begins beyond it. -/
theorem countP_drop (kind : Count → Bool) (counts : List Count) (start : Nat) :
    (counts.drop start).countP kind = ((places kind counts).filter (start ≤ ·)).card := by
  induction counts using List.reverseRecOn with
  | nil => simp [places]
  | append_singleton counts count inductionHypothesis =>
    have new : counts.length ∉ (places kind counts).filter (start ≤ ·) := by
      simp [mem_places]
    rw [places_append]
    rcases Nat.lt_or_ge counts.length start with beyond | within
    · have short : (counts ++ [count]).length ≤ start := by
        rw [List.length_append, List.length_singleton]
        omega
      rw [List.drop_eq_nil_of_le (Nat.le_of_lt beyond)] at inductionHypothesis
      rw [List.drop_eq_nil_of_le short, inductionHypothesis]
      split
      · rw [Finset.filter_insert, if_neg (Nat.not_le_of_lt beyond)]
      · rfl
    · rw [List.drop_append_of_le_length within, List.countP_append, inductionHypothesis,
        List.countP_singleton]
      split
      · rw [Finset.filter_insert, if_pos within, Finset.card_insert_of_notMem new]
      · rfl

/-- Starts of a series, each with an end of its own that is told later. -/
structure Matching (counts : List Count) where
  starts : Finset Nat
  endOf : Nat → Nat
  told : starts ⊆ places isStart counts
  later : ∀ start ∈ starts, start < endOf start ∧ endOf start ∈ places isEnd counts
  own : Set.InjOn endOf starts

namespace Matching

variable {counts : List Count}

/-- The starts that have been told by some moment and whose ends have not. -/
def openAt (matching : Matching counts) (moment : Nat) : Finset Nat :=
  (places isStart (counts.take moment)).filter fun start =>
    ¬(start ∈ matching.starts ∧ matching.endOf start < moment)

/-- What has ended by some moment. -/
def upTo (matching : Matching counts) (moment : Nat) : Matching (counts.take moment) where
  starts := matching.starts.filter (matching.endOf · < moment)
  endOf := matching.endOf
  told := by
    intro start member
    obtain ⟨matched, ended⟩ := Finset.mem_filter.mp member
    exact (mem_places_take _ _ _ _).mpr
      ⟨(matching.later start matched).1.trans ended, matching.told matched⟩
  later := by
    intro start member
    obtain ⟨matched, ended⟩ := Finset.mem_filter.mp member
    obtain ⟨after, told⟩ := matching.later start matched
    exact ⟨after, (mem_places_take _ _ _ _).mpr ⟨ended, told⟩⟩
  own := matching.own.mono fun _ member => (Finset.mem_filter.mp member).1

/-- The starts that are open at a moment are those told by then without the ones that have
ended. -/
theorem openAt_eq_sdiff (matching : Matching counts) (moment : Nat) :
    matching.openAt moment =
      places isStart (counts.take moment) \ (matching.upTo moment).starts := by
  rw [openAt, Finset.sdiff_eq_filter]
  simp only [upTo, Finset.mem_filter]

/-- No final part of a series has a surplus beyond the starts without an end of their own: a start
in it that has one has it in this part.

The starts in the part are those with an end of their own, of which there are no more than ends in
it, and the others. -/
theorem surplus_le_open (matching : Matching counts) (last : List Count) (final : last <:+ counts) :
    surplus last ≤ (places isStart counts \ matching.starts).card := by
  rw [List.suffix_iff_eq_drop.mp final, surplus, countP_drop, countP_drop]
  generalize counts.length - last.length = from'
  have matched : ((places isStart counts).filter (from' ≤ ·) ∩ matching.starts).card ≤
      ((places isEnd counts).filter (from' ≤ ·)).card := by
    apply Finset.card_le_card_of_injOn matching.endOf
    · intro start member
      obtain ⟨inside, matched⟩ := Finset.mem_inter.mp member
      obtain ⟨after, told⟩ := matching.later start matched
      exact Finset.mem_filter.mpr
        ⟨told, Nat.le_trans (Finset.mem_filter.mp inside).2 (Nat.le_of_lt after)⟩
    · exact matching.own.mono fun _ member => (Finset.mem_inter.mp member).2
  have others : ((places isStart counts).filter (from' ≤ ·) \ matching.starts).card ≤
      (places isStart counts \ matching.starts).card :=
    Finset.card_le_card (Finset.sdiff_subset_sdiff (Finset.filter_subset _ _) (le_refl _))
  have parts := Finset.card_inter_add_card_sdiff
    ((places isStart counts).filter (from' ≤ ·)) matching.starts
  omega

end Matching

end Count

namespace Tally

/-- What a tally makes of a series of starts and ends in any order. The counters that only
grow are sums; the count of running calls is the greatest surplus of starts in a final part
of the series. However ends are assigned to earlier starts, the count never exceeds the
starts that are open, and it comes back to zero once every start has an end of its own.

The count of running calls never falls below zero, so it follows the surplus as a walk that is
stopped at zero does; that gives the greatest surplus of a final part. The surplus of a final part
is at most the number of open starts, since every other start in it has its end in it too. -/
theorem told_exact (now : Instant) (counts : List Count) (few : counts.length < 2 ^ 64) :
    (told now counts).total.toNat = counts.countP Count.isStart ∧
      (told now counts).failed.toNat = counts.countP Count.isFailure ∧
      (told now counts).latency.toNat =
        (counts.map fun count => count.millis.toNat).sum % 2 ^ 64 ∧
      IsGreatest (Count.finalSurpluses counts) (told now counts).active.toNat ∧
      ∀ matching : Count.Matching counts,
        (∀ moment, (told now (counts.take moment)).active.toNat ≤
          (matching.openAt moment).card) ∧
        (Count.places Count.isStart counts ⊆ matching.starts →
          (told now counts).active = 0) := by
  obtain ⟨total, failed, latency⟩ := counters_told now counts
  have starts : counts.countP Count.isStart ≤ counts.length := List.countP_le_length
  have failures : counts.countP Count.isFailure ≤ counts.length := List.countP_le_length
  have bounded (matching : Count.Matching counts) (moment : Nat) :
      (told now (counts.take moment)).active.toNat ≤ (matching.openAt moment).card := by
    have short : (counts.take moment).length < 2 ^ 64 :=
      Nat.lt_of_le_of_lt (List.length_take_le' moment counts) few
    obtain ⟨last, final, attained⟩ := (active_told now (counts.take moment) short).1
    have fromEnds := (matching.upTo moment).surplus_le_open last final
    rw [← matching.openAt_eq_sdiff, ← attained] at fromEnds
    exact_mod_cast fromEnds
  refine ⟨?_, ?_, ?_, active_told now counts few, fun matching => ⟨bounded matching, ?_⟩⟩
  · rw [total, UInt64.toNat_ofNat_of_lt' (Nat.lt_of_le_of_lt starts few)]
  · rw [failed, UInt64.toNat_ofNat_of_lt' (Nat.lt_of_le_of_lt failures few)]
  · rw [latency, UInt64.toNat_ofNat']
  · intro all
    have closed : matching.openAt counts.length = ∅ := by
      refine Finset.filter_eq_empty_iff.mpr fun start told => not_not.mpr ?_
      rw [List.take_length] at told
      have ended := (matching.later start (all told)).2
      simp only [Count.places, Finset.mem_filter, Finset.mem_range] at ended
      exact ⟨all told, ended.1⟩
    have silent := bounded matching counts.length
    rw [closed, Finset.card_empty, List.take_length] at silent
    exact UInt64.toNat_inj.mp (Nat.le_zero.mp silent)

/-- Two calls that overlap, with one end before them and one after them that belong to no
start. -/
def overlapping : List Count :=
  [.success 5, .start, .start, .failure 3, .success 2, .failure 4]

/-- The first call to start is the first one to end. -/
def overlappingMatching : Count.Matching overlapping where
  starts := {1, 2}
  endOf start := start + 2
  told := by decide
  later := by decide
  own := fun _ _ _ _ same => Nat.add_right_cancel same

/-- The law at work here: the stray ends count as failures and latency, and no call is left
running. -/
theorem told_exact_overlapping :
    overlapping.length < 2 ^ 64 ∧ (told 0 overlapping).total.toNat = 2 ∧
      (told 0 overlapping).failed.toNat = 2 ∧ (told 0 overlapping).latency.toNat = 14 ∧
      (told 0 (overlapping.take 3)).active.toNat ≤ (overlappingMatching.openAt 3).card ∧
      (overlappingMatching.openAt 3).card = 2 ∧ (told 0 overlapping).active = 0 := by
  obtain ⟨total, failed, latency, -, matched⟩ := told_exact 0 overlapping (by decide)
  obtain ⟨bounded, back⟩ := matched overlappingMatching
  exact ⟨by decide, total, failed, latency, bounded 3, by decide, back (by decide)⟩

end Tally

end CallRouting
