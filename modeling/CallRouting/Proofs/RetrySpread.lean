import CallRouting.Proofs.Fairness
import CallRouting.Proofs.RetryTurns
import Mathlib.Data.Bool.Count

/-!
# How further attempts spread

While the candidates stay the same, the first attempts are made on different ones. Two candidates
then take turns. But among three or more of them the turns and the list that is left shift
together: after each attempt the turn moves on by one place, and so does the gap that the last
one leaves. So the attempts go round among all candidates but the second one, which is not
tried again.
-/

namespace CallRouting

/-- Of candidates with different identities all but one are left: to leave out one identity is to
erase the one place where it stands. -/
theorem without_eq_eraseIdx (list : List Instance) (distinct : (list.map Instance.identity).Nodup)
    (place : Nat) (x : Instance) (there : list[place]? = some x) :
    without list [x.identity] = list.eraseIdx place := by
  induction list generalizing place with
  | nil => cases there
  | cons y rest inductionHypothesis =>
    obtain ⟨new, distinct⟩ := List.nodup_cons.mp distinct
    cases place with
    | zero =>
      obtain rfl : y = x := Option.some.inj there
      have others : without rest [y.identity] = rest := by
        refine List.filter_eq_self.mpr fun z member => ?_
        have other : z.identity ≠ y.identity := fun same =>
          new (same ▸ List.mem_map_of_mem member)
        simpa using other
      simpa [without] using others
    | succ place =>
      have later : rest[place]? = some x := there
      have other : y.identity ≠ x.identity := fun same =>
        new (same ▸ List.mem_map_of_mem (List.mem_of_getElem? later))
      have inner := inductionHypothesis distinct place later
      rw [List.eraseIdx_cons_succ, ← inner]
      simp [without, other]

/-- When all have failed, all but the last one are left.

Nobody is untried, so only the last failed one is left out; from two candidates on that leaves
somebody. -/
theorem avoiding_of_tried (list : List Instance) (distinct : (list.map Instance.identity).Nodup)
    (two : 2 ≤ list.length) (failed : List Identity)
    (tried : ∀ x ∈ list, x.identity ∈ failed) (place : Nat) (x : Instance)
    (there : list[place]? = some x) (latest : failed.getLast? = some x.identity) :
    avoiding list failed = list.eraseIdx place := by
  have none : without list failed = [] := by
    refine List.filter_eq_nil_iff.mpr fun y member => ?_
    simpa using tried y member
  have others : without list failed.getLast?.toList = list.eraseIdx place := by
    rw [latest]
    exact without_eq_eraseIdx list distinct place x there
  have inside := (List.getElem?_eq_some_iff.mp there).1
  have some : list.eraseIdx place ≠ [] := by
    intro empty
    have length := List.length_eraseIdx_of_lt inside
    rw [empty] at length
    simp only [List.length_nil] at length
    omega
  simp [avoiding, none, others, some]

/-- A place of a list from which another place is taken out, in the whole list. -/
def skipping (gap place : Nat) : Nat := if place < gap then place else place + 1

/-- Where an entry of a list without one place stands in the whole list. -/
theorem getElem?_eraseIdx_eq_skipping {α : Type} (list : List α) (gap place : Nat) :
    (list.eraseIdx gap)[place]? = list[skipping gap place]? := by
  rw [List.getElem?_eraseIdx, skipping]
  split <;> rfl

/-- The gap goes with the turn. So the place of the next turn is the one that it would be if the
second place were taken out for good. -/
theorem skipping_skipping (size gap turn : Nat) (three : 3 ≤ size) :
    skipping (skipping gap (turn % (size - 1))) ((turn + 1) % (size - 1)) =
      skipping 1 ((turn + 1) % (size - 1)) := by
  have inside := Nat.mod_lt turn (by omega : 0 < size - 1)
  have one : 1 % (size - 1) = 1 := Nat.mod_eq_of_lt (by omega)
  rw [Nat.add_mod, one]
  by_cases round : turn % (size - 1) + 1 = size - 1
  · rw [round, Nat.mod_self]
    unfold skipping
    split_ifs <;> omega
  · rw [Nat.mod_eq_of_lt (by omega : turn % (size - 1) + 1 < size - 1)]
    unfold skipping
    split_ifs <;> omega

/-- The next turn is the next number unless the turns start again. -/
theorem toNat_of_next {turn next : UInt64} (follows : next = turn + 1) (onwards : next ≠ 0) :
    next.toNat = turn.toNat + 1 := by
  have bound := turn.toNat_lt
  have positive : next.toNat ≠ 0 := fun zero => onwards (UInt64.toNat_inj.mp zero)
  rw [follows, UInt64.toNat_add] at positive ⊢
  have one : (1 : UInt64).toNat = 1 := rfl
  rw [one] at positive ⊢
  by_cases round : turn.toNat + 1 = 2 ^ 64
  · simp [round] at positive
  · exact Nat.mod_eq_of_lt (by omega)

namespace InTurn

variable {tries : List Try}

/-- Each attempt but the first is made on the one whose turn it is after those before. It was so
when the attempt was the last one, and further ones leave those before it as they are. -/
theorem turned (inTurn : InTurn tries) (number : Nat) (made : Try)
    (there : tries[number]? = some made) (further : 0 < number) :
    made.Turned ((tries.take number).map Try.identity) := by
  induction inTurn with
  | nil => cases there
  | first _ => simp [Nat.ne_of_gt further] at there
  | further earlier last inTurn some turned inductionHypothesis =>
    by_cases inside : number < earlier.length
    · rw [List.getElem?_append_left inside] at there
      rw [List.take_append_of_le_length (Nat.le_of_lt inside)]
      exact inductionHypothesis there
    · have within := (List.getElem?_eq_some_iff.mp there).1
      rw [List.length_append, List.length_singleton] at within
      obtain rfl : number = earlier.length := by omega
      rw [List.getElem?_concat_length, Option.some.injEq] at there
      rw [List.take_left, ← there]
      exact turned

/-- Attempts over one list are made on its members if the first one is. -/
theorem target_mem (inTurn : InTurn tries) (list : List Instance)
    (fixed : ∀ made ∈ tries, made.candidates = list)
    (offered : ∀ first, tries.head? = some first → first.target ∈ list) :
    ∀ made ∈ tries, made.target ∈ list := by
  intro made member
  obtain ⟨number, inside, there⟩ := List.getElem_of_mem member
  have there := List.getElem?_eq_some_iff.mpr ⟨inside, there⟩
  by_cases further : 0 < number
  · have left := List.mem_of_getElem? (inTurn.turned number made there further)
    rw [← fixed made member]
    exact mem_of_mem_avoiding _ _ _ left
  · obtain rfl : number = 0 := by omega
    exact offered made (by rw [List.head?_eq_getElem?, there])

/-- Attempts after the first one that follow one another take one turn after the other. -/
theorem next_turn (consecutive : tries.tail.IsChain fun made next => next.turn = made.turn + 1)
    (number : Nat) (made next : Try) (there : tries[number + 1]? = some made)
    (after : tries[number + 2]? = some next) : next.turn = made.turn + 1 := by
  obtain ⟨inside, rfl⟩ := List.getElem?_eq_some_iff.mp there
  obtain ⟨within, rfl⟩ := List.getElem?_eq_some_iff.mp after
  have step := List.isChain_iff_getElem.mp consecutive number (by simp; omega)
  simpa using step

/-- Once all have failed, an attempt is made on the one whose turn it is when the one before it is
taken out.

The place in the shorter list is a place in the whole one that skips the gap. -/
theorem target_of_tried (inTurn : InTurn tries) (list : List Instance)
    (distinct : (list.map Instance.identity).Nodup) (two : 2 ≤ list.length)
    (fixed : ∀ made ∈ tries, made.candidates = list) (number : Nat) (previous made : Try)
    (before : tries[number]? = some previous) (there : tries[number + 1]? = some made)
    (tried : ∀ x ∈ list, x.identity ∈ (tries.take (number + 1)).map Try.identity) (gap : Nat)
    (last : list[gap]? = some previous.target) :
    list[skipping gap (made.turn.toNat % (list.length - 1))]? = some made.target := by
  have turned := inTurn.turned (number + 1) made there (Nat.succ_pos number)
  have latest : ((tries.take (number + 1)).map Try.identity).getLast? =
      some previous.target.identity := by
    rw [List.getLast?_map, List.take_add_one, before, Option.toList_some, List.getLast?_concat]
    rfl
  have left := avoiding_of_tried list distinct two _ tried gap previous.target last latest
  have length : (list.eraseIdx gap).length = list.length - 1 :=
    List.length_eraseIdx_of_lt (List.getElem?_eq_some_iff.mp last).1
  simp only [Try.Turned, fixed made (List.mem_of_getElem? there), left, length] at turned
  rw [← getElem?_eraseIdx_eq_skipping]
  exact turned

/-- From the second attempt on after all have failed, the attempts go round among all but the
second of the list, as long as their turns follow one another and do not start again.

Each attempt leaves out the target of the one before. So the place of an attempt is its turn,
skipping the place of the previous one, which itself skipped the place before it; from three
candidates on the first place that is skipped cancels, and what is left is a rotation that skips
the second place of the list. -/
theorem target_in_cycle (inTurn : InTurn tries)
    (consecutive : tries.tail.IsChain fun made next => next.turn = made.turn + 1)
    (list : List Instance) (distinct : (list.map Instance.identity).Nodup)
    (three : 3 ≤ list.length) (fixed : ∀ made ∈ tries, made.candidates = list)
    (offered : ∀ first, tries.head? = some first → first.target ∈ list) (number : Nat)
    (tried : ∀ x ∈ list, x.identity ∈ (tries.take (number + 1)).map Try.identity) (made : Try)
    (there : tries[number + 2]? = some made) (onwards : made.turn ≠ 0) :
    (list.eraseIdx 1)[made.turn.toNat % (list.length - 1)]? = some made.target := by
  have within := (List.getElem?_eq_some_iff.mp there).1
  obtain ⟨last, before⟩ : ∃ last, tries[number]? = some last :=
    ⟨_, List.getElem?_eq_getElem (by omega)⟩
  obtain ⟨previous, between⟩ : ∃ previous, tries[number + 1]? = some previous :=
    ⟨_, List.getElem?_eq_getElem (by omega)⟩
  have counted := toNat_of_next (next_turn consecutive number previous made between there) onwards
  obtain ⟨gap, inside, here⟩ := List.getElem_of_mem
    (inTurn.target_mem list fixed offered last (List.mem_of_getElem? before))
  have two : 2 ≤ list.length := by omega
  have once := inTurn.target_of_tried list distinct two fixed number last previous before between
    tried gap (List.getElem?_eq_some_iff.mpr ⟨inside, here⟩)
  have twice := inTurn.target_of_tried list distinct two fixed (number + 1) previous made between
    there (fun x member => by
      rw [List.take_add_one, List.map_append]
      exact List.mem_append_left _ (tried x member)) _ once
  rw [counted, skipping_skipping _ _ _ three] at twice
  rw [getElem?_eraseIdx_eq_skipping, counted]
  exact twice

end InTurn

/-- Once there have been as many different attempts as candidates, all have been tried: the
attempts are different candidates, and there are no more of these. -/
theorem tried_of_different (tries : List Try) (list : List Instance)
    (members : ∀ made ∈ tries, made.target ∈ list)
    (different : ((tries.map Try.identity).take list.length).Nodup) (number : Nat)
    (late : list.length ≤ number) (made : number ≤ tries.length) :
    ∀ x ∈ list, x.identity ∈ (tries.take number).map Try.identity := by
  intro x member
  have among : (tries.map Try.identity).take list.length ⊆ list.map Instance.identity := by
    intro identity tried
    obtain ⟨one, inside, rfl⟩ := List.mem_map.mp (List.mem_of_mem_take tried)
    exact List.mem_map_of_mem (members one inside)
  have all : ((tries.map Try.identity).take list.length).Perm (list.map Instance.identity) := by
    refine (List.subperm_of_subset different among).perm_of_length_le ?_
    rw [List.length_take, List.length_map, List.length_map]
    omega
  have tried : x.identity ∈ (tries.map Try.identity).take list.length :=
    all.mem_iff.mpr (List.mem_map_of_mem member)
  rw [List.map_take]
  exact (List.take_subset_take_left _ late) tried

/-- Attempts that go round among some candidates come to each of them as often as its place comes
up.

The identities in the window are those at the places of consecutive turns, and each identity
stands at one place. -/
theorem count_round (window : List Try) (start : Nat) (list : List Instance)
    (distinct : (list.map Instance.identity).Nodup)
    (round : ∀ number made, window[number]? = some made →
      list[(start + number) % list.length]? = some made.target)
    (place : Nat) (x : Instance) (there : list[place]? = some x) :
    (window.map Try.identity).count x.identity =
      (List.range window.length).countP fun number => (start + number) % list.length = place := by
  have same : (window.map Try.identity).map some = (List.range window.length).map fun number =>
      (list.map Instance.identity)[(start + number) % list.length]? := by
    apply List.ext_getElem?
    intro number
    rw [List.getElem?_map, List.getElem?_map, List.getElem?_map]
    cases made : window[number]? with
    | none =>
      rw [List.getElem?_eq_none (by simpa using made)]
      rfl
    | some one =>
      obtain ⟨within, -⟩ := List.getElem?_eq_some_iff.mp made
      rw [List.getElem?_range within, Option.map_some, Option.map_some, Option.map_some,
        List.getElem?_map, round number one made]
      rfl
  have placed (other : Nat) :
      (list.map Instance.identity)[other]? = some x.identity ↔ other = place := by
    have own : (list.map Instance.identity)[place]? = some x.identity := by
      rw [List.getElem?_map, there]
      rfl
    rw [← own, eq_comm]
    constructor
    · intro equal
      exact ((List.getElem?_inj (List.getElem?_eq_some_iff.mp own).1 distinct).mp equal).symm
    · rintro rfl
      rfl
  calc (window.map Try.identity).count x.identity
      = ((window.map Try.identity).map some).count (some x.identity) := by
        rw [List.count_map_of_injective _ _ (Option.some_injective _)]
    _ = (List.range window.length).countP fun number => (start + number) % list.length = place := by
        rw [same, List.count, List.countP_map]
        refine List.countP_congr fun number _ => ?_
        rw [Function.comp_apply, beq_iff_eq, decide_eq_true_iff, placed]

/-- In attempts that go round among candidates each of these gets its share, or one more.

The places are remainders of consecutive numbers, of which each comes up as often as the length
divides by the size, rounded down or up. -/
theorem share_of_round (window : List Try) (start : Nat) (list : List Instance)
    (distinct : (list.map Instance.identity).Nodup)
    (round : ∀ number made, window[number]? = some made →
      list[(start + number) % list.length]? = some made.target) (x : Instance) (among : x ∈ list) :
    (window.map Try.identity).count x.identity = window.length / list.length ∨
      (window.map Try.identity).count x.identity = window.length / list.length + 1 := by
  obtain ⟨place, inside, here⟩ := List.getElem_of_mem among
  rw [count_round window start list distinct round place x
    (List.getElem?_eq_some_iff.mpr ⟨inside, here⟩)]
  have size : 0 < list.length := Nat.zero_lt_of_lt inside
  have least : window.length / list.length ≤ (window.length + list.length - 1) / list.length :=
    Nat.div_le_div_right (by omega)
  have most :
      (window.length + list.length - 1) / list.length ≤ window.length / list.length + 1 := by
    rw [← Nat.add_div_right _ size]
    exact Nat.div_le_div_right (by omega)
  rcases count_remainder start window.length list.length place inside with floor | ceiling
  · exact .inl floor
  · omega

/-- Among two, attempts no two of which in a row are made on the same one alternate, so neither
gets more than one above the other.

The attempts are read as truth values, for which the library counts alternating lists. -/
theorem count_le_of_alternating (identities : List Identity) (one other : Identity)
    (both : ∀ identity ∈ identities, identity = one ∨ identity = other)
    (alternating : identities.IsChain (· ≠ ·)) :
    identities.count one ≤ identities.count other + 1 := by
  by_cases same : one = other
  · rw [same]
    exact Nat.le_succ _
  let isOne (identity : Identity) : Bool := identity = one
  have ones : (identities.map isOne).count true = identities.count one := by
    rw [List.count, List.countP_map, List.count]
    refine List.countP_congr fun identity _ => ?_
    simp [isOne]
  have others : (identities.map isOne).count false = identities.count other := by
    rw [List.count, List.countP_map, List.count]
    refine List.countP_congr fun identity member => ?_
    rcases both identity member with rfl | rfl
    · simp [isOne, same]
    · simp [isOne, Ne.symm same]
  have chain : (identities.map isOne).IsChain (· ≠ ·) := by
    refine (List.isChain_map isOne).mpr (alternating.imp_of_mem_imp ?_)
    intro identity next member after differs equal
    rcases both identity member with rfl | rfl <;> rcases both next after with rfl | rfl
    · exact differs rfl
    · simp [isOne, differs.symm] at equal
    · simp [isOne, differs] at equal
    · exact differs rfl
  rw [← ones, ← others]
  exact chain.count_true_le_count_false_add_one

namespace InTurn

variable {tries : List Try}

/-- After all candidates have been tried, and one attempt more, the attempts go round.

The turns of the attempts are consecutive numbers, so the number of the attempt behind the
first ones is where the round starts. No turn is zero, so the counter has not wrapped around in
between. -/
theorem exists_round (inTurn : InTurn tries)
    (consecutive : tries.tail.IsChain fun made next => next.turn = made.turn + 1)
    (list : List Instance) (distinct : (list.map Instance.identity).Nodup)
    (three : 3 ≤ list.length) (fixed : ∀ made ∈ tries, made.candidates = list)
    (offered : ∀ first, tries.head? = some first → first.target ∈ list)
    (different : ((tries.map Try.identity).take list.length).Nodup)
    (onwards : ∀ made ∈ tries.drop 2, made.turn ≠ 0) :
    ∃ start, ∀ number made, (tries.drop (list.length + 1))[number]? = some made →
      (list.eraseIdx 1)[(start + number) % (list.length - 1)]? = some made.target := by
  have members := inTurn.target_mem list fixed offered
  cases begins : tries[list.length + 1]? with
  | none =>
    have nothing : tries.drop (list.length + 1) = [] :=
      List.drop_eq_nil_of_le (List.getElem?_eq_none_iff.mp begins)
    exact ⟨0, by simp [nothing]⟩
  | some first =>
    have positive (place : Nat) (made : Try) (there : tries[place + 2]? = some made) :
        made.turn ≠ 0 := by
      refine onwards made (List.mem_of_getElem? (i := place) ?_)
      rw [List.getElem?_drop, Nat.add_comm 2 place, there]
    have counted (number : Nat) (made : Try)
        (there : tries[list.length + number + 1]? = some made) :
        made.turn.toNat = first.turn.toNat + number := by
      induction number generalizing made with
      | zero =>
        rw [Nat.add_zero, begins] at there
        rw [Option.some.inj there, Nat.add_zero]
      | succ number inductionHypothesis =>
        have within := (List.getElem?_eq_some_iff.mp there).1
        obtain ⟨previous, before⟩ : ∃ previous, tries[list.length + number + 1]? = some previous :=
          ⟨_, List.getElem?_eq_getElem (by omega)⟩
        have next := next_turn consecutive _ previous made before there
        rw [toNat_of_next next (positive _ made there), inductionHypothesis previous before]
        rfl
    refine ⟨first.turn.toNat, fun number made there => ?_⟩
    rw [List.getElem?_drop, Nat.add_right_comm] at there
    rw [← counted number made there]
    have within := (List.getElem?_eq_some_iff.mp there).1
    obtain ⟨place, same⟩ : ∃ place, list.length + number = place + 1 :=
      ⟨list.length + number - 1, by omega⟩
    have tried := tried_of_different tries list members different (place + 1) (by omega) (by omega)
    rw [same] at there
    exact inTurn.target_in_cycle consecutive list distinct three fixed offered place tried made
      there (positive place made there)

end InTurn

/-- What is taken out does not come up in the rounds. -/
theorem gap_notMem_round (window : List Try) (list : List Instance)
    (distinct : (list.map Instance.identity).Nodup) (gap : Nat) (x : Instance)
    (there : list[gap]? = some x) (round : ∀ made ∈ window, made.target ∈ list.eraseIdx gap) :
    x.identity ∉ window.map Try.identity := by
  intro tried
  obtain ⟨made, inside, same⟩ := List.mem_map.mp tried
  obtain ⟨other, apart, here⟩ := List.mem_eraseIdx_iff_getElem?.mp (round made inside)
  have within := (List.getElem?_eq_some_iff.mp there).1
  have equal : (list.map Instance.identity)[gap]? = (list.map Instance.identity)[other]? := by
    rw [List.getElem?_map, List.getElem?_map, there, here]
    exact congrArg some same.symm
  exact apart ((List.getElem?_inj (by simpa using within) distinct).mp equal).symm

/-- All the others have the same share of the rounds, up to one attempt: they go round among the
list without the gap. -/
theorem share_beside_gap (window : List Try) (list : List Instance)
    (distinct : (list.map Instance.identity).Nodup) (gap start : Nat) (inside : gap < list.length)
    (round : ∀ number made, window[number]? = some made →
      (list.eraseIdx gap)[(start + number) % (list.length - 1)]? = some made.target)
    (x : Instance) (among : x ∈ list) (other : list[gap]? ≠ some x) :
    let made := (window.map Try.identity).count x.identity
    let rounds := window.length / (list.length - 1)
    made = rounds ∨ made = rounds + 1 := by
  have length : (list.eraseIdx gap).length = list.length - 1 := List.length_eraseIdx_of_lt inside
  have others : ((list.eraseIdx gap).map Instance.identity).Nodup :=
    distinct.sublist ((List.eraseIdx_sublist list gap).map _)
  obtain ⟨place, here⟩ := List.mem_iff_getElem?.mp among
  have apart : place ≠ gap := by
    rintro rfl
    exact other here
  rw [← length] at round ⊢
  exact share_of_round window start (list.eraseIdx gap) others round x
    (List.mem_eraseIdx_iff_getElem?.mpr ⟨place, apart, here⟩)

/-- How often an identity was tried at first, then once more, and then in the rounds. -/
theorem count_parts (identities : List Identity) (size : Nat) (identity : Identity) :
    identities.count identity =
      (identities.take size).count identity +
        (((identities.drop size).take 1).count identity +
          (identities.drop (size + 1)).count identity) := by
  rw [← List.drop_drop, ← List.count_append, List.take_append_drop, ← List.count_append,
    List.take_append_drop]

/-- The second candidate is tried at most twice, and the numbers of attempts on two others differ
by two at most.

The attempts are cut in three: the first ones, as many as there are candidates, one more, and
the rounds behind. In the first part nobody comes twice, the second one is a single attempt,
and in the rounds the shares differ by one at most and the second place has none. -/
theorem count_le_of_round (tries : List Try) (list : List Instance)
    (distinct : (list.map Instance.identity).Nodup)
    (members : ∀ made ∈ tries, made.target ∈ list)
    (different : ((tries.map Try.identity).take list.length).Nodup) (start : Nat)
    (round : ∀ number made, (tries.drop (list.length + 1))[number]? = some made →
      (list.eraseIdx 1)[(start + number) % (list.length - 1)]? = some made.target)
    (second : Instance) (there : list[1]? = some second) :
    (tries.map Try.identity).count second.identity ≤ 2 ∧
      ∀ x ∈ list, ∀ y ∈ list, x ≠ second → y ≠ second →
        (tries.map Try.identity).count x.identity ≤
          (tries.map Try.identity).count y.identity + 2 := by
  have atFirst (identity : Identity) :
      ((tries.map Try.identity).take list.length).count identity ≤ 1 :=
    List.nodup_iff_count_le_one.mp different identity
  have onceMore (identity : Identity) :
      (((tries.map Try.identity).drop list.length).take 1).count identity ≤ 1 :=
    List.count_le_length.trans (by simp)
  have rounds : (tries.map Try.identity).drop (list.length + 1) =
      (tries.drop (list.length + 1)).map Try.identity := List.map_drop.symm
  have shares (x : Instance) (among : x ∈ list) (other : x ≠ second) :
      let made := ((tries.map Try.identity).drop (list.length + 1)).count x.identity
      let rounds := (tries.drop (list.length + 1)).length / (list.length - 1)
      made = rounds ∨ made = rounds + 1 := by
    rw [rounds]
    refine share_beside_gap _ list distinct 1 start (List.getElem?_eq_some_iff.mp there).1 round x
      among fun same => ?_
    exact other (Option.some.inj (same.symm.trans there))
  constructor
  · have never : second.identity ∉ (tries.map Try.identity).drop (list.length + 1) := by
      rw [rounds]
      exact gap_notMem_round _ list distinct 1 second there fun made inside => by
        obtain ⟨number, place⟩ := List.mem_iff_getElem?.mp inside
        exact List.mem_of_getElem? (round number made place)
    rw [count_parts _ list.length, List.count_eq_zero_of_not_mem never]
    have first := atFirst second.identity
    have more := onceMore second.identity
    omega
  · intro x among y among' other other'
    have first := atFirst x.identity
    have more := onceMore x.identity
    rw [count_parts _ list.length x.identity, count_parts _ list.length y.identity]
    by_cases all : list.length ≤ tries.length
    · have tried : y.identity ∈ (tries.map Try.identity).take list.length := by
        have made := tried_of_different tries list members different _ (Nat.le_refl _) all y among'
        rwa [List.map_take] at made
      have own := List.count_pos_iff.mpr tried
      have share := shares x among other
      have share' := shares y among' other'
      omega
    · have nothing : (tries.map Try.identity).drop list.length = [] :=
        List.drop_eq_nil_of_le (by simp; omega)
      have never : (tries.map Try.identity).drop (list.length + 1) = [] :=
        List.drop_eq_nil_of_le (by simp; omega)
      rw [nothing, never]
      simp only [List.take_nil, List.count_nil]
      omega

namespace Invocation

variable {ω : Type} [Weight ω]

/-- What is noted of an invocation obeys the law of failover. -/
theorem failsOver_chronicle (service : String) (policy : RetryPolicy)
    (encounters : List (Encounter ω)) (attended : (start service policy).Attended encounters) :
    FailsOver policy ((start service policy).chronicle encounters) := by
  -- Before the first encounter nothing is noted and nothing has failed.
  have first : Evading [] (start service policy) := by
    refine ⟨?_, fun _ => ⟨rfl, rfl, rfl⟩, ?_⟩
    · intro earlier candidates number attempt later split
      simp at split
    · rintro selection ⟨⟩
      exact ⟨rfl, fun some => (some rfl).elim⟩
  obtain ⟨evading, same⟩ := chronicle_induction
    (fun noted invocation => Evading noted invocation ∧ invocation.policy = policy) (fun _ => True)
    (fun noted invocation met holds _ awaits => by
      refine ⟨meet_evading noted invocation met holds.1 awaits, ?_⟩
      obtain ⟨await, waits, fits, _⟩ := awaits
      exact (invocation.resume_step _ _ _ await waits fits).policy_eq.trans holds.2)
    [] _ encounters (fun _ _ => trivial) ⟨first, rfl⟩ attended
  have law := evading.law
  rw [same] at law
  exact law

/-- The attempts of a run are the ones that are noted. -/
theorem tries_identity (invocation : Invocation) (encounters : List (Encounter ω)) :
    (invocation.tries encounters).map Try.identity =
      engagements (invocation.chronicle encounters) := by
  induction encounters generalizing invocation with
  | nil => rfl
  | cons met rest inductionHypothesis =>
    rw [tries, chronicle, List.map_append, engagements_append, inductionHypothesis]
    refine congrArg (· ++ _) ?_
    rw [triesAt, List.map_filterMap, engagements]
    refine List.filterMap_congr fun note _ => ?_
    cases note <;> rfl

/-- The candidates of what is noted are the ones of the attempts. -/
theorem exists_try_of_engaged (invocation : Invocation) (encounters : List (Encounter ω))
    (candidates : List Instance) (number : Nat) (attempt : Attempt)
    (member : .engaged candidates number attempt ∈ invocation.chronicle encounters) :
    ∃ made ∈ invocation.tries encounters, made.candidates = candidates := by
  induction encounters generalizing invocation with
  | nil => cases member
  | cons met rest inductionHypothesis =>
    rw [tries]
    rcases List.mem_append.mp member with now | later
    · exact ⟨_, List.mem_append_left _ (List.mem_filterMap.mpr ⟨_, now, rfl⟩), rfl⟩
    · obtain ⟨made, inside, same⟩ := inductionHypothesis _ later
      exact ⟨made, List.mem_append_right _ inside, same⟩

/-- Attempts over the same candidates: at first they are made on different ones, and never twice
in a row on the same one.

Both are consequences of the law of failover, for attempts within a fixed set of identities. -/
theorem tries_spread (service : String) (policy : RetryPolicy) (encounters : List (Encounter ω))
    (attended : (start service policy).Attended encounters) (list : List Instance)
    (distinct : (list.map Instance.identity).Nodup) (two : 2 ≤ list.length)
    (fixed : ∀ made ∈ (start service policy).tries encounters, made.candidates = list) :
    let identities := ((start service policy).tries encounters).map Try.identity
    (identities.take list.length).Nodup ∧ identities.IsChain (· ≠ ·) := by
  intro identities
  have card : (list.map Instance.identity).toFinset.card = list.length := by
    rw [List.toFinset_card_of_nodup distinct, List.length_map]
  have held : FailsOver.Held (list.map Instance.identity).toFinset
      ((start service policy).chronicle encounters) := by
    intro candidates number attempt member identity among
    obtain ⟨made, inside, rfl⟩ := exists_try_of_engaged _ encounters _ _ _ member
    rw [fixed made inside]
    exact List.mem_map.mp (List.mem_toFinset.mp among)
  obtain ⟨different, alternating⟩ :=
    (failsOver_chronicle service policy encounters attended).spread _ held
  rw [card] at different alternating
  simp only [identities, tries_identity]
  exact ⟨different, alternating two⟩

/-- While the candidates stay the same, the first attempts of an invocation are made on different
ones, as many as there are, and no two in a row are made on the same one. So attempts on two
candidates alternate, and their numbers differ by one at most, whatever else takes turns.

Among three or more candidates, once all have failed, the attempts of an invocation that has the
turns to itself go round among all but the second one. So that one is tried at most twice in all,
and while the count of the turns does not start again, the numbers of attempts on any two others
differ by two at most.

Every further attempt is made on the one whose turn it is among those that are left. Once all
have failed, only the last one is left out. The gap that it leaves moves on with the turn, so
each place is the one that it would be if the second place were taken out for good. -/
theorem tries_go_round (service : String) (policy : RetryPolicy) (encounters : List (Encounter ω))
    (attended : (start service policy).Attended encounters) (list : List Instance)
    (distinct : (list.map Instance.identity).Nodup) (two : 2 ≤ list.length)
    (fixed : ∀ made ∈ (start service policy).tries encounters, made.candidates = list)
    (offered : ∀ first, ((start service policy).tries encounters).head? = some first →
      first.target ∈ list) :
    let tries := (start service policy).tries encounters
    let count (x : Instance) := (tries.map Try.identity).count x.identity
    ((tries.map Try.identity).take list.length).Nodup ∧
      (tries.map Try.identity).IsChain (· ≠ ·) ∧
      (list.length = 2 → ∀ x ∈ list, ∀ y ∈ list, count x ≤ count y + 1) ∧
      ((start service policy).Alone encounters → 3 ≤ list.length →
        (∀ number made, list.length < number → tries[number]? = some made → made.turn ≠ 0 →
          (list.eraseIdx 1)[made.turn.toNat % (list.length - 1)]? = some made.target) ∧
        ((∀ made ∈ tries.drop 2, made.turn ≠ 0) → ∀ second, list[1]? = some second →
          count second ≤ 2 ∧ ∀ x ∈ list, ∀ y ∈ list, x ≠ second → y ≠ second →
            count x ≤ count y + 2)) := by
  intro tries count
  obtain ⟨inTurn, follow⟩ := tries_inTurn service policy encounters attended
  obtain ⟨different, alternating⟩ :=
    tries_spread service policy encounters attended list distinct two fixed
  have members := inTurn.target_mem list fixed offered
  refine ⟨different, alternating, ?_, fun alone three => ⟨?_, ?_⟩⟩
  · intro pair x among y among'
    by_cases same : x = y
    · rw [same]
      exact Nat.le_succ _
    refine count_le_of_alternating _ _ _ ?_ alternating
    intro identity tried
    obtain ⟨made, inside, rfl⟩ := List.mem_map.mp tried
    obtain ⟨one, other, rfl⟩ := List.length_eq_two.mp pair
    have member := members made inside
    simp only [List.mem_cons, List.not_mem_nil, or_false] at member among among'
    unfold Try.identity
    rcases among with rfl | rfl <;> rcases among' with rfl | rfl
    · exact absurd rfl same
    · exact member.imp (congrArg _) (congrArg _)
    · exact member.symm.imp (congrArg _) (congrArg _)
    · exact absurd rfl same
  · intro number made late there onwards
    obtain ⟨place, rfl⟩ : ∃ place, number = place + 2 := ⟨number - 2, by omega⟩
    have within := (List.getElem?_eq_some_iff.mp there).1
    have tried := tried_of_different tries list members different (place + 1) (by omega) (by omega)
    exact inTurn.target_in_cycle (follow alone) list distinct three fixed offered place tried made
      there onwards
  · intro onwards second there
    obtain ⟨start, round⟩ := inTurn.exists_round (follow alone) list distinct three fixed offered
      different onwards
    exact count_le_of_round tries list distinct members different start round second there

/-- A run of an invocation that has the router to itself. -/
def solo (invocation : Invocation) (router : Router ω) :
    List (Moment ω × Answer) → List (Encounter ω)
  | [] => []
  | (moment, answer) :: rest =>
    ⟨router, moment, answer⟩ :: (invocation.resume router moment answer).2.solo
      (invocation.resume router moment answer).1 rest

/-- A run in which each answer meets the router as the invocation has left it is one without
anybody else. -/
theorem alone_solo (invocation : Invocation) (router : Router ω)
    (answers : List (Moment ω × Answer)) : invocation.Alone (invocation.solo router answers) := by
  induction answers generalizing invocation router with
  | nil => trivial
  | cons answer rest inductionHypothesis =>
    refine ⟨?_, inductionHypothesis _ _⟩
    cases rest with
    | nil => nofun
    | cons next rest =>
      rintro _ ⟨⟩
      rfl

/-- Three instances of one service. -/
def triplets : List Instance :=
  [.ofAddress "orders" "10.0.0.1" 80, .ofAddress "orders" "10.0.0.2" 80,
    .ofAddress "orders" "10.0.0.3" 80]

/-- Six attempts at most, one right after the other. -/
def sixAttempts : RetryPolicy := ((RetryPolicy.named "restless").withMaxAttempts 6).withWait .zero

/-- A run in which six attempts fail. -/
def sixFailures : List (Encounter Float) :=
  (start "orders" sixAttempts).solo (.plain "orders" triplets 0)
    ((⟨0, 0, ⟨fun _ => 0, id⟩⟩, .turn) ::
      List.replicate 6 (⟨0, 0, ⟨fun _ => 0, id⟩⟩, .work (.error .timeout)))

/-- Each answer of the example is one for which the invocation waits. -/
theorem attended_sixFailures : (start "orders" sixAttempts).Attended sixFailures := by
  exact ⟨⟨.turn, rfl, rfl, by simp⟩, ⟨.work, rfl, rfl, by simp⟩, ⟨.work, rfl, rfl, by simp⟩,
      ⟨.work, rfl, rfl, by simp⟩, ⟨.work, rfl, rfl, by simp⟩, ⟨.work, rfl, rfl, by simp⟩,
      ⟨.work, rfl, rfl, by simp⟩, trivial⟩

/-- The first three are made on different ones, and then they go back and forth between the first
and the third one. -/
theorem tries_sixFailures : (start "orders" sixAttempts).tries sixFailures =
    let one : Instance := .ofAddress "orders" "10.0.0.1" 80
    let two : Instance := .ofAddress "orders" "10.0.0.2" 80
    let three : Instance := .ofAddress "orders" "10.0.0.3" 80
    [⟨0, triplets, one⟩, ⟨0, triplets, two⟩, ⟨1, triplets, three⟩, ⟨2, triplets, one⟩,
      ⟨3, triplets, three⟩, ⟨4, triplets, one⟩] := rfl

/-- The law at work here: the first three attempts differ, the sixth one is where the cycle without
the second instance puts it, and the second instance gets two attempts at most. -/
theorem tries_go_round_sixFailures :
    (start "orders" sixAttempts).Attended sixFailures ∧
      (start "orders" sixAttempts).Alone sixFailures ∧
      let tries := (start "orders" sixAttempts).tries sixFailures
      (∀ made ∈ tries, made.candidates = triplets) ∧
        ((tries.map Try.identity).take 3).Nodup ∧
        (∀ made, tries[5]? = some made → (triplets.eraseIdx 1)[0]? = some made.target) ∧
        (tries.map Try.identity).count (.located "10.0.0.2" 80) ≤ 2 := by
  have alone : (start "orders" sixAttempts).Alone sixFailures := alone_solo _ _ _
  have fixed : ∀ made ∈ (start "orders" sixAttempts).tries sixFailures,
      made.candidates = triplets := by
    rw [tries_sixFailures]
    simp
  have offered : ∀ first, ((start "orders" sixAttempts).tries sixFailures).head? = some first →
      first.target ∈ triplets := by
    rw [tries_sixFailures]
    rintro first ⟨⟩
    exact List.mem_cons_self
  obtain ⟨different, -, -, among⟩ := tries_go_round "orders" sixAttempts sixFailures
    attended_sixFailures triplets (by decide) (by decide) fixed offered
  obtain ⟨round, bounded⟩ := among alone (by decide)
  -- The turns have not started again in so few attempts.
  have onwards : ∀ made ∈ ((start "orders" sixAttempts).tries sixFailures).drop 2,
      made.turn ≠ 0 := by
    rw [tries_sixFailures]
    decide
  refine ⟨attended_sixFailures, alone, fixed, different, ?_, (bounded onwards _ rfl).1⟩
  intro made there
  have turned := round 5 made (by decide) there
  rw [tries_sixFailures] at there
  cases there
  exact turned (by decide)

/-- With three candidates the numbers of attempts need not be even: the second one gets a third
of what the first one gets, and no more of them. -/
theorem tries_not_even :
    ¬ ∀ (policy : RetryPolicy) (encounters : List (Encounter Float)) (list : List Instance),
      (start "orders" policy).Attended encounters → (start "orders" policy).Alone encounters →
      (list.map Instance.identity).Nodup → 2 ≤ list.length →
      (∀ made ∈ (start "orders" policy).tries encounters,
        made.candidates = list ∧ made.target ∈ list) →
      (failures policy ((start "orders" policy).chronicle encounters)).length =
        ((start "orders" policy).tries encounters).length →
      ∀ x ∈ list, ∀ y ∈ list,
        (((start "orders" policy).tries encounters).map Try.identity).count x.identity ≤
          (((start "orders" policy).tries encounters).map Try.identity).count y.identity + 1 := by
  intro even
  have claimed := even sixAttempts sixFailures triplets attended_sixFailures (alone_solo _ _ _)
    (by decide) (by decide) (by rw [tries_sixFailures]; simp [triplets]) rfl
    (.ofAddress "orders" "10.0.0.1" 80) List.mem_cons_self (.ofAddress "orders" "10.0.0.2" 80)
    (List.mem_cons_of_mem _ List.mem_cons_self)
  rw [tries_sixFailures] at claimed
  exact absurd claimed (by decide)

end Invocation

end CallRouting
