import CallRouting.Routing.Selection

/-!
# What is chosen from a list

Every strategy that is not a caller's own chooses a member of each list that is
not empty. Drawing at random needs a draw that keeps to what it is asked for; the
other strategies choose a member whatever the counters, the tallies and the table
of weights hold.

The list that is left after earlier failures avoids them as far as it can: no
member of it has failed if some candidate has not, and otherwise none is the one
that failed last if some candidate is another one.
-/

namespace CallRouting

/-- The strategies that come with the library. -/
def Strategy.BuiltIn : Strategy → Prop
  | .custom .. => False
  | _ => True

variable {ω : Type}

/-- A draw that gives a place of the list for which it is asked. -/
def Draw.Lawful (draw : Draw ω) : Prop := ∀ length, 0 < length → draw.place length < length

/-- Taking turns gives a member of a list that is not empty, whatever the count. -/
theorem Rotation.select_mem (rotation : Rotation) (service : String) (candidates : List Instance)
    (nonempty : candidates ≠ []) :
    ∃ x ∈ candidates, (rotation.select service candidates).2 = .ok (some x) := by
  have positive : 0 < candidates.length := List.length_pos_iff.mpr nonempty
  have inside : (rotation.count service).toNat % candidates.length < candidates.length :=
    Nat.mod_lt _ positive
  refine ⟨candidates[(rotation.count service).toNat % candidates.length],
    List.getElem_mem inside, ?_⟩
  simp [Rotation.select, Rotation.next, Nat.ne_of_gt positive, inside]

/-- The walk for the fewest running calls ends at a member of the list, or at the
best one that it began with. -/
theorem Ledger.leastActive_mem (ledger : Ledger ω) (now : Instant)
    (best : Option (Instance × UInt64)) (candidates : List Instance)
    (nonempty : best ≠ none ∨ candidates ≠ []) :
    ∃ x, (ledger.leastActive now best candidates).2 = some x ∧
      (x ∈ candidates ∨ best.map Prod.fst = some x) := by
  induction candidates generalizing ledger best with
  | nil =>
    obtain ⟨entry, found⟩ := Option.ne_none_iff_exists'.mp (nonempty.resolve_right (fun h => h rfl))
    exact ⟨entry.1, by simp [Ledger.leastActive, found], Or.inr (by simp [found])⟩
  | cons y rest inductionHypothesis =>
    -- Whatever the new best one is, it is `y` or the old best one.
    have further (next : Ledger ω) (better : Option (Instance × UInt64))
        (betterNonempty : better ≠ none)
        (origin : ∀ x, better.map Prod.fst = some x →
          x = y ∨ best.map Prod.fst = some x) :
        ∃ x, (next.leastActive now better rest).2 = some x ∧
          (x ∈ y :: rest ∨ best.map Prod.fst = some x) := by
      obtain ⟨x, found, place⟩ := inductionHypothesis next better (Or.inl betterNonempty)
      refine ⟨x, found, ?_⟩
      rcases place with member | old
      · exact Or.inl (List.mem_cons_of_mem y member)
      · rcases origin x old with rfl | before
        · exact Or.inl List.mem_cons_self
        · exact Or.inr before
    unfold Ledger.leastActive
    dsimp only
    cases best with
    | none => exact further _ _ (by simp) (fun x same => Or.inl (by simpa using same.symm))
    | some entry =>
      dsimp only
      split
      · exact further _ _ (by simp) (fun x same => Or.inr same)
      · exact further _ _ (by simp) (fun x same => Or.inl (by simpa using same.symm))

/-- A draw from a table falls on a member of the list, whatever the table is. -/
theorem drawn_mem [Weight ω] (draw : ω) (table : List ω) (candidates : List Instance)
    (nonempty : candidates ≠ []) : ∃ x ∈ candidates, drawn draw table candidates = some x := by
  obtain ⟨first, rest, rfl⟩ := List.exists_cons_of_ne_nil nonempty
  unfold drawn
  split
  · rename_i index _
    cases found : (first :: rest)[index]? with
    | none => exact ⟨first, List.mem_cons_self, by simp⟩
    | some x => exact ⟨x, List.mem_of_getElem? found, by simp⟩
  · exact ⟨first, List.mem_cons_self, rfl⟩

namespace Balance

variable [Weight ω]

/-- Weighted response time chooses a member, by weight or by turns. -/
theorem selectWeighted_mem (balance : Balance ω) (draw : Draw ω) (now : Instant)
    (service : String) (candidates : List Instance) (nonempty : candidates ≠ []) :
    ∃ x ∈ candidates,
      (balance.selectWeighted draw now service candidates).2 = .ok (some x) := by
  unfold selectWeighted
  dsimp only
  split
  · exact Rotation.select_mem _ service candidates nonempty
  · rename_i table _
    split
    · exact Rotation.select_mem _ service candidates nonempty
    · rename_i last _
      obtain ⟨x, member, fallen⟩ := drawn_mem (draw.point last) table candidates nonempty
      exact ⟨x, member, congrArg Except.ok fallen⟩

/-- Each strategy of the library selects a member of a list that is not empty. Only
the random one relies on its draw. -/
theorem select_mem (balance : Balance ω) (strategy : Strategy) (draw : Draw ω) (now : Instant)
    (service : String) (candidates : List Instance) (nonempty : candidates ≠ [])
    (builtIn : strategy.BuiltIn) (lawful : strategy = .random → draw.Lawful) :
    ∃ x ∈ candidates,
      (balance.select strategy draw now service candidates).2 = .ok (some x) := by
  cases strategy with
  | roundRobin => exact Rotation.select_mem _ service candidates nonempty
  | retryRoundRobin => exact Rotation.select_mem _ service candidates nonempty
  | bestAvailable =>
    obtain ⟨x, found, place⟩ :=
      balance.ledger.leastActive_mem now none candidates (Or.inr nonempty)
    exact ⟨x, place.resolve_right (by simp), congrArg Except.ok found⟩
  | weightedResponseTime => exact balance.selectWeighted_mem draw now service candidates nonempty
  | random =>
    have inside : draw.place candidates.length < candidates.length :=
      lawful rfl _ (List.length_pos_iff.mpr nonempty)
    refine ⟨candidates[draw.place candidates.length], List.getElem_mem inside, ?_⟩
    simp [select, nonempty, inside]
  | custom name rule => exact builtIn.elim

/-- Nothing is chosen from an empty list, and nothing changes. -/
theorem choose_nil (balance : Balance ω) (strategy : Strategy) (draw : Draw ω) (now : Instant)
    (service : String) : balance.choose strategy draw now service [] = (balance, none) := rfl

/-- Each strategy of the library chooses a member of a list that is not empty. -/
theorem choose_mem (balance : Balance ω) (strategy : Strategy) (draw : Draw ω) (now : Instant)
    (service : String) (candidates : List Instance) (nonempty : candidates ≠ [])
    (builtIn : strategy.BuiltIn) (lawful : strategy = .random → draw.Lawful) :
    ∃ x ∈ candidates,
      (balance.choose strategy draw now service candidates).2 = some x := by
  obtain ⟨x, member, selected⟩ :=
    balance.select_mem strategy draw now service candidates nonempty builtIn lawful
  refine ⟨x, member, ?_⟩
  unfold choose
  rw [if_neg (by simpa using nonempty)]
  generalize balance.select strategy draw now service candidates = picked at selected
  obtain ⟨after, picked⟩ := picked
  cases selected
  rfl

end Balance

/-- If some candidate has not failed, no instance that is left has. -/
theorem avoiding_untried (candidates : List Instance) (failed : List Identity)
    (untried : ∃ x ∈ candidates, x.identity ∉ failed) (y : Instance)
    (left : y ∈ avoiding candidates failed) : y.identity ∉ failed := by
  obtain ⟨x, member, fresh⟩ := untried
  have kept : x ∈ without candidates failed := (mem_without candidates failed x).mpr ⟨member, fresh⟩
  have nonempty : (!(without candidates failed).isEmpty) = true := by
    simp only [Bool.not_eq_eq_eq_not, Bool.not_true, List.isEmpty_eq_false_iff]
    exact List.ne_nil_of_mem kept
  unfold avoiding at left
  rw [if_pos nonempty] at left
  exact ((mem_without candidates failed y).mp left).2

/-- If all candidates have failed and some is not the one that failed last, no
instance that is left is that one. -/
theorem avoiding_last (candidates : List Instance) (failed : List Identity) (last : Identity)
    (latest : failed.getLast? = some last) (tried : ∀ x ∈ candidates, x.identity ∈ failed)
    (other : ∃ x ∈ candidates, x.identity ≠ last) (y : Instance)
    (left : y ∈ avoiding candidates failed) : y.identity ≠ last := by
  have noneUntried : without candidates failed = [] := by
    apply List.eq_nil_iff_forall_not_mem.mpr
    intro x member
    obtain ⟨inside, fresh⟩ := (mem_without candidates failed x).mp member
    exact fresh (tried x inside)
  obtain ⟨x, member, differs⟩ := other
  have kept : x ∈ without candidates [last] :=
    (mem_without candidates [last] x).mpr ⟨member, by simpa using differs⟩
  have nonempty : (without candidates [last]).isEmpty = false :=
    List.isEmpty_eq_false_iff.mpr (List.ne_nil_of_mem kept)
  simp only [avoiding, noneUntried, latest, Option.toList, List.isEmpty_nil, Bool.not_true,
    Bool.false_eq_true, if_false, nonempty] at left
  simpa using ((mem_without candidates [last] y).mp left).2

end CallRouting
