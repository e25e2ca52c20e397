import CallRouting.Balancer.Strategy

/-!
# What changes no count

Reading the statistics may open tallies and books, purging takes tallies out of books,
and a round of weights computes tables. None of this changes a count: a tally that was
there keeps its counters, and a new one begins with zeros, which is also how a tally
that is not there reads. Only the time at which a tally was created differs, so the
counts of a ledger are compared without it.
-/

namespace CallRouting

/-- A tally without the time of its creation. -/
def Tally.undated (tally : Tally) : Tally := { tally with createdAt := 0 }

namespace Ledger

variable {ω : Type}

/-- Every book leads to tallies that are there. -/
def Sound (ledger : Ledger ω) : Prop :=
  ∀ service key handle, (ledger.book service).handles.find? key = some handle →
    handle < ledger.tallies.size

/-- An empty ledger leads nowhere. -/
theorem sound_empty (lifetime : Duration) : (empty lifetime : Ledger ω).Sound := by
  intro service key handle found
  simp [empty, book, Registry.find?_empty] at found

/-- A ledger in whose place another one has come that counts the same. -/
structure Grows (before after : Ledger ω) : Prop where
  size_le : before.tallies.size ≤ after.tallies.size
  counts : ∀ handle, (after.tally handle).undated = (before.tally handle).undated
  sound : before.Sound → after.Sound

namespace Grows

/-- A ledger grows into itself. -/
theorem refl (ledger : Ledger ω) : ledger.Grows ledger := ⟨Nat.le_refl _, fun _ => rfl, id⟩

/-- What grows twice over has grown. -/
theorem trans {first second third : Ledger ω} (before : first.Grows second)
    (after : second.Grows third) : first.Grows third where
  size_le := Nat.le_trans before.size_le after.size_le
  counts handle := (after.counts handle).trans (before.counts handle)
  sound known := after.sound (before.sound known)

/-- A ledger with the same tallies, whose books lead nowhere else, counts the same. -/
theorem of_tallies {before after : Ledger ω} (tallies : after.tallies = before.tallies)
    (books : ∀ service key handle, (after.book service).handles.find? key = some handle →
      (before.book service).handles.find? key = some handle) : before.Grows after where
  size_le := Nat.le_of_eq (congrArg Array.size tallies.symm)
  counts handle := by simp only [tally, tally?, tallies]
  sound known service key handle found := by
    rw [tallies]
    exact known service key handle (books service key handle found)

end Grows

/-- To open a book adds no tally. -/
theorem grows_openBook (ledger : Ledger ω) (service : String) :
    ledger.Grows (ledger.openBook service) := by
  refine .of_tallies rfl ?_
  intro other key handle found
  rwa [book_openBook] at found

/-- To open a tally adds one behind those that are there.

A tally that is not there reads as a fresh one, so the new one changes no count. -/
theorem grows_openTally (ledger : Ledger ω) (now : Instant) (service : String) (key : Identity) :
    ledger.Grows (ledger.openTally now service key).1 where
  size_le := by simp [openTally]
  counts handle := by
    simp only [tally, tally?_openTally]
    by_cases new : handle = ledger.tallies.size
    · have absent : ledger.tally? handle = none :=
        Array.getElem?_eq_none (Nat.le_of_eq new.symm)
      rw [if_pos new, absent]
      rfl
    · rw [if_neg new]
  sound known other identity handle found := by
    have size : (ledger.openTally now service key).1.tallies.size = ledger.tallies.size + 1 := by
      simp [openTally]
    rw [find?_openTally] at found
    rw [size]
    split at found
    · obtain rfl := Option.some.inj found
      exact Nat.lt_succ_self _
    · exact Nat.lt_succ_of_lt (known other identity handle found)

/-- The handle that an access gives is there, and the access changes no count: the book led to it,
or it has been opened. -/
theorem grows_access (ledger : Ledger ω) (now : Instant) (service : String) (x : Instance) :
    ledger.Grows (ledger.access now service x).1 ∧
      (ledger.Sound →
        (ledger.access now service x).2 < (ledger.access now service x).1.tallies.size) := by
  unfold access
  cases found : ledger.current? now service x.identity with
  | none =>
    exact ⟨ledger.grows_openTally now service x.identity, fun _ => by simp [openTally]⟩
  | some handle =>
    refine ⟨.refl ledger, ?_⟩
    intro known
    unfold current? at found
    split at found
    · rename_i other led
      split at found
      · cases found
      · exact Option.some.inj found ▸ known service x.identity other led
    · cases found

/-- After a purge a book leads only to the tallies that are not expired; the other books
lead where they led. -/
theorem find?_purge (ledger : Ledger ω) (now : Instant) (service other : String) (key : Identity) :
    ((ledger.purge now service).book other).handles.find? key =
      if service = other then
        ((ledger.book other).handles.find? key).filter fun handle =>
          !(ledger.tally handle).isExpired ledger.lifetime now
      else (ledger.book other).handles.find? key := by
  simp only [purge, book, Registry.find?_modify]
  by_cases same : service = other
  · cases ledger.services.find? other with
    | none => simp [same, Registry.find?_empty]
    | some book => simp [same, Registry.find?_retain]
  · simp [same]

/-- A purge takes entries out of a book and leaves the tallies. -/
theorem grows_purge (ledger : Ledger ω) (now : Instant) (service : String) :
    ledger.Grows (ledger.purge now service) := by
  refine .of_tallies rfl ?_
  intro other key handle found
  rw [find?_purge] at found
  split at found
  · exact (Option.filter_eq_some_iff.mp found).1
  · exact found

section Weights

variable [Weight ω]

/-- To read the averages may open tallies, and counts nothing. -/
theorem grows_averages (ledger : Ledger ω) (now : Instant) (service : String)
    (candidates : List Instance) : ledger.Grows (ledger.averages now service candidates).1 := by
  induction candidates generalizing ledger with
  | nil => exact .refl ledger
  | cons x rest inductionHypothesis =>
    exact (ledger.grows_access now service x).1.trans (inductionHypothesis _)

/-- A new table of weights leads nowhere else. -/
theorem handles_aggregate (ledger : Ledger ω) (now : Instant) (service other : String)
    (candidates : List Instance) :
    ((ledger.aggregate now service candidates).1.book other).handles =
      ((ledger.averages now service candidates).1.book other).handles := by
  simp only [aggregate, book, Registry.find?_put]
  by_cases same : service = other <;> simp [same]

/-- A new table counts nothing. -/
theorem grows_aggregate (ledger : Ledger ω) (now : Instant) (service : String)
    (candidates : List Instance) : ledger.Grows (ledger.aggregate now service candidates).1 := by
  refine (ledger.grows_averages now service candidates).trans (.of_tallies rfl ?_)
  intro other key handle found
  rwa [handles_aggregate] at found

/-- A round of new tables counts nothing. -/
theorem grows_aggregateAll (ledger : Ledger ω) (now : Instant)
    (candidates : String → Option (List Instance)) :
    ledger.Grows (ledger.aggregateAll now candidates).1 := by
  unfold aggregateAll
  refine List.foldlRecOn ledger.services.keys _ (.refl ledger)
    (motive := fun round : Ledger ω × Nat => ledger.Grows round.1) ?_
  rintro ⟨current, count⟩ grown service _
  have purged := grown.trans (current.grows_purge now service)
  dsimp only
  split
  · exact purged
  · exact purged
  · exact purged.trans (grows_aggregate _ now service _)

/-- To make a table fit counts nothing. -/
theorem grows_fittingTable (ledger : Ledger ω) (now : Instant) (service : String)
    (candidates : List Instance) : ledger.Grows (ledger.fittingTable now service candidates).1 := by
  unfold fittingTable
  split
  · exact .refl ledger
  · split
    · exact .refl ledger
    · exact ledger.grows_aggregate now service candidates

end Weights

/-- To look for the least busy candidate counts nothing. -/
theorem grows_leastActive (ledger : Ledger ω) (now : Instant)
    (best : Option (Instance × UInt64)) (candidates : List Instance) :
    ledger.Grows (ledger.leastActive now best candidates).1 := by
  induction candidates generalizing ledger best with
  | nil => exact .refl ledger
  | cons x rest inductionHypothesis =>
    have opened := (ledger.grows_access now x.service x).1
    unfold leastActive
    dsimp only
    split
    · split
      · exact opened.trans (inductionHypothesis _ _)
      · exact opened.trans (inductionHypothesis _ _)
    · exact opened.trans (inductionHypothesis _ _)

end Ledger

namespace Balance

variable {ω : Type} [Weight ω]

/-- A choice by weight counts nothing. -/
theorem grows_selectWeighted (balance : Balance ω) (draw : Draw ω) (now : Instant)
    (service : String) (candidates : List Instance) :
    balance.ledger.Grows (balance.selectWeighted draw now service candidates).1.ledger := by
  have fitted := (balance.ledger.grows_openBook service).trans
    ((balance.ledger.openBook service).grows_fittingTable now service candidates)
  unfold selectWeighted
  dsimp only
  split
  · exact fitted
  · split <;> exact fitted

/-- A choice changes no count, whatever the strategy is.

Two of the strategies may open books and tallies, and the others do not touch the ledger. -/
theorem grows_choose (balance : Balance ω) (strategy : Strategy) (draw : Draw ω) (now : Instant)
    (service : String) (candidates : List Instance) :
    balance.ledger.Grows (balance.choose strategy draw now service candidates).1.ledger := by
  have selected : balance.ledger.Grows
      (balance.select strategy draw now service candidates).1.ledger := by
    cases strategy with
    | roundRobin => exact .refl _
    | retryRoundRobin => exact .refl _
    | bestAvailable => exact balance.ledger.grows_leastActive now none candidates
    | weightedResponseTime => exact balance.grows_selectWeighted draw now service candidates
    | random =>
      unfold select
      dsimp only
      split <;> exact .refl _
    | custom name rule => exact .refl _
  unfold choose
  split
  · exact .refl _
  · generalize balance.select strategy draw now service candidates = picked at selected ⊢
    obtain ⟨after, picked⟩ := picked
    cases picked <;> exact selected

end Balance

end CallRouting
