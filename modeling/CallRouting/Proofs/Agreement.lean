import CallRouting.Proofs.Readings

/-!
# Ledgers that read the same

Two ledgers agree from a time on if they have the same tallies, the same services with the
same tables, and books that read the same at that time and at all later ones. What is left in a
book of expired entries, and in what order the entries stand, may differ: a current tally is
looked up by its instance, so nobody who looks for one sees a difference.

To purge a ledger leaves one that agrees with it. Whatever else is done to two ledgers that
agree gives the same in both, and they agree afterwards.
-/

namespace CallRouting

variable {ω : Type}

namespace Ledger

/-- Two ledgers that read the same from some time on. -/
structure Agrees (now : Instant) (first second : Ledger ω) : Prop where
  lifetime : second.lifetime = first.lifetime
  tallies : second.tallies = first.tallies
  services : second.services.keys = first.services.keys
  weights : ∀ service, (second.book service).weights = (first.book service).weights
  current : ∀ later, now ≤ later → ∀ service key,
    second.current? later service key = first.current? later service key
  sounds : first.Sound ∧ second.Sound

/-- A purge is not seen. -/
theorem agrees_purge (ledger : Ledger ω) (sound : ledger.Sound) (now : Instant)
    (service : String) : ledger.Agrees now (ledger.purge now service) where
  lifetime := rfl
  tallies := rfl
  services := Registry.keys_modify _ _ _
  weights other := ledger.weights_purge now service other
  current later onward other key := ledger.current?_purge now later onward service other key
  sounds := ⟨sound, (ledger.grows_purge now service).sound sound⟩

namespace Agrees

variable {now : Instant} {first second third : Ledger ω}

/-- A sound ledger agrees with itself. -/
theorem refl (sound : first.Sound) : first.Agrees now first :=
  ⟨rfl, rfl, rfl, fun _ => rfl, fun _ _ _ _ => rfl, sound, sound⟩

/-- What the one ledger reads the other one reads too. -/
theorem symm (agrees : first.Agrees now second) : second.Agrees now first where
  lifetime := agrees.lifetime.symm
  tallies := agrees.tallies.symm
  services := agrees.services.symm
  weights service := (agrees.weights service).symm
  current later onward service key := (agrees.current later onward service key).symm
  sounds := agrees.sounds.symm

/-- Ledgers that agree with one and the same agree with each other. -/
theorem trans (agrees : first.Agrees now second) (further : second.Agrees now third) :
    first.Agrees now third where
  lifetime := further.lifetime.trans agrees.lifetime
  tallies := further.tallies.trans agrees.tallies
  services := further.services.trans agrees.services
  weights service := (further.weights service).trans (agrees.weights service)
  current later onward service key :=
    (further.current later onward service key).trans (agrees.current later onward service key)
  sounds := ⟨agrees.sounds.1, further.sounds.2⟩

/-- What reads the same from some time on reads the same from any later one on. -/
theorem later (agrees : first.Agrees now second) {later : Instant} (onward : now ≤ later) :
    first.Agrees later second :=
  { agrees with current := fun time after => agrees.current time (Nat.le_trans onward after) }

/-- A handle leads to the same tally in both. -/
theorem tally (agrees : first.Agrees now second) (handle : Handle) :
    second.tally handle = first.tally handle := by
  simp only [Ledger.tally, tally?, agrees.tallies]

/-- To purge both ledgers, or one of them, is not seen. -/
theorem purge (agrees : first.Agrees now second) (service : String) :
    (first.purge now service).Agrees now (second.purge now service) :=
  ((first.agrees_purge agrees.sounds.1 now service).symm.trans agrees).trans
    (second.agrees_purge agrees.sounds.2 now service)

/-- The services are the same after each has got a book for one. -/
theorem keys_put (agrees : first.Agrees now second) (service : String)
    (book bookToo : ServiceBook ω) :
    (second.services.put service bookToo).keys = (first.services.put service book).keys := by
  rw [Registry.keys_put, Registry.keys_put, agrees.services]

/-- To open a book in both, which may be there, leaves ledgers that agree. -/
theorem openBook (agrees : first.Agrees now second) (service : String) :
    (first.openBook service).Agrees now (second.openBook service) where
  lifetime := agrees.lifetime
  tallies := agrees.tallies
  services := agrees.keys_put service _ _
  weights other := by simpa only [book_openBook] using agrees.weights other
  current later onward other key := by
    simpa only [current?_openBook] using agrees.current later onward other key
  sounds := ⟨(first.grows_openBook service).sound agrees.sounds.1,
    (second.grows_openBook service).sound agrees.sounds.2⟩

/-- To open a tally in both gives it the same handle, and the books that read it agree. -/
theorem openTally (agrees : first.Agrees now second) (service : String) (key : Identity) :
    (first.openTally now service key).1.Agrees now (second.openTally now service key).1 where
  lifetime := agrees.lifetime
  tallies := by simp only [Ledger.openTally, agrees.tallies]
  services := agrees.keys_put service _ _
  weights other := by
    simp only [Ledger.openTally, book, Registry.find?_put]
    split
    · exact agrees.weights service
    · exact agrees.weights other
  current later onward other identity := by
    rw [second.current?_openTally agrees.sounds.2, first.current?_openTally agrees.sounds.1,
      agrees.lifetime, agrees.tallies, agrees.current later onward]
  sounds := ⟨(first.grows_openTally now service key).sound agrees.sounds.1,
    (second.grows_openTally now service key).sound agrees.sounds.2⟩

/-- To put the same table into both books leaves ledgers that agree. -/
theorem tabulate (agrees : first.Agrees now second) (service : String) (table : List ω) :
    (first.tabulate service table).Agrees now (second.tabulate service table) where
  lifetime := agrees.lifetime
  tallies := agrees.tallies
  services := agrees.keys_put service _ _
  weights other := by
    rw [book_tabulate, book_tabulate]
    split
    · rfl
    · exact agrees.weights other
  current later onward other key := by
    simpa only [current?_tabulate] using agrees.current later onward other key
  sounds := ⟨first.sound_tabulate agrees.sounds.1 service table,
    second.sound_tabulate agrees.sounds.2 service table⟩

/-- To change the same tally in both leaves ledgers that agree, as long as the change keeps the
time at which the tally was opened: whether it is expired is read from that time. -/
theorem change (agrees : first.Agrees now second) (handle : Handle) (update : Tally → Tally)
    (keeps : ∀ tally, (update tally).createdAt = tally.createdAt) :
    (first.change handle update).Agrees now (second.change handle update) where
  lifetime := agrees.lifetime
  tallies := by simp only [Ledger.change, agrees.tallies]
  services := agrees.services
  weights := agrees.weights
  current later onward other key := by
    simpa only [current?_change _ _ _ keeps] using agrees.current later onward other key
  sounds := ⟨first.sound_change agrees.sounds.1 handle update,
    second.sound_change agrees.sounds.2 handle update⟩

/-- Whoever looks for the current tally of an instance gets the same handle. -/
theorem access (agrees : first.Agrees now second) (service : String) (x : Instance) :
    (first.access now service x).1.Agrees now (second.access now service x).1 ∧
      (second.access now service x).2 = (first.access now service x).2 := by
  unfold Ledger.access
  rw [agrees.current now (Nat.le_refl now) service x.identity]
  cases first.current? now service x.identity with
  | some handle => exact ⟨agrees, rfl⟩
  | none => exact ⟨agrees.openTally service x.identity, congrArg Array.size agrees.tallies⟩

/-- To begin a call in both gives it the same handle. -/
theorem beforeCall (agrees : first.Agrees now second) (x : Instance) :
    (first.beforeCall now x).1.Agrees now (second.beforeCall now x).1 ∧
      (second.beforeCall now x).2 = (first.beforeCall now x).2 := by
  obtain ⟨opened, same⟩ := agrees.access x.service x
  unfold Ledger.beforeCall tallyOf
  generalize first.access now x.service x = accessed at opened same ⊢
  generalize second.access now x.service x = accessedToo at opened same ⊢
  obtain ⟨after, handle⟩ := accessed
  obtain ⟨afterToo, handleToo⟩ := accessedToo
  obtain rfl : handleToo = handle := same
  exact ⟨opened.change handleToo .started fun _ => rfl, rfl⟩

/-- The least busy candidate is the same in both.

To look for it opens a tally for each candidate that has none or an expired one, so the ledgers
change on the way; they agree at each candidate. -/
theorem leastActive (agrees : first.Agrees now second) (best : Option (Instance × UInt64))
    (candidates : List Instance) :
    (first.leastActive now best candidates).1.Agrees now
        (second.leastActive now best candidates).1 ∧
      (second.leastActive now best candidates).2 = (first.leastActive now best candidates).2 := by
  induction candidates generalizing first second best with
  | nil => exact ⟨agrees, rfl⟩
  | cons x rest inductionHypothesis =>
    obtain ⟨opened, same⟩ := agrees.access x.service x
    unfold Ledger.leastActive tallyOf
    generalize first.access now x.service x = accessed at opened same ⊢
    generalize second.access now x.service x = accessedToo at opened same ⊢
    obtain ⟨after, handle⟩ := accessed
    obtain ⟨afterToo, handleToo⟩ := accessedToo
    obtain rfl : handleToo = handle := same
    simp only [opened.tally]
    cases best with
    | none => exact inductionHypothesis opened _
    | some leader =>
      dsimp only
      split
      · exact inductionHypothesis opened _
      · exact inductionHypothesis opened _

section Weights

variable [Weight ω]

/-- The average times of the candidates are the same in both. -/
theorem averages (agrees : first.Agrees now second) (service : String)
    (candidates : List Instance) :
    (first.averages now service candidates).1.Agrees now
        (second.averages now service candidates).1 ∧
      (second.averages now service candidates).2 = (first.averages now service candidates).2 := by
  induction candidates generalizing first second with
  | nil => exact ⟨agrees, rfl⟩
  | cons x rest inductionHypothesis =>
    obtain ⟨opened, same⟩ := agrees.access service x
    obtain ⟨further, others⟩ := inductionHypothesis opened
    refine ⟨further, ?_⟩
    simp only [Ledger.averages, same, opened.tally, others]

/-- A new table is the same in both. -/
theorem aggregate (agrees : first.Agrees now second) (service : String)
    (candidates : List Instance) :
    (first.aggregate now service candidates).1.Agrees now
        (second.aggregate now service candidates).1 ∧
      (second.aggregate now service candidates).2 =
        (first.aggregate now service candidates).2 := by
  obtain ⟨averaged, same⟩ := agrees.averages service candidates
  have table : (second.aggregate now service candidates).2 =
      (first.aggregate now service candidates).2 := congrArg weightTable same
  have published : (second.aggregate now service candidates).1 =
      (second.averages now service candidates).1.tabulate service
        (first.aggregate now service candidates).2 := congrArg (Ledger.tabulate _ service) table
  rw [published]
  exact ⟨averaged.tabulate service _, table⟩

/-- What a round does for a service is the same in both. -/
theorem serve (agrees : first.Agrees now second)
    (candidates : String → Option (List Instance)) (service : String) :
    (first.serve now candidates service).Agrees now (second.serve now candidates service) := by
  have purged := agrees.purge service
  unfold Ledger.serve
  dsimp only
  split
  · exact purged
  · exact purged
  · exact (purged.aggregate service _).1

/-- A round does the same in both. -/
theorem aggregateAll (agrees : first.Agrees now second)
    (candidates : String → Option (List Instance)) :
    (first.aggregateAll now candidates).1.Agrees now (second.aggregateAll now candidates).1 := by
  rw [aggregateAll_fst, aggregateAll_fst, agrees.services]
  generalize first.services.keys = services
  induction services generalizing first second with
  | nil => exact agrees
  | cons service rest inductionHypothesis =>
    exact inductionHypothesis (agrees.serve candidates service)

/-- The table that fits the candidates is the same in both, whether it was there or is
computed. -/
theorem fittingTable (agrees : first.Agrees now second) (service : String)
    (candidates : List Instance) :
    (first.fittingTable now service candidates).1.Agrees now
        (second.fittingTable now service candidates).1 ∧
      (second.fittingTable now service candidates).2 =
        (first.fittingTable now service candidates).2 := by
  unfold Ledger.fittingTable
  rw [agrees.weights service]
  split
  · exact ⟨agrees, rfl⟩
  · split
    · exact ⟨agrees, rfl⟩
    · obtain ⟨published, same⟩ := agrees.aggregate service candidates
      exact ⟨published, congrArg some same⟩

end Weights

end Agrees

end Ledger

/-- What the strategies read and write, over two ledgers that agree. -/
inductive Balance.Agrees (now : Instant) (balance : Balance ω) : Balance ω → Prop
  | intro (ledger : Ledger ω) (agrees : balance.ledger.Agrees now ledger) :
      Agrees now balance { balance with ledger }

section Choices

variable [Weight ω] {now : Instant}

/-- Any strategy chooses the same, if it draws the same.

Turns and draws do not look at the ledger. The other strategies read it through the searches
above, which find the same in both. -/
theorem Balance.Agrees.choose {first second : Balance ω} (agrees : first.Agrees now second)
    (strategy : Strategy) (draw : Draw ω) (service : String) (candidates : List Instance) :
    (first.choose strategy draw now service candidates).1.Agrees now
        (second.choose strategy draw now service candidates).1 ∧
      (second.choose strategy draw now service candidates).2 =
        (first.choose strategy draw now service candidates).2 := by
  obtain ⟨ledger, agrees⟩ := agrees
  unfold Balance.choose
  by_cases empty : candidates.isEmpty = true
  · rw [if_pos empty, if_pos empty]
    exact ⟨⟨ledger, agrees⟩, rfl⟩
  · rw [if_neg empty, if_neg empty]
    cases strategy with
    | roundRobin =>
      simp only [select]
      generalize first.rotation.select service candidates = taken
      obtain ⟨rotation, picked⟩ := taken
      cases picked <;> exact ⟨⟨ledger, agrees⟩, rfl⟩
    | retryRoundRobin =>
      simp only [select]
      generalize first.retryRotation.select service candidates = taken
      obtain ⟨rotation, picked⟩ := taken
      cases picked <;> exact ⟨⟨ledger, agrees⟩, rfl⟩
    | bestAvailable =>
      obtain ⟨after, same⟩ := agrees.leastActive none candidates
      exact ⟨⟨_, after⟩, same⟩
    | weightedResponseTime =>
      obtain ⟨fitted, same⟩ := (agrees.openBook service).fittingTable service candidates
      simp only [select, selectWeighted, selectUnweighted, same]
      generalize (first.ledger.openBook service).fittingTable now service candidates = fit
        at fitted ⊢
      generalize ((ledger.openBook service).fittingTable now service candidates).1 = afterToo
        at fitted ⊢
      obtain ⟨after, table⟩ := fit
      generalize first.weightedRotation.select service candidates = taken
      obtain ⟨rotation, picked⟩ := taken
      cases table with
      | none => cases picked <;> exact ⟨⟨afterToo, fitted⟩, rfl⟩
      | some table =>
        dsimp only
        cases drawEnd? table with
        | none => cases picked <;> exact ⟨⟨afterToo, fitted⟩, rfl⟩
        | some last => exact ⟨⟨afterToo, fitted⟩, rfl⟩
    | random =>
      simp only [select, empty]
      exact ⟨⟨ledger, agrees⟩, rfl⟩
    | custom name rule => exact ⟨⟨ledger, agrees⟩, rfl⟩

end Choices

end CallRouting
