import CallRouting.Proofs.Moves

/-!
# Ledgers alike in one service

Two ledgers can be alike in the book of one service however much they differ in the
others. The handles differ then, for each ledger numbers its tallies in the order in which
they were opened, those of other services among them. So a list says, for each handle of
the second ledger, which handle of the first one stands in its place; where both open a
tally for the service, the list grows at its end.

What is done alike to both for the service gives the same and leaves them alike, and moves
of the first about other books and other handles do not matter.
-/

namespace CallRouting

variable {ω : Type}

/-- The entries are the keys, each with what it leads to. -/
theorem Registry.entries_eq {κ ν : Type} [DecidableEq κ] (registry : Registry κ ν) :
    registry.entries =
      registry.keys.filterMap fun key => (registry.find? key).map (Prod.mk key) := by
  have each : registry.entries.filterMap (fun entry =>
        (registry.find? entry.1).map (Prod.mk entry.1)) = registry.entries.filterMap some := by
    refine List.filterMap_congr fun entry member => ?_
    rw [registry.find?_of_mem entry.1 entry.2 member]
    rfl
  rw [Registry.keys, List.filterMap_map]
  exact (each.trans (by simp)).symm

/-- The keys that are retained are those whose values pass the test, in order. -/
theorem Registry.keys_retain {κ ν : Type} [DecidableEq κ] (registry : Registry κ ν)
    (keep : κ → ν → Bool) : (registry.retain keep).keys =
      registry.keys.filter fun key => (registry.find? key).any (keep key) := by
  have tested : registry.entries.filter (fun entry => keep entry.1 entry.2) =
      registry.entries.filter fun entry => (registry.find? entry.1).any (keep entry.1) := by
    refine List.filter_congr fun entry member => ?_
    rw [registry.find?_of_mem entry.1 entry.2 member]
    rfl
  have kept : (registry.retain keep).keys =
      (registry.entries.filter fun entry => keep entry.1 entry.2).map Prod.fst := rfl
  rw [kept, tested, Registry.keys, List.filter_map]
  rfl

/-- A handle that stands in the place of another one. -/
def Placed (places : List Handle) (handle own : Handle) : Prop := places[own]? = some handle

namespace Placed

variable {places wider : List Handle} {handle own : Handle}

/-- A handle keeps its place when the list of places grows. -/
theorem mono (grown : places <+: wider) (placed : Placed places handle own) :
    Placed wider handle own := by
  obtain ⟨added, rfl⟩ := grown
  obtain ⟨inside, there⟩ := List.getElem?_eq_some_iff.mp placed
  exact (List.getElem?_append_left inside).trans placed

/-- A handle that may be missing keeps its place when the list of places grows, or stays
missing. -/
theorem mono? (grown : places <+: wider) {found foundOwn : Option Handle}
    (placed : Option.Rel (Placed places) found foundOwn) :
    Option.Rel (Placed wider) found foundOwn := by
  cases placed with
  | none => exact .none
  | some placed => exact .some (placed.mono grown)

/-- A handle that stands in a place is one of the list. -/
theorem mem (placed : Placed places handle own) : handle ∈ places := List.mem_of_getElem? placed

/-- A place is one of those that the list has. -/
theorem lt (placed : Placed places handle own) : own < places.length :=
  (List.getElem?_eq_some_iff.mp placed).1

/-- A handle stands for one handle only, as long as no place is there twice. -/
theorem inj (distinct : places.Nodup) {other : Handle} (first : Placed places handle own)
    (second : Placed places handle other) : own = other :=
  (List.getElem?_inj first.lt distinct).mp (first.trans second.symm)

end Placed

namespace Ledger

/-- A purge keeps the identities whose tallies are not expired, in order. -/
theorem keys_purge (ledger : Ledger ω) (now : Instant) (service other : String) :
    ((ledger.purge now service).book other).handles.keys =
      if service = other then
        (ledger.book other).handles.keys.filter fun key =>
          ((ledger.book other).handles.find? key).any fun handle =>
            !(ledger.tally handle).isExpired ledger.lifetime now
      else (ledger.book other).handles.keys := by
  simp only [purge, book, Registry.find?_modify]
  by_cases same : service = other
  · cases ledger.services.find? other with
    | none => simp [same, Registry.keys_empty]
    | some book => simp [same, Registry.keys_retain]
  · simp [same]

/-- To look for a tally takes none away. -/
theorem size_le_access (ledger : Ledger ω) (now : Instant) (service : String) (x : Instance) :
    ledger.tallies.size ≤ (ledger.access now service x).1.tallies.size := by
  have moves : Moves now (fun _ => True) (fun _ => True) ledger (ledger.access now service x).1 :=
    (ledger.moves_access service x trivial).1
  exact moves.size_le

/-- A list of handles has grown at its end, by handles of tallies that a ledger did not have
yet. -/
def Widens (ledger : Ledger ω) (places wider : List Handle) : Prop :=
  ∃ added, wider = places ++ added ∧ ∀ handle ∈ added, ledger.tallies.size ≤ handle

namespace Widens

variable {ledger later : Ledger ω} {places wider widest : List Handle}

/-- The places of a ledger widen to themselves: nothing has to come in. -/
theorem refl (ledger : Ledger ω) (places : List Handle) : ledger.Widens places places :=
  ⟨[], (List.append_nil places).symm, fun _ member => (nomatch member)⟩

/-- A tally that is opened gets the next place. -/
theorem one (ledger : Ledger ω) (places : List Handle) :
    ledger.Widens places (places ++ [ledger.tallies.size]) :=
  ⟨_, rfl, fun _ member => Nat.le_of_eq (List.mem_singleton.mp member).symm⟩

/-- Places that come in later were not there before either. -/
theorem trans (first : ledger.Widens places wider) (second : later.Widens wider widest)
    (grown : ledger.tallies.size ≤ later.tallies.size) : ledger.Widens places widest := by
  obtain ⟨added, rfl, new⟩ := first
  obtain ⟨further, rfl, newer⟩ := second
  refine ⟨added ++ further, List.append_assoc _ _ _, fun handle member => ?_⟩
  rcases List.mem_append.mp member with here | there
  · exact new handle here
  · exact Nat.le_trans grown (newer handle there)

/-- The places from before keep their numbers. -/
theorem isPrefix (widens : ledger.Widens places wider) : places <+: wider := by
  obtain ⟨added, rfl, _⟩ := widens
  exact List.prefix_append places added

/-- A handle that was there already stands in no new place. -/
theorem notMem (widens : ledger.Widens places wider) {handle : Handle}
    (there : handle < ledger.tallies.size) (absent : handle ∉ places) : handle ∉ wider := by
  obtain ⟨added, rfl, new⟩ := widens
  intro member
  rcases List.mem_append.mp member with old | later
  · exact absent old
  · exact Nat.lt_irrefl _ (Nat.lt_of_lt_of_le there (new handle later))

end Widens

/-- Two ledgers that are alike in the book of one service. In the first one no other book leads
to a handle that stands in a place. -/
structure Alike (service : String) (places : List Handle) (ledger alone : Ledger ω) : Prop where
  lifetime : ledger.lifetime = alone.lifetime
  size : places.length = alone.tallies.size
  there : ∀ handle ∈ places, handle < ledger.tallies.size
  distinct : places.Nodup
  known : service ∈ ledger.services.keys ↔ service ∈ alone.services.keys
  weights : (ledger.book service).weights = (alone.book service).weights
  keys : (ledger.book service).handles.keys = (alone.book service).handles.keys
  led : ∀ key, Option.Rel (Placed places) ((ledger.book service).handles.find? key)
    ((alone.book service).handles.find? key)
  counted : ∀ handle own, Placed places handle own → ledger.tally? handle = alone.tally? own
  apart : ∀ other key handle, other ≠ service → ledger.Leads other key handle →
    handle < ledger.tallies.size ∧ handle ∉ places

namespace Alike

variable {service : String} {places : List Handle} {ledger alone : Ledger ω}

/-- An empty ledger is alike to itself. -/
theorem of_empty (lifetime : Duration) (service : String) :
    (Ledger.empty lifetime : Ledger ω).Alike service [] (.empty lifetime) where
  lifetime := rfl
  size := rfl
  there _ member := nomatch member
  distinct := .nil
  known := .rfl
  weights := rfl
  keys := rfl
  led _ := .none
  counted _ _ placed := nomatch placed
  apart _ _ _ _ led := nomatch led

/-- A handle leads to the tally to which the one in its place leads in the other ledger. -/
theorem tally_eq (alike : ledger.Alike service places alone) {handle own : Handle}
    (placed : Placed places handle own) : ledger.tally handle = alone.tally own := by
  simp only [tally, alike.counted handle own placed]

/-- A current tally is found in both ledgers or in none, in one place. -/
theorem current? (alike : ledger.Alike service places alone) (now : Instant) (key : Identity) :
    Option.Rel (Placed places) (ledger.current? now service key)
      (alone.current? now service key) := by
  have led := alike.led key
  unfold Ledger.current?
  generalize (ledger.book service).handles.find? key = found at led ⊢
  generalize (alone.book service).handles.find? key = foundAlone at led ⊢
  cases led with
  | none => exact .none
  | some placed =>
    simp only [alike.tally_eq placed, alike.lifetime]
    split
    · exact .none
    · exact .some placed

/-- Who reads the statistics of the service reads the same. -/
theorem view (alike : ledger.Alike service places alone) :
    ledger.view service = alone.view service := by
  have entries : (ledger.book service).handles.entries.map (fun entry =>
        (entry.1.text, ledger.tally entry.2)) =
      (alone.book service).handles.entries.map fun entry =>
        (entry.1.text, alone.tally entry.2) := by
    rw [Registry.entries_eq, Registry.entries_eq, alike.keys, List.map_filterMap,
      List.map_filterMap]
    refine List.filterMap_congr fun key _ => ?_
    have led := alike.led key
    generalize (ledger.book service).handles.find? key = found at led ⊢
    generalize (alone.book service).handles.find? key = foundAlone at led ⊢
    cases led with
    | none => rfl
    | some placed => simp only [Option.map_some, alike.tally_eq placed]
  simp only [Ledger.view, entries, alike.weights]

/-- To open the book of the service in both leaves them alike. -/
theorem openBook (alike : ledger.Alike service places alone) :
    (ledger.openBook service).Alike service places (alone.openBook service) where
  lifetime := alike.lifetime
  size := alike.size
  there := alike.there
  distinct := alike.distinct
  known := by simp [Ledger.openBook, Registry.mem_keys_put]
  weights := by simpa only [book_openBook] using alike.weights
  keys := by simpa only [book_openBook] using alike.keys
  led key := by simpa only [book_openBook] using alike.led key
  counted := alike.counted
  apart other key handle away led := by
    rw [Leads, book_openBook] at led
    exact alike.apart other key handle away led

/-- To open a tally of the service in both leaves them alike, and gives the new handles the
next place. The handles themselves differ, for each ledger counts all of its tallies.

The new handle of each ledger is its number of tallies so far. Old places keep their tallies,
since a handle in a place is below that number. -/
theorem openTally (alike : ledger.Alike service places alone) (now : Instant) (key : Identity) :
    (ledger.openTally now service key).1.Alike service (places ++ [ledger.tallies.size])
      (alone.openTally now service key).1 where
  lifetime := alike.lifetime
  size := by simp [Ledger.openTally, alike.size]
  there handle member := by
    have grown : (ledger.openTally now service key).1.tallies.size = ledger.tallies.size + 1 := by
      simp [Ledger.openTally]
    rw [grown]
    rcases List.mem_append.mp member with old | new
    · exact Nat.lt_succ_of_lt (alike.there handle old)
    · exact Nat.lt_succ_of_le (Nat.le_of_eq (List.mem_singleton.mp new))
  distinct := by
    refine List.nodup_append.mpr ⟨alike.distinct, List.nodup_singleton _, ?_⟩
    intro old member new last same
    have there := alike.there old member
    rw [same, List.mem_singleton.mp last] at there
    exact Nat.lt_irrefl _ there
  known := by simp [Ledger.openTally, Registry.mem_keys_put]
  weights := by simpa [Ledger.openTally, book, Registry.find?_put] using alike.weights
  keys := by
    have keys := alike.keys
    simp only [Ledger.openTally, book, Registry.find?_put, if_true, Option.getD_some,
      Registry.keys_put] at keys ⊢
    rw [keys]
  led identity := by
    simp only [find?_openTally, true_and]
    split
    · refine .some ?_
      rw [Placed, ← alike.size, List.getElem?_concat_length]
    · exact Placed.mono? (List.prefix_append _ _) (alike.led identity)
  counted handle own placed := by
    rw [tally?_openTally, tally?_openTally]
    by_cases old : own < places.length
    · have before : Placed places handle own := (List.getElem?_append_left old).symm.trans placed
      have inside := alike.there handle before.mem
      rw [if_neg (Nat.ne_of_lt inside), if_neg (Nat.ne_of_lt (alike.size ▸ old))]
      exact alike.counted handle own before
    · have last : own = places.length := by
        have bound := placed.lt
        rw [List.length_append, List.length_singleton] at bound
        exact Nat.le_antisymm (Nat.le_of_lt_succ bound) (Nat.le_of_not_lt old)
      subst last
      have same : handle = ledger.tallies.size := by
        rw [Placed, List.getElem?_concat_length] at placed
        exact (Option.some.inj placed).symm
      rw [if_pos same, if_pos alike.size]
  apart other identity handle away led := by
    rw [Leads, find?_openTally, if_neg fun here => away here.1.symm] at led
    obtain ⟨there, apart⟩ := alike.apart other identity handle away led
    refine ⟨?_, fun member => ?_⟩
    · simpa [Ledger.openTally] using Nat.lt_succ_of_lt there
    · rcases List.mem_append.mp member with old | new
      · exact apart old
      · exact Nat.lt_irrefl _ (List.mem_singleton.mp new ▸ there)

/-- To look up the tally of an instance in both leads to handles in one place, whether they
were there or are new. -/
theorem access (alike : ledger.Alike service places alone) (now : Instant) (x : Instance) :
    ∃ wider, ledger.Widens places wider ∧
      (ledger.access now service x).1.Alike service wider (alone.access now service x).1 ∧
      Placed wider (ledger.access now service x).2 (alone.access now service x).2 := by
  have current := alike.current? now x.identity
  unfold Ledger.access
  generalize ledger.current? now service x.identity = found at current ⊢
  generalize alone.current? now service x.identity = foundAlone at current ⊢
  cases current with
  | none =>
    refine ⟨_, .one ledger places, alike.openTally now x.identity, ?_⟩
    have last : (alone.openTally now service x.identity).2 = places.length := alike.size.symm
    rw [Placed, last, List.getElem?_concat_length]
    rfl
  | some placed => exact ⟨places, .refl ledger places, alike, placed⟩

/-- To change the tallies in one place alike leaves the ledgers alike. -/
theorem change (alike : ledger.Alike service places alone) {handle own : Handle}
    (placed : Placed places handle own) (update : Tally → Tally) :
    (ledger.change handle update).Alike service places (alone.change own update) where
  lifetime := alike.lifetime
  size := by simpa [Ledger.change] using alike.size
  there := by simpa [Ledger.change] using alike.there
  distinct := alike.distinct
  known := alike.known
  weights := alike.weights
  keys := alike.keys
  led := alike.led
  counted other another also := by
    rw [tally?_change, tally?_change, alike.counted other another also]
    -- Places pair off the handles of the two ledgers, so both changes hit the same pair or none.
    have same : handle = other ↔ own = another := by
      constructor
      · rintro rfl
        exact placed.inj alike.distinct also
      · rintro rfl
        exact Option.some.inj (placed.symm.trans also)
    by_cases here : own = another
    · rw [if_pos here, if_pos (same.mpr here)]
    · rw [if_neg here, if_neg fun there => here (same.mp there)]
  apart := by simpa [Ledger.change, Leads, book] using alike.apart

/-- To purge the service in both takes the same entries away.

An entry goes if its tally is expired, and the two tallies behind a key are equal. -/
theorem purge (alike : ledger.Alike service places alone) (now : Instant) :
    (ledger.purge now service).Alike service places (alone.purge now service) where
  lifetime := alike.lifetime
  size := alike.size
  there := alike.there
  distinct := alike.distinct
  known := by simpa [Ledger.purge, Registry.keys_modify] using alike.known
  weights := by simpa only [weights_purge] using alike.weights
  keys := by
    simp only [keys_purge, if_true, alike.keys]
    refine List.filter_congr fun key _ => ?_
    have led := alike.led key
    generalize (ledger.book service).handles.find? key = found at led ⊢
    generalize (alone.book service).handles.find? key = foundAlone at led ⊢
    cases led with
    | none => rfl
    | some placed => simp only [Option.any_some, alike.tally_eq placed, alike.lifetime]
  led key := by
    simp only [find?_purge, if_true]
    have led := alike.led key
    generalize (ledger.book service).handles.find? key = found at led ⊢
    generalize (alone.book service).handles.find? key = foundAlone at led ⊢
    cases led with
    | none => exact .none
    | some placed =>
      simp only [Option.filter, alike.tally_eq placed, alike.lifetime]
      split
      · exact .some placed
      · exact .none
  counted := alike.counted
  apart other key handle away led := by
    rw [Leads, find?_purge, if_neg (Ne.symm away)] at led
    exact alike.apart other key handle away led

/-- To put the same table into both books of the service leaves them alike. -/
theorem tabulate (alike : ledger.Alike service places alone) (table : List ω) :
    (ledger.tabulate service table).Alike service places (alone.tabulate service table) where
  lifetime := alike.lifetime
  size := alike.size
  there := alike.there
  distinct := alike.distinct
  known := by simp [Ledger.tabulate, Registry.mem_keys_put]
  weights := by simp [book_tabulate]
  keys := by simpa [book_tabulate] using alike.keys
  led key := by simpa [book_tabulate] using alike.led key
  counted := alike.counted
  apart other key handle away led := by
    rw [Leads, book_tabulate, if_neg (Ne.symm away)] at led
    exact alike.apart other key handle away led

/-- A call that starts on an instance of the service is opened in both ledgers, on handles with
one place. -/
theorem beforeCall (alike : ledger.Alike service places alone) (now : Instant) (x : Instance)
    (named : x.service = service) :
    ∃ wider, ledger.Widens places wider ∧
      (ledger.beforeCall now x).1.Alike service wider (alone.beforeCall now x).1 ∧
      Placed wider (ledger.beforeCall now x).2 (alone.beforeCall now x).2 := by
  subst named
  obtain ⟨wider, grown, opened, placed⟩ := alike.access now x
  exact ⟨wider, grown, opened.change placed .started, placed⟩

/-- Among instances of the service the same one has the fewest running calls in both ledgers.

The walk opens a tally for an instance without one; that is done in both, so more places come in
at each candidate. -/
theorem leastActive (alike : ledger.Alike service places alone) (now : Instant)
    (best : Option (Instance × UInt64)) (candidates : List Instance)
    (named : ∀ x ∈ candidates, x.service = service) :
    ∃ wider, ledger.Widens places wider ∧
      (ledger.leastActive now best candidates).1.Alike service wider
        (alone.leastActive now best candidates).1 ∧
      (ledger.leastActive now best candidates).2 = (alone.leastActive now best candidates).2 := by
  induction candidates generalizing ledger alone places best with
  | nil => exact ⟨places, .refl ledger places, alike, rfl⟩
  | cons x rest inductionHypothesis =>
    obtain rfl := named x List.mem_cons_self
    obtain ⟨wider, grown, opened, placed⟩ := alike.access now x
    have further (better : Option (Instance × UInt64)) := inductionHypothesis opened better
      fun y later => named y (List.mem_cons_of_mem x later)
    -- The walk goes on with the leader or with the newcomer, and the rest is by induction for
    -- either.
    have onward (better : Option (Instance × UInt64)) :
        ∃ widest, ledger.Widens places widest ∧ _ :=
      let ⟨widest, grownToo, rest⟩ := further better
      ⟨widest, grown.trans grownToo (ledger.size_le_access now x.service x), rest⟩
    cases best with
    | none =>
      simp only [Ledger.leastActive, tallyOf, opened.tally_eq placed]
      exact onward _
    | some leader =>
      obtain ⟨y, fewest⟩ := leader
      simp only [Ledger.leastActive, tallyOf, opened.tally_eq placed]
      by_cases ahead :
          fewest ≤ ((alone.access now x.service x).1.tally (alone.access now x.service x).2).active
      · simp only [ahead, if_true]
        exact onward _
      · simp only [ahead, if_false]
        exact onward _

section Weights

variable [Weight ω]

/-- The average times of the candidates are the same in both. -/
theorem averages (alike : ledger.Alike service places alone) (now : Instant)
    (candidates : List Instance) :
    ∃ wider, ledger.Widens places wider ∧
      (ledger.averages now service candidates).1.Alike service wider
        (alone.averages now service candidates).1 ∧
      (ledger.averages now service candidates).2 = (alone.averages now service candidates).2 := by
  induction candidates generalizing ledger alone places with
  | nil => exact ⟨places, .refl ledger places, alike, rfl⟩
  | cons x rest inductionHypothesis =>
    obtain ⟨wider, grown, opened, placed⟩ := alike.access now x
    obtain ⟨widest, grownToo, averaged, same⟩ := inductionHypothesis opened
    refine ⟨widest, grown.trans grownToo (ledger.size_le_access now service x), averaged, ?_⟩
    simp only [Ledger.averages, opened.tally_eq placed, same]

/-- A new table for the service has the same weights in both ledgers, and leaves them alike. -/
theorem aggregate (alike : ledger.Alike service places alone) (now : Instant)
    (candidates : List Instance) :
    ∃ wider, ledger.Widens places wider ∧
      (ledger.aggregate now service candidates).1.Alike service wider
        (alone.aggregate now service candidates).1 ∧
      (ledger.aggregate now service candidates).2 = (alone.aggregate now service candidates).2 := by
  obtain ⟨wider, grown, averaged, same⟩ := alike.averages now candidates
  have tabulated := averaged.tabulate (weightTable (alone.averages now service candidates).2)
  have table : (ledger.aggregate now service candidates).1 =
      (ledger.averages now service candidates).1.tabulate service
        (weightTable (alone.averages now service candidates).2) := by
    rw [← same]
    rfl
  exact ⟨wider, grown, table ▸ tabulated, congrArg weightTable same⟩

/-- To serve the service in a round leaves the ledgers alike, if both find the same candidates for
it. -/
theorem serve (alike : ledger.Alike service places alone) (now : Instant)
    (candidates own : String → Option (List Instance)) (same : candidates service = own service) :
    ∃ wider, ledger.Widens places wider ∧
      (ledger.serve now candidates service).Alike service wider (alone.serve now own service) := by
  have purged := alike.purge now
  unfold Ledger.serve
  rw [same]
  split
  · exact ⟨places, .refl ledger places, purged⟩
  · exact ⟨places, .refl ledger places, purged⟩
  · obtain ⟨wider, grown, aggregated, _⟩ := purged.aggregate now _
    exact ⟨wider, grown, aggregated⟩

end Weights

/-- To go through other books and to open tallies keeps off the handles that stand in places. -/
theorem free (alike : ledger.Alike service places alone) :
    Free (· ≠ service) (· ∉ places) ledger where
  led other key handle away led := (alike.apart other key handle away led).2
  new handle beyond member := Nat.not_lt_of_le beyond (alike.there handle member)

/-- What a ledger does about other books, on handles that stand for none, does not matter.

By induction over the moves. Each field that is about the service is untouched by a move about
another book, and a handle that is opened there is beyond all places, so it stands for none. -/
theorem elsewhere {now : Instant} {after : Ledger ω} (alike : ledger.Alike service places alone)
    (moves : Moves now (· ≠ service) (· ∉ places) ledger after) :
    after.Alike service places alone := by
  induction moves with
  | refl ledger => exact alike
  | trans first second before next => exact next (before alike)
  | openBook ledger other ours =>
    exact
      { alike with
        known := by
          simpa [Ledger.openBook, Registry.mem_keys_put, Ne.symm ours] using alike.known
        weights := by simpa only [book_openBook] using alike.weights
        keys := by simpa only [book_openBook] using alike.keys
        led := fun key => by simpa only [book_openBook] using alike.led key
        apart := fun another key handle away led => by
          rw [Leads, book_openBook] at led
          exact alike.apart another key handle away led }
  | openTally ledger other key ours missing =>
    have grown : (ledger.openTally now other key).1.tallies.size = ledger.tallies.size + 1 := by
      simp [Ledger.openTally]
    exact
      { alike with
        there := fun handle member => grown ▸ Nat.lt_succ_of_lt (alike.there handle member)
        known := by
          simpa [Ledger.openTally, Registry.mem_keys_put, Ne.symm ours] using alike.known
        weights := by
          simpa [Ledger.openTally, book, Registry.find?_put, ours] using alike.weights
        keys := by simpa [Ledger.openTally, book, Registry.find?_put, ours] using alike.keys
        led := fun identity => by simpa [find?_openTally, ours] using alike.led identity
        counted := fun handle own placed => by
          rw [tally?_openTally, if_neg (Nat.ne_of_lt (alike.there handle placed.mem))]
          exact alike.counted handle own placed
        apart := fun another identity handle away led => by
          rw [grown]
          rw [Leads, find?_openTally] at led
          split at led
          · obtain rfl := Option.some.inj led
            exact ⟨Nat.lt_succ_self _, fun member => Nat.lt_irrefl _ (alike.there _ member)⟩
          · obtain ⟨there, apart⟩ := alike.apart another identity handle away led
            exact ⟨Nat.lt_succ_of_lt there, apart⟩ }
  | purge ledger other ours =>
    exact
      { alike with
        known := by simpa [Ledger.purge, Registry.keys_modify] using alike.known
        weights := by simpa only [weights_purge] using alike.weights
        keys := by simpa [keys_purge, ours] using alike.keys
        led := fun key => by simpa [find?_purge, ours] using alike.led key
        apart := fun another key handle away led => by
          rw [Leads, find?_purge] at led
          split at led
          · exact alike.apart another key handle away (Option.filter_eq_some_iff.mp led).1
          · exact alike.apart another key handle away led }
  | tabulate ledger other table ours =>
    exact
      { alike with
        known := by
          simpa [Ledger.tabulate, Registry.mem_keys_put, Ne.symm ours] using alike.known
        weights := by simpa [book_tabulate, ours] using alike.weights
        keys := by simpa [book_tabulate, ours] using alike.keys
        led := fun key => by simpa [book_tabulate, ours] using alike.led key
        apart := fun another key handle away led => by
          rw [Leads, book_tabulate] at led
          split at led <;> exact alike.apart another key handle away led }
  | change ledger handle update ours keeps =>
    exact
      { alike with
        there := by simpa [Ledger.change] using alike.there
        counted := fun other own placed => by
          rw [tally?_change, if_neg fun same : handle = other => ours (same ▸ placed.mem)]
          exact alike.counted other own placed
        apart := by simpa [Ledger.change, Leads, book] using alike.apart }

end Alike

end Ledger

end CallRouting
