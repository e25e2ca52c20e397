/-!
# Registries

A registry maps keys to values and remembers the order in which its keys first
came in. Setting a key that is present changes its value and keeps its place;
setting a new one puts it last. No key occurs twice: the type carries the proof.

Four equations describe everything else: what `find?` gives after `put`, `erase`
and `retain`, and which keys `put` leaves.
-/

namespace CallRouting

/-- Entries in the order in which their keys came in, no key twice. -/
structure Registry (κ ν : Type) where
  entries : List (κ × ν)
  distinct : (entries.map Prod.fst).Nodup

namespace Registry

variable {κ ν : Type}

/-- The keys in the order in which they came in. -/
def keys (registry : Registry κ ν) : List κ := registry.entries.map Prod.fst

/-- The values in the order of their keys. -/
def values (registry : Registry κ ν) : List ν := registry.entries.map Prod.snd

/-- How many entries there are. -/
def size (registry : Registry κ ν) : Nat := registry.entries.length

instance : EmptyCollection (Registry κ ν) := ⟨[], List.nodup_nil⟩

instance : Inhabited (Registry κ ν) := ⟨∅⟩

/-- The empty registry has no keys. -/
theorem keys_empty : (∅ : Registry κ ν).keys = [] := rfl

/-- There are as many entries as keys. -/
theorem size_eq (registry : Registry κ ν) : registry.size = registry.keys.length := by
  simp [size, keys]

/-- The entries whose values and keys pass a test. -/
def retain (registry : Registry κ ν) (keep : κ → ν → Bool) : Registry κ ν :=
  ⟨registry.entries.filter fun entry => keep entry.1 entry.2,
    registry.distinct.sublist (List.Sublist.map _ List.filter_sublist)⟩

variable [DecidableEq κ]

/-- The value of a key, if it is present. -/
def find? (registry : Registry κ ν) (key : κ) : Option ν := registry.entries.lookup key

/-- Whether a key is present. -/
def contains (registry : Registry κ ν) (key : κ) : Bool := (registry.find? key).isSome

/-- The entries with one key set: in its place if it is present, else at the end. -/
private def set (key : κ) (value : ν) : List (κ × ν) → List (κ × ν)
  | [] => [(key, value)]
  | (k, v) :: rest => if k = key then (key, value) :: rest else (k, v) :: set key value rest

/-- Setting a key that is present leaves the keys, and a new one comes in last. -/
private theorem keys_set (key : κ) (value : ν) (entries : List (κ × ν)) :
    (set key value entries).map Prod.fst =
      if key ∈ entries.map Prod.fst then entries.map Prod.fst
      else entries.map Prod.fst ++ [key] := by
  induction entries with
  | nil => rfl
  | cons entry rest inductionHypothesis =>
    obtain ⟨k, v⟩ := entry
    by_cases same : k = key
    · simp [set, same]
    · by_cases later : key ∈ rest.map Prod.fst
      · simp only [set, same, if_false, List.map_cons, inductionHypothesis, later, if_true,
          List.mem_cons, or_true]
      · simp only [set, same, if_false, List.map_cons, inductionHypothesis, later,
          List.mem_cons, or_false, Ne.symm same, List.cons_append]

/-- The registry with one key set. -/
def put (registry : Registry κ ν) (key : κ) (value : ν) : Registry κ ν :=
  ⟨set key value registry.entries, by
    rw [keys_set]
    split
    · exact registry.distinct
    · rename_i absent
      refine List.nodup_append.mpr ⟨registry.distinct, by simp, ?_⟩
      intro a member b last same
      rw [List.mem_singleton.mp last] at same
      exact absent (same ▸ member)⟩

/-- Putting a key that is present leaves the keys, and a new one comes in last. -/
theorem keys_put (registry : Registry κ ν) (key : κ) (value : ν) :
    (registry.put key value).keys =
      if key ∈ registry.keys then registry.keys else registry.keys ++ [key] :=
  keys_set key value registry.entries

/-- Putting a key adds it to those that are present, and no other one. -/
theorem mem_keys_put (registry : Registry κ ν) (key other : κ) (value : ν) :
    other ∈ (registry.put key value).keys ↔ other ∈ registry.keys ∨ other = key := by
  rw [keys_put]
  split
  · rename_i present
    exact ⟨.inl, fun either => either.elim id fun same => same ▸ present⟩
  · simp

/-- A new key is set at the end. -/
private theorem set_of_new (key : κ) (value : ν) (entries : List (κ × ν))
    (new : key ∉ entries.map Prod.fst) : set key value entries = entries ++ [(key, value)] := by
  induction entries with
  | nil => rfl
  | cons entry rest inductionHypothesis =>
    obtain ⟨k, v⟩ := entry
    obtain ⟨other, later⟩ := not_or.mp fun either => new (List.mem_cons.mpr either)
    rw [set, if_neg (Ne.symm other), inductionHypothesis later, List.cons_append]

/-- A new key comes in last. -/
theorem entries_put_of_new (registry : Registry κ ν) (key : κ) (value : ν)
    (new : key ∉ registry.keys) :
    (registry.put key value).entries = registry.entries ++ [(key, value)] :=
  set_of_new key value registry.entries new

/-- A registry grows by one when a new key comes in. -/
theorem size_put (registry : Registry κ ν) (key : κ) (value : ν) :
    (registry.put key value).size =
      if key ∈ registry.keys then registry.size else registry.size + 1 := by
  simp only [size_eq, keys_put]
  split <;> simp

/-- The registry without one key. -/
def erase (registry : Registry κ ν) (key : κ) : Registry κ ν := registry.retain fun k _ => k ≠ key

/-- The registry with the value of one key changed, if the key is present. -/
def modify (registry : Registry κ ν) (key : κ) (change : ν → ν) : Registry κ ν :=
  match registry.find? key with
  | some value => registry.put key (change value)
  | none => registry

/-- The registry of some entries; of those with one key the last one counts, in the first one's
place. -/
def ofList (entries : List (κ × ν)) : Registry κ ν :=
  entries.foldl (fun registry entry => registry.put entry.1 entry.2) ∅

/-- Nothing is found in the empty registry. -/
theorem find?_empty (key : κ) : (∅ : Registry κ ν).find? key = none := rfl

/-- A key leads to the first entry that has it. -/
private theorem lookup_cons_if (key k : κ) (v : ν) (rest : List (κ × ν)) :
    ((k, v) :: rest).lookup key = if k = key then some v else rest.lookup key := by
  by_cases same : key = k
  · simp [same]
  · simp [List.lookup_cons, beq_false_of_ne same, Ne.symm same]

/-- A key that was put is found with its value, and any other one as before. -/
theorem find?_put (registry : Registry κ ν) (key other : κ) (value : ν) :
    (registry.put key value).find? other =
      if key = other then some value else registry.find? other := by
  suffices general : ∀ entries : List (κ × ν),
      (set key value entries).lookup other =
        if key = other then some value else entries.lookup other
    from general registry.entries
  intro entries
  induction entries with
  | nil => simp [set, lookup_cons_if]
  | cons entry rest inductionHypothesis =>
    obtain ⟨k, v⟩ := entry
    by_cases same : k = key
    · subst same
      by_cases hit : k = other <;> simp [set, lookup_cons_if, hit]
    · by_cases hit : k = other
      · subst hit
        simp [set, same, Ne.symm same]
      · simp [set, lookup_cons_if, same, hit, inductionHypothesis]

/-- A key is found unless it is absent. -/
theorem find?_eq_none_iff (registry : Registry κ ν) (key : κ) :
    registry.find? key = none ↔ key ∉ registry.keys := by
  rw [find?, List.lookup_eq_none_iff, keys, List.mem_map, not_exists]
  refine forall_congr' fun entry => ?_
  rw [not_and, bne_iff_ne]
  exact imp_congr_right fun _ => ne_comm

/-- A registry contains just its keys. -/
theorem contains_iff (registry : Registry κ ν) (key : κ) :
    registry.contains key = true ↔ key ∈ registry.keys := by
  unfold contains
  rw [← Decidable.not_iff_not, ← registry.find?_eq_none_iff, Option.not_isSome_iff_eq_none]

/-- A key that is found is one of the keys. -/
theorem mem_keys_of_find? (registry : Registry κ ν) (key : κ) (value : ν)
    (found : registry.find? key = some value) : key ∈ registry.keys := by
  rw [← contains_iff, contains, found]
  rfl

/-- A key is found in what is retained if its value passes the test. That needs the keys to be
distinct: a later entry with the same key cannot come to light. -/
theorem find?_retain (registry : Registry κ ν) (keep : κ → ν → Bool) (key : κ) :
    (registry.retain keep).find? key = (registry.find? key).filter (keep key) := by
  suffices general : ∀ entries : List (κ × ν), (entries.map Prod.fst).Nodup →
      (entries.filter fun entry => keep entry.1 entry.2).lookup key =
        (entries.lookup key).filter (keep key)
    from general registry.entries registry.distinct
  intro entries distinct
  induction entries with
  | nil => rfl
  | cons entry rest inductionHypothesis =>
    obtain ⟨k, v⟩ := entry
    obtain ⟨fresh, distinct⟩ := List.nodup_cons.mp distinct
    have inner := inductionHypothesis distinct
    by_cases same : k = key
    · subst same
      by_cases kept : keep k v = true
      · simp [kept, Option.filter]
      · have absent : rest.lookup k = none :=
          List.lookup_eq_none_iff.mpr fun entry member => bne_iff_ne.mpr fun same =>
            fresh (List.mem_map.mpr ⟨entry, member, same.symm⟩)
        simp [kept, inner, absent, Option.filter]
    · by_cases kept : keep k v = true <;> simp [lookup_cons_if, kept, same, inner]

/-- A key leads to its entry. -/
theorem find?_of_mem (registry : Registry κ ν) (key : κ) (value : ν)
    (member : (key, value) ∈ registry.entries) : registry.find? key = some value := by
  obtain ⟨before, after, parts⟩ := List.append_of_mem member
  refine List.lookup_eq_some_iff.mpr ⟨before, after, parts, fun entry earlier => ?_⟩
  have distinct := registry.distinct
  rw [parts, List.map_append, List.nodup_append] at distinct
  have differs := distinct.2.2 _ (List.mem_map_of_mem earlier) key List.mem_cons_self
  simpa using differs.symm

/-- An erased key is not found, and any other one as before. -/
theorem find?_erase (registry : Registry κ ν) (key other : κ) :
    (registry.erase key).find? other = if other = key then none else registry.find? other := by
  unfold erase
  rw [find?_retain]
  by_cases same : other = key
  · simp [same]
  · cases registry.find? other <;> simp [same, Option.filter]

/-- A change of a value leaves the keys. -/
theorem keys_modify (registry : Registry κ ν) (key : κ) (change : ν → ν) :
    (registry.modify key change).keys = registry.keys := by
  unfold modify
  cases found : registry.find? key with
  | none => rfl
  | some value =>
    have present := registry.mem_keys_of_find? key value found
    exact (registry.keys_put key (change value)).trans (if_pos present)

/-- A key that is changed is found with its changed value, and any other one as before. -/
theorem find?_modify (registry : Registry κ ν) (key other : κ) (change : ν → ν) :
    (registry.modify key change).find? other =
      if key = other then (registry.find? other).map change else registry.find? other := by
  unfold modify
  by_cases same : key = other
  · subst same
    cases found : registry.find? key with
    | none => simp [found]
    | some value => simp [find?_put]
  · cases registry.find? key with
    | none => simp [same]
    | some value => simp [find?_put, same]

end Registry

end CallRouting
