import CallRouting.Instance

/-!
# Filters

Before an instance is chosen, the list of a service passes through a chain of
filters in the order in which they were added. Any rewriting of a list can be a
filter; the usual one keeps the instances with a wanted metadata entry.
-/

namespace CallRouting

/-- What narrows a list of candidates; it may also reorder them or bring in others. -/
abbrev Filter := List Instance → List Instance

/-- A wanted metadata entry. Without a value, any value will do. -/
structure MetadataRule where
  key : String
  value : Option String

namespace MetadataRule

/-- The rule that a key has a certain value. -/
def equals (key value : String) : MetadataRule := ⟨key, some value⟩

/-- The rule that a key is present, with any value. -/
def present (key : String) : MetadataRule := ⟨key, none⟩

/-- Whether an instance keeps a rule. -/
def admits (rule : MetadataRule) (x : Instance) : Bool :=
  match rule.value with
  | some value => x.matchesAll [(rule.key, value)]
  | none => x.metadata.contains rule.key

/-- The filter that leaves the instances that keep a rule, in order. -/
def filter (rule : MetadataRule) : Filter := fun instances => instances.filter rule.admits

/-- A rule about a value admits whoever has that value under the key. -/
theorem admits_equals (key value : String) (x : Instance) :
    (equals key value).admits x = true ↔ x.metadata.find? key = some value := by
  simp [admits, equals, Instance.matchesAll]

/-- A rule about a key admits whoever has the key. -/
theorem admits_present (key : String) (x : Instance) :
    (present key).admits x = true ↔ (x.metadata.find? key).isSome = true := by
  simp [admits, present, Registry.contains]

end MetadataRule

/-- Pass a list through a chain of filters, the first one first. -/
def applyFilters (chain : List Filter) (instances : List Instance) : List Instance :=
  chain.foldl (fun remaining filter => filter remaining) instances

/-- Two chains one after the other narrow as one chain does. -/
theorem applyFilters_append (chain more : List Filter) (instances : List Instance) :
    applyFilters (chain ++ more) instances = applyFilters more (applyFilters chain instances) := by
  simp [applyFilters, List.foldl_append]

/-- A chain of metadata rules keeps, in order, what every rule admits. -/
theorem applyFilters_rules (rules : List MetadataRule) (instances : List Instance) :
    applyFilters (rules.map MetadataRule.filter) instances =
      instances.filter fun x => rules.all (·.admits x) := by
  induction rules generalizing instances with
  | nil => exact (List.filter_eq_self.mpr fun _ _ => rfl).symm
  | cons rule rest inductionHypothesis =>
    have step := inductionHypothesis (rule.filter instances)
    simp only [applyFilters, List.map_cons, List.foldl_cons] at step ⊢
    rw [step, MetadataRule.filter, List.filter_filter]
    congr 1
    funext x
    simp [Bool.and_comm]

end CallRouting
