import CallRouting.Instance.Reading
import Mathlib.Data.List.Forall2
import Mathlib.Data.List.Nodup

/-!
# Reading records

A reader takes a value exactly if it has the shape that the reader expects. A record in which no
name stands twice is read by its names: it does not matter in which order the fields come, and
fields of other names are passed over.

The fields of a record of texts, and the services of a table, become a registry one by one. What
comes out has the same names in the same order.
-/

namespace CallRouting

/-- A step that may fail comes to a result if its first part does and then the rest. -/
theorem bind_eq_ok_iff {ε α β : Type} (first : Except ε α) (rest : α → Except ε β) (result : β) :
    first >>= rest = .ok result ↔ ∃ value, first = .ok value ∧ rest value = .ok result := by
  cases first with
  | error cause => simp [bind, Except.bind]
  | ok value => simp [bind, Except.bind]

/-- What is read and then changed is the change of what was read. -/
theorem map_eq_ok_iff {ε α β : Type} (first : Except ε α) (change : α → β) (result : β) :
    change <$> first = .ok result ↔ ∃ value, first = .ok value ∧ change value = result := by
  cases first with
  | error cause => simp [Functor.map, Except.map]
  | ok value => simp [Functor.map, Except.map]

/-- A list is read if each of its items is, and to what these are read to. -/
theorem mapM_eq_ok_iff {ε α β : Type} (reader : α → Except ε β) (items : List α)
    (results : List β) :
    items.mapM reader = .ok results ↔
      List.Forall₂ (fun item result => reader item = .ok result) items results := by
  induction items generalizing results with
  | nil =>
    rw [List.mapM_nil, List.forall₂_nil_left_iff]
    exact ⟨fun same => (Except.ok.inj same).symm, fun same => congrArg Except.ok same.symm⟩
  | cons item rest inductionHypothesis =>
    rw [List.mapM_cons, bind_eq_ok_iff, List.forall₂_cons_left_iff]
    constructor
    · rintro ⟨result, read, later⟩
      obtain ⟨results', others, whole⟩ := (bind_eq_ok_iff _ _ _).mp later
      exact ⟨result, results', read, (inductionHypothesis results').mp others,
        (Except.ok.inj whole).symm⟩
    · rintro ⟨result, results', read, others, rfl⟩
      refine ⟨result, read, (bind_eq_ok_iff _ _ _).mpr ⟨results', ?_, rfl⟩⟩
      exact (inductionHypothesis results').mpr others

/-- Relations that are the same on the items of a list pair it with the same results. -/
theorem forall₂_congr_of_mem {α β : Type} {relation other : α → β → Prop} (items : List α)
    (results : List β)
    (same : ∀ item ∈ items, ∀ result, relation item result ↔ other item result) :
    List.Forall₂ relation items results ↔ List.Forall₂ other items results := by
  induction items generalizing results with
  | nil => simp only [List.forall₂_nil_left_iff]
  | cons item rest inductionHypothesis =>
    obtain ⟨first, later⟩ := List.forall_mem_cons.mp same
    simp only [List.forall₂_cons_left_iff, first, inductionHypothesis _ later]

/-- Each item of a list has a result to which it is related. -/
theorem exists_mem_of_forall₂ {α β : Type} {relation : α → β → Prop} {items : List α}
    {results : List β} (all : List.Forall₂ relation items results) (item : α)
    (member : item ∈ items) : ∃ result ∈ results, relation item result := by
  induction all with
  | nil => cases member
  | cons first _ inductionHypothesis =>
    rcases List.mem_cons.mp member with rfl | later
    · exact ⟨_, List.mem_cons_self, first⟩
    · obtain ⟨result, inside, related⟩ := inductionHypothesis later
      exact ⟨result, List.mem_cons_of_mem _ inside, related⟩

/-- There are results for a list if there is one for each of its items. -/
theorem exists_forall₂_iff {α β : Type} (relation : α → β → Prop) (items : List α) :
    (∃ results, List.Forall₂ relation items results) ↔
      ∀ item ∈ items, ∃ result, relation item result := by
  constructor
  · rintro ⟨results, all⟩ item member
    obtain ⟨result, -, related⟩ := exists_mem_of_forall₂ all item member
    exact ⟨result, related⟩
  · intro each
    induction items with
    | nil => exact ⟨[], .nil⟩
    | cons item rest inductionHypothesis =>
      obtain ⟨⟨result, first⟩, later⟩ := List.forall_mem_cons.mp each
      obtain ⟨results, others⟩ := inductionHypothesis later
      exact ⟨result :: results, .cons first others⟩

namespace Registry

variable {ε ν μ : Type}

/-- Named entries are read one by one into a registry that does not know the names yet. That
succeeds exactly if each value is read, and the registry then has the read values at its end,
under their names and in their order. -/
theorem foldlM_put_eq_ok_iff (reader : String → ν → Except ε μ) (entries : List (String × ν))
    (start result : Registry String μ)
    (distinct : (start.keys ++ entries.map Prod.fst).Nodup) :
    entries.foldlM (fun registry entry => (registry.put entry.1 ·) <$> reader entry.1 entry.2)
        start = .ok result ↔
      ∃ read, result.entries = start.entries ++ read ∧
        List.Forall₂ (fun entry pair => pair.1 = entry.1 ∧ reader entry.1 entry.2 = .ok pair.2)
          entries read := by
  induction entries generalizing start with
  | nil =>
    rw [List.foldlM_nil]
    constructor
    · rintro ⟨⟩
      exact ⟨[], (List.append_nil _).symm, .nil⟩
    · rintro ⟨read, same, nothing⟩
      rw [List.forall₂_nil_left_iff.mp nothing, List.append_nil] at same
      exact congrArg Except.ok (Registry.mk.injEq _ _ _ _ ▸ same.symm)
  | cons entry rest inductionHypothesis =>
    obtain ⟨name, data⟩ := entry
    have new : name ∉ start.keys := by
      intro old
      exact (List.nodup_append.mp distinct).2.2 name old name List.mem_cons_self rfl
    have further (value : μ) : ((start.put name value).keys ++ rest.map Prod.fst).Nodup := by
      rw [keys_put, if_neg new, List.append_assoc]
      exact distinct
    rw [List.foldlM_cons, bind_eq_ok_iff]
    constructor
    · rintro ⟨next, stepped, later⟩
      obtain ⟨value, first, rfl⟩ := (map_eq_ok_iff _ _ _).mp stepped
      obtain ⟨read, whole, others⟩ := (inductionHypothesis _ (further value)).mp later
      rw [entries_put_of_new _ _ _ new, List.append_assoc] at whole
      exact ⟨(name, value) :: read, whole, .cons ⟨rfl, first⟩ others⟩
    · rintro ⟨read, whole, all⟩
      obtain ⟨⟨name', value⟩, read, ⟨rfl, first⟩, others, rfl⟩ :=
        List.forall₂_cons_left_iff.mp all
      refine ⟨_, (map_eq_ok_iff _ _ _).mpr ⟨value, first, rfl⟩, ?_⟩
      refine (inductionHypothesis _ (further value)).mpr ⟨read, ?_, others⟩
      rw [entries_put_of_new _ _ _ new, List.append_assoc]
      exact whole

end Registry

namespace Data

/-- Only a text is read as one. -/
theorem readText_eq_ok_iff (data : Data) (value : String) :
    data.readText = .ok value ↔ data = .text value := by
  cases data <;> simp [readText]

/-- How a text that may be missing is written. -/
def ofOptionalText : Option String → Data
  | none => .null
  | some value => .text value

/-- A text that may be missing is read from a text, or from null. -/
theorem readOptionalText_eq_ok_iff (data : Data) (value : Option String) :
    data.readOptionalText = .ok value ↔ data = ofOptionalText value := by
  cases data <;> cases value <;> simp [readOptionalText, ofOptionalText, readText, Except.map]

/-- A port is read from an integer that fits into 16 bits. -/
theorem readPort_eq_ok_iff (data : Data) (port : UInt16) :
    data.readPort = .ok port ↔ data = .integer port.toNat := by
  have bound := port.toNat_lt
  unfold readPort
  cases data with
  | integer value =>
    simp only [readInteger, integer.injEq]
    split
    · rename_i inside
      rw [Except.map, Except.ok.injEq]
      constructor
      · rintro rfl
        -- The number was checked to fit, so the port has the same value.
        have fits : value.toNat < UInt16.size := by
          rw [UInt16.size]
          omega
        rw [UInt16.toNat_ofNat_of_lt' fits]
        omega
      · rintro rfl
        exact UInt16.ofNat_toNat
    · rename_i outside
      simp only [Except.map, reduceCtorEq, false_iff]
      omega
  | _ => simp [readInteger, Except.map]

/-- How named texts are written. -/
def ofTexts (texts : Registry String String) : Data :=
  .record (texts.entries.map fun entry => (entry.1, .text entry.2))

/-- A record of texts is read to the registry of its fields, as long as no name is there twice.

Each field is read to the entry that it was written from, so the fields are those of the registry
in their order. -/
theorem readTexts_eq_ok_iff (data : Data) (texts : Registry String String)
    (distinct : ∀ fields, data = .record fields → (fields.map Prod.fst).Nodup) :
    data.readTexts = .ok texts ↔ data = ofTexts texts := by
  cases data with
  | record fields =>
    have one (field : String × Data) (entry : String × String) :
        (entry.1 = field.1 ∧ field.2.readText = .ok entry.2) ↔
          field = (entry.1, .text entry.2) := by
      rw [readText_eq_ok_iff, Prod.ext_iff, eq_comm]
    have all := Registry.foldlM_put_eq_ok_iff (fun _ data => data.readText) fields ∅ texts
      (distinct fields rfl)
    have written : List.Forall₂ (fun field entry => field = (entry.1, .text entry.2)) fields
        texts.entries ↔ fields = texts.entries.map fun entry => (entry.1, .text entry.2) := by
      rw [← List.forall₂_map_right_iff, List.forall₂_eq_eq_eq]
    rw [readTexts, all, ofTexts, record.injEq, ← written]
    simp only [one]
    constructor
    · rintro ⟨read, whole, each⟩
      exact whole ▸ each
    · intro each
      exact ⟨texts.entries, rfl, each⟩
  | _ => simp [readTexts, ofTexts]

/-- No value is found just if no field has the name. -/
theorem field?_eq_none_iff (name : String) (fields : List (String × Data)) :
    field? name fields = none ↔ name ∉ fields.map Prod.fst := by
  induction fields with
  | nil => simp [field?]
  | cons entry rest inductionHypothesis =>
    obtain ⟨n, v⟩ := entry
    by_cases same : n = name
    · simp [field?, same]
    · simp [field?, same, Ne.symm same, inductionHypothesis]

/-- A value that is found is that of a field. -/
theorem mem_of_field? (name : String) (value : Data) (fields : List (String × Data))
    (found : field? name fields = some value) : (name, value) ∈ fields := by
  induction fields with
  | nil => cases found
  | cons entry rest inductionHypothesis =>
    obtain ⟨n, v⟩ := entry
    by_cases same : n = name
    · rw [field?, if_pos same] at found
      rw [same, Option.some.inj found]
      exact List.mem_cons_self
    · rw [field?, if_neg same] at found
      exact List.mem_cons_of_mem _ (inductionHypothesis found)

/-- A further field has its own name beside the others. -/
theorem insertField_names_perm (name : String) (value : Data) (fields : List (String × Data))
    (new : name ∉ fields.map Prod.fst) :
    ((insertField name value fields).map Prod.fst).Perm (name :: fields.map Prod.fst) := by
  induction fields with
  | nil => exact .refl _
  | cons entry rest inductionHypothesis =>
    obtain ⟨n, v⟩ := entry
    obtain ⟨other, later⟩ := List.ne_and_not_mem_of_not_mem_cons new
    rw [insertField, if_neg other]
    split
    · exact .refl _
    · exact ((inductionHypothesis later).cons n).trans (.swap name n _)

/-- A field that is new leaves the names different. -/
theorem insertField_names_nodup (name : String) (value : Data) (fields : List (String × Data))
    (new : field? name fields = none) (distinct : (fields.map Prod.fst).Nodup) :
    ((insertField name value fields).map Prod.fst).Nodup := by
  have absent := (field?_eq_none_iff name fields).mp new
  rw [(insertField_names_perm name value fields absent).nodup_iff]
  exact List.nodup_cons.mpr ⟨absent, distinct⟩

/-- What a field comes to: what is read of it, or the default if it is not there. -/
def Gives {α : Type} (reader : Data → Except ReadError α) (default : α) (field : Option Data)
    (value : α) : Prop :=
  match field with
  | some data => reader data = .ok value
  | none => default = value

/-- With names that do not come again, a field comes to the same if it is looked up in the
first field and then in the others. -/
theorem gives_cons_iff {α : Type} (reader : Data → Except ReadError α) (default : α)
    (name other : String) (data : Data) (rest : List (String × Data)) (value : α)
    (new : other ∉ rest.map Prod.fst) :
    Gives reader default (field? name ((other, data) :: rest)) value ↔
      ∃ next, Gives reader default (field? name [(other, data)]) next ∧
        Gives reader next (field? name rest) value := by
  by_cases same : other = name
  · subst same
    simp only [field?, if_true, Gives, (field?_eq_none_iff _ _).mpr new, exists_eq_right]
  · simp only [field?, same, if_false, Gives, exists_eq_left']

/-- A field that must be there gives a value just if it is there and is read to it: -/
theorem gives_required_iff {α : Type} (reader : Data → Except ReadError α) (field : Option Data)
    (value : α) :
    Gives (some <$> reader ·) none field (some value) ↔
      ∃ data, field = some data ∧ reader data = .ok value := by
  cases field with
  | none => simp [Gives]
  | some data => simp [Gives, map_eq_ok_iff]

/-- A text that must be there is given just if the field is that text. -/
theorem gives_text_iff (field : Option Data) (value : String) :
    Gives (some <$> readText ·) none field (some value) ↔ field = some (.text value) := by
  simp only [gives_required_iff, readText_eq_ok_iff, exists_eq_right]

/-- A port that must be there is given just if the field is the integer of that port. -/
theorem gives_port_iff (field : Option Data) (port : UInt16) :
    Gives (some <$> readPort ·) none field (some port) ↔ field = some (.integer port.toNat) := by
  simp only [gives_required_iff, readPort_eq_ok_iff, exists_eq_right]

/-- A text that may be missing comes to nothing if it is null or not there. -/
theorem gives_optionalText_iff (field : Option Data) (value : Option String) :
    Gives readOptionalText none field value ↔ field.getD .null = ofOptionalText value := by
  cases field with
  | none => cases value <;> simp [Gives, ofOptionalText]
  | some data => exact readOptionalText_eq_ok_iff data value

/-- Named texts come to none of them if they are not there. -/
theorem gives_texts_iff (field : Option Data) (texts : Registry String String)
    (distinct : ∀ fields, field = some (.record fields) → (fields.map Prod.fst).Nodup) :
    Gives readTexts ∅ field texts ↔ field.getD (.record []) = ofTexts texts := by
  cases field with
  | none =>
    have nothing := readTexts_eq_ok_iff (.record []) texts fun fields same =>
      (record.inj same) ▸ List.nodup_nil
    simp only [Option.getD_none, ← nothing]
    exact ⟨fun same => congrArg Except.ok same, fun same => Except.ok.inj same⟩
  | some data =>
    exact readTexts_eq_ok_iff data texts fun fields same => distinct fields (congrArg some same)

end Data

end CallRouting
