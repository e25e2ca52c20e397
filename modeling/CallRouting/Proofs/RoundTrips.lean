import CallRouting.Proofs.Grammar

/-!
# Instances written as entries and read back

An instance written as a record comes back from an entry of a directory as it was, also under
its own service name if the entry stands under another one. It does not matter in which order the
fields are written, nor the entries of the metadata.

Written as the address of its ip it comes back as an instance of the service under which it
stands, with the same ip and port, and nothing else is known of it. So the address of the ip tells
the ip and the port.
-/

namespace CallRouting

namespace Data

/-- With no name twice, a field is found exactly if it is there. -/
theorem field?_eq_some_iff (name : String) (value : Data) (fields : List (String × Data))
    (distinct : (fields.map Prod.fst).Nodup) :
    field? name fields = some value ↔ (name, value) ∈ fields := by
  constructor
  · exact mem_of_field? name value fields
  · intro member
    induction fields with
    | nil => cases member
    | cons entry rest inductionHypothesis =>
      obtain ⟨n, v⟩ := entry
      obtain ⟨new, distinct⟩ := List.nodup_cons.mp distinct
      rcases List.mem_cons.mp member with here | later
      · obtain ⟨rfl, rfl⟩ := Prod.mk.inj here
        rw [field?, if_pos rfl]
      · have named : name ∈ rest.map Prod.fst := List.mem_map_of_mem later
        have other : n ≠ name := fun same => new (same ▸ named)
        rw [field?, if_neg other, inductionHypothesis distinct later]

/-- With no name twice, the order of the fields does not matter. -/
theorem field?_eq_of_perm {fields others : List (String × Data)} (order : fields.Perm others)
    (distinct : (others.map Prod.fst).Nodup) (name : String) :
    field? name fields = field? name others := by
  have distinct' : (fields.map Prod.fst).Nodup := (order.map Prod.fst).nodup_iff.mpr distinct
  ext value
  rw [field?_eq_some_iff name value fields distinct', field?_eq_some_iff name value others distinct,
    order.mem_iff]

/-- In which order the fields stand does not matter to whether a record is unambiguous. -/
theorem Unambiguous.of_perm {fields others : List (String × Data)} (order : fields.Perm others)
    (clear : (Data.record others).Unambiguous) : (Data.record fields).Unambiguous := by
  rw [unambiguous_record_iff] at clear ⊢
  constructor
  · exact (order.map Prod.fst).nodup_iff.mpr clear.1
  · intro field member
    exact clear.2 field (order.mem_iff.mp member)

end Data

namespace Instance

/-- The fields with which an instance is written. -/
def fields (x : Instance) : List (String × Data) :=
  ("host", .text x.host) ::
    (match x.id with
      | some id => [("id", Data.text id)]
      | none => []) ++
    [("ip", .text x.ip), ("metadata", .ofTexts x.metadata), ("port", .integer x.port.toNat),
      ("service_name", .text x.service)]

/-- An instance is written as the record of its fields. -/
theorem toData_eq (x : Instance) : x.toData = .record x.fields := by
  cases id : x.id <;> simp [toData, fields, Data.ofTexts, id]

/-- No field of an instance is written twice. -/
theorem fields_names_nodup (x : Instance) : (x.fields.map Prod.fst).Nodup := by
  cases id : x.id <;> simp [fields, id]

/-- The record that is written of an instance is unambiguous, its metadata included. -/
theorem fields_unambiguous (x : Instance) : (Data.record x.fields).Unambiguous := by
  have metadata : (Data.ofTexts x.metadata).Unambiguous := by
    rw [Data.ofTexts, Data.unambiguous_record_iff]
    constructor
    · rw [List.map_map]
      exact x.metadata.distinct
    · intro field member
      obtain ⟨entry, -, rfl⟩ := List.mem_map.mp member
      exact .text entry.2
  rw [Data.unambiguous_record_iff]
  refine ⟨x.fields_names_nodup, ?_⟩
  cases id : x.id <;>
    simp [fields, id, metadata, Data.Unambiguous.text, Data.Unambiguous.integer]

end Instance

/-- An instance is what its own fields say, whatever the service. -/
theorem states_fields (service : String) (x : Instance) : States service x.fields x := by
  cases id : x.id
  all_goals
    constructor <;> simp [Instance.fields, Data.field?, id, Data.ofOptionalText]

/-- Whether a record is one of those that an instance may be written as: its fields stand in
any order, and so do its metadata. -/
def Writes (x : Instance) (data : Data) : Prop :=
  ∃ metadata fields, (∀ key, metadata.find? key = x.metadata.find? key) ∧
    fields.Perm { x with metadata }.fields ∧ data = .record fields

namespace Directory

/-- The fields of an instance are read to it in any order. -/
theorem readEntry_of_perm (service : String) (x : Instance) (fields : List (String × Data))
    (order : fields.Perm x.fields) : readEntry service (.record fields) = .ok x := by
  rw [readEntry_eq_ok_iff service _ (x.fields_unambiguous.of_perm order)]
  have same := Data.field?_eq_of_perm order x.fields_names_nodup
  have own := states_fields service x
  rw [states_iff] at own
  refine .record fields x ?_
  rw [states_iff]
  simpa only [same] using own

/-- The address of the ip is the text of a place. -/
theorem address_eq_text (x : Instance) :
    x.address true = (Identity.located x.ip x.port).text := by
  simp [Instance.address, Identity.text]

/-- An address is read back to its ip and port: the port is behind the last colon, whatever
colons the ip has. -/
theorem readEntry_address (service : String) (x : Instance) :
    readEntry service (.text (x.address true)) = .ok (.ofAddress service x.ip x.port) := by
  rw [readEntry, readAddress_eq_ok_iff]
  refine ⟨x.ip, Nat.toDigits 10 x.port.toNat, x.port, ?_, spellsPort_digits x.port, rfl⟩
  apply String.toList_inj.mp
  rw [address_eq_text, Identity.toList_text_located]
  simp

/-- An instance written as a record, in any order, comes back with all that it has: its own
service name, id, host, ip, port and metadata. Written as the address of its ip it comes back as
an instance of the service with that ip, also as the host, and that port, without id or metadata.
And the addresses of two instances by their ips are equal just if the ips and the ports are.

What a record is read to depends on its fields only by name, so their order does not matter.
The port of an address is what stands behind its last colon, for digits are no colons. -/
theorem readEntry_inverts_writing (x y : Instance) (service : String) :
    readEntry service x.toData = .ok x ∧
    (∀ data, Writes x data → ∃ read, readEntry service data = .ok read ∧
      read.service = x.service ∧ read.id = x.id ∧ read.host = x.host ∧ read.ip = x.ip ∧
      read.port = x.port ∧ ∀ key, read.metadata.find? key = x.metadata.find? key) ∧
    readEntry service (.text (x.address true)) =
      .ok { service, id := none, host := x.ip, ip := x.ip, port := x.port, metadata := ∅ } ∧
    (x.address true = y.address true ↔ x.ip = y.ip ∧ x.port = y.port) := by
  refine ⟨?_, ?_, readEntry_address service x, ?_⟩
  · rw [x.toData_eq]
    exact readEntry_of_perm service x x.fields (.refl _)
  · rintro _ ⟨metadata, fields, same, order, rfl⟩
    exact ⟨_, readEntry_of_perm service _ fields order, rfl, rfl, rfl, rfl, rfl, same⟩
  · constructor
    · intro equal
      rw [address_eq_text, address_eq_text] at equal
      exact (Identity.located.injEq ..).mp (Identity.located_of_text_eq equal)
    · rintro ⟨ips, ports⟩
      rw [address_eq_text, address_eq_text, ips, ports]

/-- An instance without an id at an ip with colons, which knows two things of itself. -/
def colonInstance : Instance :=
  { service := "order", id := none, host := "order-1", ip := "fe80::1", port := 8080,
    metadata := .ofList [("zone", "a"), ("version", "2")] }

/-- One of its records: the fields and the metadata stand in another order. -/
def colonRecord : Data :=
  .record [("service_name", .text "order"), ("host", .text "order-1"), ("ip", .text "fe80::1"),
    ("metadata", .record [("version", .text "2"), ("zone", .text "a")]), ("port", .integer 8080)]

/-- The law at work on an ip with colons, in both forms. -/
theorem readEntry_inverts_writing_colon :
    Writes colonInstance colonRecord ∧
    (∃ read, readEntry "stock" colonRecord = .ok read ∧ read.service = "order" ∧
      read.id = none ∧ read.metadata.find? "zone" = some "a") ∧
    readEntry "stock" (.text "fe80::1:8080") =
      .ok { service := "stock", id := none, host := "fe80::1", ip := "fe80::1", port := 8080,
            metadata := ∅ } := by
  -- The record has the fields of the instance in another order, and its metadata as well.
  have writes : Writes colonInstance colonRecord := by
    refine ⟨.ofList [("version", "2"), ("zone", "a")], _, ?_, ?_, rfl⟩
    · intro key
      simp only [colonInstance, Registry.ofList, List.foldl, Registry.find?_put,
        Registry.find?_empty]
      split
      · rename_i zone
        simp [← zone]
      · rfl
    · have metadata := Registry.entries_ofList [("version", "2"), ("zone", "a")] (by decide)
      simp only [Instance.fields, colonInstance, Data.ofTexts, metadata]
      exact (List.perm_append_singleton ("service_name", Data.text "order") [_, _, _, _]).symm
  obtain ⟨-, inAnyOrder, asAddress, -⟩ :=
    readEntry_inverts_writing colonInstance colonInstance "stock"
  obtain ⟨read, made, service, id, -, -, -, metadata⟩ := inAnyOrder colonRecord writes
  exact ⟨writes, ⟨read, made, service, id, metadata "zone"⟩, asAddress⟩

end Directory

end CallRouting
