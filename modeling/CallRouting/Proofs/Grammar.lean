import CallRouting.Proofs.Addresses
import CallRouting.Proofs.Records

/-!
# What settings of a directory are accepted

The settings of a directory are accepted exactly if they follow a grammar. The services, if
there are any, stand in a table. Each of them is a list of entries, and each entry is an address
or the record of an instance, in which the name of the service and the host may be missing. The
directory then lists one instance for each entry, in order, and nobody is registered with it.
Anything else in any place of the table spoils the whole.

No record in settings names a field twice, as the fields of a record stand under their names.
-/

namespace CallRouting

/-- Values in which no record names a field twice. -/
inductive Data.Unambiguous : Data → Prop
  | null : Unambiguous .null
  | boolean (value : Bool) : Unambiguous (.boolean value)
  | integer (value : Int) : Unambiguous (.integer value)
  | number (value : Float) : Unambiguous (.number value)
  | text (value : String) : Unambiguous (.text value)
  | list (items : List Data) (inside : ∀ item ∈ items, Unambiguous item) :
    Unambiguous (.list items)
  | record (fields : List (String × Data)) (distinct : (fields.map Prod.fst).Nodup)
      (inside : ∀ field ∈ fields, Unambiguous field.2) : Unambiguous (.record fields)

namespace Data

/-- A record is unambiguous if its names differ and its values are unambiguous. -/
theorem unambiguous_record_iff (fields : List (String × Data)) :
    (record fields).Unambiguous ↔
      (fields.map Prod.fst).Nodup ∧ ∀ field ∈ fields, field.2.Unambiguous := by
  constructor
  · rintro ⟨⟩
    exact ⟨‹_›, ‹_›⟩
  · rintro ⟨distinct, inside⟩
    exact .record fields distinct inside

/-- A list is unambiguous if its items are. -/
theorem unambiguous_list_iff (items : List Data) :
    (list items).Unambiguous ↔ ∀ item ∈ items, item.Unambiguous := by
  constructor
  · rintro ⟨⟩
    assumption
  · exact .list items

/-- The names in an unambiguous record differ. -/
theorem Unambiguous.names_nodup {fields : List (String × Data)}
    (clear : (Data.record fields).Unambiguous) : (fields.map Prod.fst).Nodup :=
  ((unambiguous_record_iff fields).mp clear).1

/-- The values in an unambiguous record are unambiguous. -/
theorem Unambiguous.of_mem {fields : List (String × Data)} {name : String} {value : Data}
    (clear : (Data.record fields).Unambiguous) (member : (name, value) ∈ fields) :
    value.Unambiguous :=
  ((unambiguous_record_iff fields).mp clear).2 (name, value) member

/-- A value that is found under a name in an unambiguous record is unambiguous. -/
theorem Unambiguous.of_field? {fields : List (String × Data)}
    (clear : (Data.record fields).Unambiguous) (name : String) (value : Data)
    (found : field? name fields = some value) : value.Unambiguous :=
  clear.of_mem (mem_of_field? name value fields found)

end Data

namespace Instance

namespace Draft

/-- What a draft becomes when fields are taken in: each of its own fields comes to what is read
there, or stays as it is. -/
@[mk_iff]
structure Becomes (fields : List (String × Data)) (before after : Draft) : Prop where
  service : Data.Gives (some <$> Data.readText ·) before.service
    (Data.field? "service_name" fields) after.service
  id : Data.Gives Data.readOptionalText before.id (Data.field? "id" fields) after.id
  host : Data.Gives (some <$> Data.readText ·) before.host (Data.field? "host" fields) after.host
  ip : Data.Gives (some <$> Data.readText ·) before.ip (Data.field? "ip" fields) after.ip
  port : Data.Gives (some <$> Data.readPort ·) before.port (Data.field? "port" fields) after.port
  metadata : Data.Gives Data.readTexts before.metadata (Data.field? "metadata" fields)
    after.metadata

/-- Without fields a draft stays as it is. -/
theorem becomes_nil_iff (before after : Draft) : Becomes [] before after ↔ after = before := by
  constructor
  · intro becomes
    cases before
    cases after
    obtain ⟨rfl, rfl, rfl, rfl, rfl, rfl⟩ := becomes
    rfl
  · rintro rfl
    exact ⟨rfl, rfl, rfl, rfl, rfl, rfl⟩

/-- Fields may be taken in one by one as long as their names differ: no later field is about
what an earlier one has filled in. -/
theorem becomes_cons_iff (name : String) (data : Data) (rest : List (String × Data))
    (new : name ∉ rest.map Prod.fst) (before after : Draft) :
    Becomes ((name, data) :: rest) before after ↔
      ∃ next, Becomes [(name, data)] before next ∧ Becomes rest next after := by
  constructor
  · intro becomes
    -- Each of the six entries of a draft goes through a value of its own after the first field.
    obtain ⟨service, first, second⟩ := (Data.gives_cons_iff _ _ _ _ _ _ _ new).mp becomes.service
    obtain ⟨id, first', second'⟩ := (Data.gives_cons_iff _ _ _ _ _ _ _ new).mp becomes.id
    obtain ⟨host, first'', second''⟩ := (Data.gives_cons_iff _ _ _ _ _ _ _ new).mp becomes.host
    obtain ⟨ip, firstIp, secondIp⟩ := (Data.gives_cons_iff _ _ _ _ _ _ _ new).mp becomes.ip
    obtain ⟨port, firstPort, secondPort⟩ :=
      (Data.gives_cons_iff _ _ _ _ _ _ _ new).mp becomes.port
    obtain ⟨metadata, firstTexts, secondTexts⟩ :=
      (Data.gives_cons_iff _ _ _ _ _ _ _ new).mp becomes.metadata
    exact ⟨⟨service, id, host, ip, port, metadata⟩,
      ⟨first, first', first'', firstIp, firstPort, firstTexts⟩,
      ⟨second, second', second'', secondIp, secondPort, secondTexts⟩⟩
  · rintro ⟨next, first, second⟩
    constructor
    · exact (Data.gives_cons_iff _ _ _ _ _ _ _ new).mpr ⟨_, first.service, second.service⟩
    · exact (Data.gives_cons_iff _ _ _ _ _ _ _ new).mpr ⟨_, first.id, second.id⟩
    · exact (Data.gives_cons_iff _ _ _ _ _ _ _ new).mpr ⟨_, first.host, second.host⟩
    · exact (Data.gives_cons_iff _ _ _ _ _ _ _ new).mpr ⟨_, first.ip, second.ip⟩
    · exact (Data.gives_cons_iff _ _ _ _ _ _ _ new).mpr ⟨_, first.port, second.port⟩
    · exact (Data.gives_cons_iff _ _ _ _ _ _ _ new).mpr ⟨_, first.metadata, second.metadata⟩

/-- One field changes only what it is about. -/
theorem accept_eq_ok_iff (before after : Draft) (name : String) (data : Data) :
    before.accept name data = .ok after ↔ Becomes [(name, data)] before after := by
  rw [becomes_iff]
  cases before
  cases after
  unfold accept
  split <;> simp only [Data.field?, Data.Gives, bind_eq_ok_iff, map_eq_ok_iff, pure, Except.pure,
    if_true, if_false, String.reduceEq, Except.ok.injEq, Draft.mk.injEq, *]
  all_goals grind

/-- The fields of a record together change what each of them is about. -/
theorem foldlM_accept_eq_ok_iff (fields : List (String × Data))
    (distinct : (fields.map Prod.fst).Nodup) (before after : Draft) :
    fields.foldlM (fun draft entry => draft.accept entry.1 entry.2) before = .ok after ↔
      Becomes fields before after := by
  induction fields generalizing before with
  | nil =>
    rw [List.foldlM_nil, becomes_nil_iff]
    exact ⟨fun same => (Except.ok.inj same).symm, fun same => congrArg Except.ok same.symm⟩
  | cons entry rest inductionHypothesis =>
    obtain ⟨name, data⟩ := entry
    obtain ⟨new, distinct⟩ := List.nodup_cons.mp distinct
    rw [List.foldlM_cons, bind_eq_ok_iff, becomes_cons_iff name data rest new]
    simp only [accept_eq_ok_iff, inductionHypothesis distinct]

/-- The draft in which nothing is missing. -/
def full (x : Instance) : Draft :=
  ⟨some x.service, x.id, some x.host, some x.ip, some x.port, x.metadata⟩

/-- A draft is complete just if it is the full one of an instance. An id and metadata may be
missing. -/
theorem complete_eq_ok_iff (draft : Draft) (x : Instance) :
    draft.complete = .ok x ↔ draft = full x := by
  have required {α : Type} (name : String) (field : Option α) (value : α) :
      Data.required name field = .ok value ↔ field = some value := by
    cases field <;> simp [Data.required]
  unfold complete
  simp only [bind_eq_ok_iff, required, pure, Except.pure, Except.ok.injEq]
  constructor
  · rintro ⟨service, hasService, host, hasHost, ip, hasIp, port, hasPort, rfl⟩
    rw [full, ← hasService, ← hasHost, ← hasIp, ← hasPort]
  · rintro rfl
    exact ⟨_, rfl, _, rfl, _, rfl, _, rfl, rfl⟩

end Draft

/-- A record is read to an instance if its fields make up that instance. -/
theorem ofFields_eq_ok_iff (fields : List (String × Data))
    (distinct : (fields.map Prod.fst).Nodup) (x : Instance) :
    ofFields fields = .ok x ↔ Draft.Becomes fields {} (.full x) := by
  simp only [ofFields, bind_eq_ok_iff, Draft.foldlM_accept_eq_ok_iff fields distinct,
    Draft.complete_eq_ok_iff, exists_eq_right]

end Instance

/-- What a record says about an instance of a service. The name of the service may be missing,
and so may the host if there is an ip, the id and the metadata. -/
@[mk_iff]
structure States (service : String) (fields : List (String × Data)) (x : Instance) : Prop where
  service : (Data.field? "service_name" fields).getD (.text service) = .text x.service
  id : (Data.field? "id" fields).getD .null = .ofOptionalText x.id
  host : (Data.field? "host" fields).or (Data.field? "ip" fields) = some (.text x.host)
  ip : Data.field? "ip" fields = some (.text x.ip)
  port : Data.field? "port" fields = some (.integer x.port.toNat)
  metadata : (Data.field? "metadata" fields).getD (.record []) = .ofTexts x.metadata

/-- Which entries of a service describe which instances. -/
inductive Describes (service : String) : Data → Instance → Prop
  | address (ip : String) (text : List Char) (port : UInt16) (spells : SpellsPort text port) :
    Describes service (.text (ip ++ ":" ++ String.ofList text)) (.ofAddress service ip port)
  | record (fields : List (String × Data)) (x : Instance) (states : States service fields x) :
    Describes service (.record fields) x

namespace Directory

/-- The fields with a default for one of them. -/
def orDefault (name : String) (value : Data) (fields : List (String × Data)) :
    List (String × Data) :=
  if (Data.field? name fields).isSome then fields else Data.insertField name value fields

/-- With a default the field is there, and the other fields are as before. -/
theorem field?_orDefault (name other : String) (value : Data) (fields : List (String × Data)) :
    Data.field? other (orDefault name value fields) =
      if other = name then some ((Data.field? name fields).getD value)
      else Data.field? other fields := by
  unfold orDefault
  cases found : Data.field? name fields with
  | some present =>
    by_cases own : other = name
    · simp [own, found]
    · simp [own]
  | none =>
    have inserted := Data.field?_insertField name other value fields
    by_cases own : other = name
    · simp [own, Data.field?_insertField]
    · simp [own, Ne.symm own, inserted]

/-- A default comes under a new name, so the names still differ. -/
theorem orDefault_names_nodup (name : String) (value : Data) (fields : List (String × Data))
    (distinct : (fields.map Prod.fst).Nodup) :
    ((orDefault name value fields).map Prod.fst).Nodup := by
  unfold orDefault
  split
  · exact distinct
  · rename_i absent
    exact Data.insertField_names_nodup name value fields (by simpa using absent) distinct

/-- The name of the service has a default, and with an ip the host has one too. -/
theorem completeFields_eq (service : String) (fields : List (String × Data)) :
    completeFields service fields =
      match Data.field? "ip" fields with
      | some ip => orDefault "host" ip (orDefault "service_name" (.text service) fields)
      | none => orDefault "service_name" (.text service) fields := by
  have ip : Data.field? "ip" (orDefault "service_name" (.text service) fields) =
      Data.field? "ip" fields := by
    rw [field?_orDefault, if_neg (by decide)]
  unfold completeFields
  simp only [← orDefault.eq_def, ip]
  generalize orDefault "service_name" (.text service) fields = named
  cases Data.field? "ip" fields with
  | none => split <;> simp_all
  | some ip =>
    cases host : Data.field? "host" named with
    | none => simp [orDefault, host]
    | some present => simp [orDefault, host]

/-- The name of the service and the host come to be there, and nothing else changes. A host is
filled in only from an ip. -/
theorem field?_completeFields (service name : String) (fields : List (String × Data)) :
    Data.field? name (completeFields service fields) =
      if name = "service_name" then
        some ((Data.field? "service_name" fields).getD (.text service))
      else if name = "host" then (Data.field? "host" fields).or (Data.field? "ip" fields)
      else Data.field? name fields := by
  rw [completeFields_eq]
  by_cases named : name = "service_name"
  · subst named
    cases Data.field? "ip" fields <;> simp [field?_orDefault]
  by_cases host : name = "host"
  · subst host
    cases Data.field? "ip" fields with
    | none => simp [field?_orDefault]
    | some ip => cases host : Data.field? "host" fields <;> simp [field?_orDefault, host]
  · cases Data.field? "ip" fields <;> simp [field?_orDefault, named, host]

/-- The names still differ after both defaults. -/
theorem completeFields_names_nodup (service : String) (fields : List (String × Data))
    (distinct : (fields.map Prod.fst).Nodup) :
    ((completeFields service fields).map Prod.fst).Nodup := by
  have named := orDefault_names_nodup "service_name" (.text service) fields distinct
  rw [completeFields_eq]
  cases Data.field? "ip" fields with
  | none => exact named
  | some ip => exact orDefault_names_nodup "host" ip _ named

/-- A record is read to an instance exactly if it says that of it. -/
theorem ofFields_completeFields_eq_ok_iff (service : String) (fields : List (String × Data))
    (clear : (Data.record fields).Unambiguous) (x : Instance) :
    Instance.ofFields (completeFields service fields) = .ok x ↔ States service fields x := by
  have distinct := completeFields_names_nodup service fields clear.names_nodup
  rw [Instance.ofFields_eq_ok_iff _ distinct, Instance.Draft.becomes_iff, states_iff]
  have texts : ∀ texts, Data.field? "metadata" fields = some (.record texts) →
      (texts.map Prod.fst).Nodup := fun texts found =>
    (clear.of_field? "metadata" _ found).names_nodup
  simp only [field?_completeFields, String.reduceEq, if_true, if_false, Instance.Draft.full,
    Data.gives_text_iff, Data.gives_optionalText_iff, Data.gives_port_iff,
    Data.gives_texts_iff _ _ texts, Option.some.injEq]

/-- An entry is read to an instance exactly if it describes it.

A text is an address, a record states the fields of an instance, and nothing else describes one.
-/
theorem readEntry_eq_ok_iff (service : String) (entry : Data) (clear : entry.Unambiguous)
    (x : Instance) : readEntry service entry = .ok x ↔ Describes service entry x := by
  cases entry with
  | text address =>
    rw [readEntry, readAddress_eq_ok_iff]
    constructor
    · rintro ⟨ip, text, port, rfl, spells, rfl⟩
      exact .address ip text port spells
    · rintro ⟨ip, text, port, spells⟩
      exact ⟨ip, text, port, rfl, spells, rfl⟩
  | record fields =>
    have stated := ofFields_completeFields_eq_ok_iff service fields clear x
    rw [readEntry]
    constructor
    · intro read
      split at read
      · rename_i y made
        obtain rfl : y = x := Except.ok.inj read
        exact .record fields y (stated.mp made)
      · cases read
    · intro describes
      cases describes with
      | record _ _ states => rw [stated.mpr states]
  | _ =>
    constructor
    · intro read
      cases read
    · intro describes
      cases describes

/-- Which lists of a service are the ones of which instances: one instance for each entry. -/
def Enumerates (service : String) (data : Data) (instances : List Instance) : Prop :=
  ∃ entries, data = .list entries ∧ List.Forall₂ (Describes service) entries instances

/-- A list enumerates instances if its entries describe them one by one. -/
theorem enumerates_list_iff (service : String) (entries : List Data) (instances : List Instance) :
    Enumerates service (.list entries) instances ↔
      List.Forall₂ (Describes service) entries instances := by
  constructor
  · rintro ⟨_, ⟨⟩, described⟩
    exact described
  · intro described
    exact ⟨entries, rfl, described⟩

/-- A service has a list of instances just if each of its entries describes one. -/
theorem exists_enumerates_iff (service : String) (data : Data) :
    (∃ instances, Enumerates service data instances) ↔
      ∃ entries, data = .list entries ∧ ∀ entry ∈ entries, ∃ x, Describes service entry x := by
  constructor
  · rintro ⟨instances, entries, rfl, described⟩
    exact ⟨entries, rfl, (exists_forall₂_iff _ entries).mp ⟨instances, described⟩⟩
  · rintro ⟨entries, rfl, each⟩
    obtain ⟨instances, described⟩ := (exists_forall₂_iff _ entries).mpr each
    exact ⟨instances, entries, rfl, described⟩

/-- A service is read to instances exactly if its value enumerates them. One entry that describes
nothing makes the whole value fail.

Only a list enumerates anything, and its entries are read one by one. -/
theorem readService_eq_ok_iff (service : String) (data : Data) (clear : data.Unambiguous)
    (instances : List Instance) :
    readService service data = .ok instances ↔ Enumerates service data instances := by
  cases data with
  | list entries =>
    have inside := (Data.unambiguous_list_iff entries).mp clear
    rw [readService, mapM_eq_ok_iff]
    have each : List.Forall₂ (fun entry x => readEntry service entry = .ok x) entries instances ↔
        List.Forall₂ (Describes service) entries instances :=
      forall₂_congr_of_mem entries instances fun entry member =>
        readEntry_eq_ok_iff service entry (inside entry member)
    rw [each, enumerates_list_iff]
  | _ =>
    constructor
    · intro read
      cases read
    · rintro ⟨_, ⟨⟩, -⟩

/-- A table is read to one list for each of its names, in order. No name is there twice, so no
list replaces another one. -/
theorem readServices_eq_ok_iff (table : List (String × Data))
    (clear : (Data.record table).Unambiguous) (services : Registry String (List Instance)) :
    readServices table = .ok services ↔
      List.Forall₂ (fun entry pair => pair.1 = entry.1 ∧ Enumerates entry.1 entry.2 pair.2) table
        services.entries := by
  have each := forall₂_congr_of_mem table services.entries fun entry member pair =>
    and_congr_right fun (_ : pair.1 = entry.1) =>
      readService_eq_ok_iff entry.1 entry.2 (clear.of_mem member) pair.2
  rw [readServices, Registry.foldlM_put_eq_ok_iff readService table ∅ services clear.names_nodup,
    ← each]
  constructor
  · rintro ⟨read, whole, all⟩
    exact whole ▸ all
  · intro all
    exact ⟨services.entries, rfl, all⟩

/-- What is read of a table has its names. -/
theorem names_eq_of_forall₂ {table : List (String × Data)}
    {entries : List (String × List Instance)}
    (all : List.Forall₂ (fun entry pair => pair.1 = entry.1 ∧ Enumerates entry.1 entry.2 pair.2)
      table entries) : entries.map Prod.fst = table.map Prod.fst := by
  induction all with
  | nil => rfl
  | cons one _ inductionHypothesis =>
    rw [List.map_cons, List.map_cons, one.1, inductionHypothesis]

/-- A table is read exactly if each of its lists is one of instances.

The lists that the entries enumerate are put under the names of the table, which differ. -/
theorem exists_readServices_eq_ok_iff (table : List (String × Data))
    (clear : (Data.record table).Unambiguous) :
    (∃ services, readServices table = .ok services) ↔
      ∀ entry ∈ table, ∃ instances, Enumerates entry.1 entry.2 instances := by
  have lists := exists_forall₂_iff (fun (entry : String × Data) (pair : String × List Instance) =>
    pair.1 = entry.1 ∧ Enumerates entry.1 entry.2 pair.2) table
  constructor
  · rintro ⟨services, read⟩ entry member
    have all := (readServices_eq_ok_iff table clear services).mp read
    obtain ⟨⟨_, instances⟩, -, enumerated⟩ := lists.mp ⟨_, all⟩ entry member
    exact ⟨instances, enumerated⟩
  · intro each
    obtain ⟨entries, all⟩ := lists.mpr fun entry member =>
      (each entry member).imp' (fun instances => (entry.1, instances)) fun _ enumerated =>
        ⟨rfl, enumerated⟩
    have distinct : (entries.map Prod.fst).Nodup := by
      rw [names_eq_of_forall₂ all]
      exact clear.names_nodup
    exact ⟨⟨entries, distinct⟩, (readServices_eq_ok_iff table clear _).mpr all⟩

/-- What a table is read to is listed under the names of the table.

An entry enumerates at most one list of instances, since reading it gives only one. -/
theorem instances_eq_iff_of_readServices (table : List (String × Data))
    (clear : (Data.record table).Unambiguous) (directory : Directory)
    (read : readServices table = .ok directory.services) (service : String) (data : Data)
    (member : (service, data) ∈ table) (instances : List Instance) :
    directory.instances service = instances ↔ Enumerates service data instances := by
  have all := (readServices_eq_ok_iff table clear directory.services).mp read
  obtain ⟨⟨name, listed⟩, inside, same, enumerated⟩ :=
    exists_mem_of_forall₂ all (service, data) member
  obtain rfl : service = name := same.symm
  have found : directory.instances service = listed := by
    rw [Directory.instances, directory.services.find?_of_mem _ _ inside, Option.getD_some]
  have made := readService_eq_ok_iff service data (clear.of_mem member)
  rw [found, ← made]
  rw [← made] at enumerated
  rw [enumerated, Except.ok.injEq]

/-- Settings that name no services make a directory that knows none. -/
theorem ofSettings_of_none {settings : List (String × Data)}
    (absent : Data.field? "services" settings = none) : ofSettings settings = .ok empty := by
  rw [ofSettings, absent]

/-- Settings whose services do not stand in a table make no directory. -/
theorem ofSettings_of_table {settings table : List (String × Data)}
    (found : Data.field? "services" settings = some (.record table)) (directory : Directory) :
    ofSettings settings = .ok directory ↔
      readServices table = .ok directory.services ∧ directory.registered = none := by
  rw [ofSettings, found]
  constructor
  · intro made
    obtain ⟨services, read, rfl⟩ := (map_eq_ok_iff _ _ _).mp made
    exact ⟨read, rfl⟩
  · rintro ⟨read, nobody⟩
    refine (map_eq_ok_iff _ _ _).mpr ⟨directory.services, read, ?_⟩
    rw [← nobody]

/-- Settings are accepted if they name no services, or if they give them in a table in which each
value is a list, and each entry of it an address with a port or the record of an instance, with
the name of the table and the ip for a missing service name and host. The directory then lists
the instances of these entries, one for each of them and in order, and nothing else, and nobody
is registered. One entry that is nothing like that, wherever it stands, and no directory
is made.

Reading is a fold over fields, entries and services, each of which fails as a whole if one part
does; so what is read is characterized part by part, from the fields of a record upwards. -/
theorem ofSettings_exact (settings : List (String × Data))
    (clear : (Data.record settings).Unambiguous) :
    ((∃ directory, ofSettings settings = .ok directory) ↔
      ∀ services, Data.field? "services" settings = some services →
        ∃ table, services = .record table ∧ ∀ service data, (service, data) ∈ table →
          ∃ entries, data = .list entries ∧
            ∀ entry ∈ entries, ∃ x, Describes service entry x) ∧
    (∀ directory, ofSettings settings = .ok directory →
      directory.registered = none ∧
      (Data.field? "services" settings = none → directory.services.keys = []) ∧
      ∀ table, Data.field? "services" settings = some (.record table) →
        directory.services.keys = table.map Prod.fst ∧
        ∀ service entries, (service, .list entries) ∈ table → ∀ instances,
          directory.instances service = instances ↔
            List.Forall₂ (Describes service) entries instances) ∧
    (∀ table service entries entry,
      Data.field? "services" settings = some (.record table) →
      (service, .list entries) ∈ table → entry ∈ entries → (∀ x, ¬ Describes service entry x) →
        ∃ cause, ofSettings settings = .error cause) := by
  have accepted : (∃ directory, ofSettings settings = .ok directory) ↔
      ∀ services, Data.field? "services" settings = some services →
        ∃ table, services = .record table ∧ ∀ service data, (service, data) ∈ table →
          ∃ entries, data = .list entries ∧
            ∀ entry ∈ entries, ∃ x, Describes service entry x := by
    cases found : Data.field? "services" settings with
    | none => simp [ofSettings_of_none found]
    | some services =>
      cases services with
      | record table =>
        have clearTable := clear.of_field? "services" _ found
        have read := exists_readServices_eq_ok_iff table clearTable
        simp only [exists_enumerates_iff, Prod.forall] at read
        simp only [Option.some.injEq, forall_eq', Data.record.injEq, exists_eq_left', ← read,
          ofSettings_of_table found]
        constructor
        · rintro ⟨directory, made, -⟩
          exact ⟨directory.services, made⟩
        · rintro ⟨services, made⟩
          exact ⟨⟨services, none⟩, made, rfl⟩
      | _ => simp [ofSettings, found]
  refine ⟨accepted, ?_, ?_⟩
  · intro directory made
    cases found : Data.field? "services" settings with
    | none =>
      obtain rfl := Except.ok.inj ((ofSettings_of_none found).symm.trans made)
      exact ⟨rfl, fun _ => rfl, by simp⟩
    | some services =>
      obtain ⟨table, rfl, -⟩ := accepted.mp ⟨directory, made⟩ services found
      have clearTable := clear.of_field? "services" _ found
      obtain ⟨read, nobody⟩ := (ofSettings_of_table found directory).mp made
      refine ⟨nobody, by simp, ?_⟩
      rintro _ ⟨⟩
      refine ⟨names_eq_of_forall₂ ((readServices_eq_ok_iff table clearTable _).mp read), ?_⟩
      intro service entries member instances
      rw [instances_eq_iff_of_readServices table clearTable directory read _ _ member]
      exact enumerates_list_iff service entries instances
  · intro table service entries entry found member inside nothing
    cases made : ofSettings settings with
    | error cause => exact ⟨cause, rfl⟩
    | ok directory =>
      obtain ⟨_, ⟨⟩, each⟩ := accepted.mp ⟨directory, made⟩ _ found
      obtain ⟨_, ⟨⟩, described⟩ := each service _ member
      obtain ⟨x, describes⟩ := described entry inside
      exact absurd describes (nothing x)

/-- A service with an address, whose ip holds colons, and a record, which has only what it
needs. -/
def twoForms : List Data :=
  [.text "fe80::1:+0080", .record [("ip", .text "10.0.0.2"), ("port", .integer 8080)]]

/-- Settings with a service in both forms. -/
def settingsOfTwoForms : List (String × Data) :=
  [("services", .record [("order", .list twoForms)])]

/-- The grammar at work on one service with an entry of each form, read to the two instances in
their order. -/
theorem ofSettings_exact_two_forms :
    (Data.record settingsOfTwoForms).Unambiguous ∧
    ∃ directory, ofSettings settingsOfTwoForms = .ok directory ∧
      directory.services.keys = ["order"] ∧
      directory.instances "order" =
        [.ofAddress "order" "fe80::1" 80, .ofAddress "order" "10.0.0.2" 8080] := by
  have clear : (Data.record settingsOfTwoForms).Unambiguous := by
    simp [settingsOfTwoForms, twoForms, Data.unambiguous_record_iff, Data.unambiguous_list_iff,
      Data.Unambiguous.text, Data.Unambiguous.integer]
  have address : Describes "order" (.text "fe80::1:+0080") (.ofAddress "order" "fe80::1" 80) :=
    .address "fe80::1" ['+', '0', '0', '8', '0'] 80
      ⟨['0', '0', '8', '0'], .inr rfl, by decide, List.all_eq_true.mp rfl, by decide⟩
  have record : Describes "order" (.record [("ip", .text "10.0.0.2"), ("port", .integer 8080)])
      (.ofAddress "order" "10.0.0.2" 8080) :=
    .record _ _ ⟨rfl, rfl, rfl, rfl, rfl, rfl⟩
  have described : List.Forall₂ (Describes "order") twoForms
      [.ofAddress "order" "fe80::1" 80, .ofAddress "order" "10.0.0.2" 8080] :=
    .cons address (.cons record .nil)
  obtain ⟨accepted, listed, -⟩ := ofSettings_exact settingsOfTwoForms clear
  -- The settings are accepted, since each list in them is described by some instances.
  have made : ∃ directory, ofSettings settingsOfTwoForms = .ok directory := by
    refine accepted.mpr ?_
    rintro _ ⟨⟩
    refine ⟨_, rfl, ?_⟩
    rintro _ _ (_ | ⟨_, ⟨⟩⟩)
    exact ⟨twoForms, rfl, (exists_forall₂_iff _ _).mp ⟨_, described⟩⟩
  obtain ⟨directory, made⟩ := made
  obtain ⟨names, instances⟩ := (listed directory made).2.2 _ rfl
  exact ⟨clear, directory, made, names,
    (instances "order" twoForms List.mem_cons_self _).mpr described⟩

end Directory

end CallRouting
