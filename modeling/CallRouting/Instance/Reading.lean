import CallRouting.Data.Reading
import CallRouting.Instance

/-!
# Instances as records

An instance is written as a record with the fields `host`, `id`, `ip`,
`metadata`, `port` and `service_name`; a missing id is left out. A record is read
field by field in the order in which it gives them. Fields of other names are
passed over, the first bad value ends the reading, and a required field that
never came is missed only when all others are fine.
-/

namespace CallRouting

namespace Instance

/-- What has been read of an instance so far. -/
structure Draft where
  service : Option String := none
  id : Option String := none
  host : Option String := none
  ip : Option String := none
  port : Option UInt16 := none
  metadata : Metadata := ∅

/-- Take one field in. -/
def Draft.accept (draft : Draft) (name : String) (value : Data) : Except ReadError Draft :=
  match name with
  | "service_name" => return { draft with service := some (← value.readText) }
  | "id" => return { draft with id := ← value.readOptionalText }
  | "host" => return { draft with host := some (← value.readText) }
  | "ip" => return { draft with ip := some (← value.readText) }
  | "port" => return { draft with port := some (← value.readPort) }
  | "metadata" => return { draft with metadata := ← value.readTexts }
  | _ => return draft

/-- The instance, if nothing is missing. -/
def Draft.complete (draft : Draft) : Except ReadError Instance := do
  let service ← Data.required "service_name" draft.service
  let host ← Data.required "host" draft.host
  let ip ← Data.required "ip" draft.ip
  let port ← Data.required "port" draft.port
  return { service, id := draft.id, host, ip, port, metadata := draft.metadata }

/-- Read an instance from its fields, one after the other. -/
def ofFields (fields : List (String × Data)) : Except ReadError Instance := do
  let draft ← fields.foldlM (fun draft entry => draft.accept entry.1 entry.2) ({} : Draft)
  draft.complete

/-- Read an instance from its items, by their places. -/
def ofItems (items : List Data) : Except ReadError Instance := do
  let service ← Data.readItem .serviceInstance items 0 Data.readText
  let id ← Data.readItemOr items 1 none Data.readOptionalText
  let host ← Data.readItem .serviceInstance items 2 Data.readText
  let ip ← Data.readItem .serviceInstance items 3 Data.readText
  let port ← Data.readItem .serviceInstance items 4 Data.readPort
  let metadata ← Data.readItemOr items 5 ∅ Data.readTexts
  if items.length ≤ RecordKind.serviceInstance.width then
    return { service, id, host, ip, port, metadata }
  else throw (.tooManyItems items.length)

/-- Read an instance from a record, or from a list of its items. -/
def ofData : Data → Except ReadError Instance
  | .record fields => ofFields fields
  | .list items => ofItems items
  | other => .error (.wrongType other (.record .serviceInstance))

/-- The record that describes an instance. -/
def toData (x : Instance) : Data :=
  .record <|
    ("host", .text x.host) ::
    (match x.id with
      | some id => [("id", Data.text id)]
      | none => []) ++
    [("ip", .text x.ip),
      ("metadata", .record (x.metadata.entries.map fun entry => (entry.1, Data.text entry.2))),
      ("port", .integer (x.port.toNat : Int)),
      ("service_name", .text x.service)]

end Instance

namespace Announcement

/-- What has been read of an announcement so far. -/
structure Draft where
  host : Option String := none
  ip : Option String := none
  port : Option UInt16 := none
  metadata : Metadata := ∅

/-- Take one field in. -/
def Draft.accept (draft : Draft) (name : String) (value : Data) : Except ReadError Draft :=
  match name with
  | "host" => return { draft with host := some (← value.readText) }
  | "ip" => return { draft with ip := some (← value.readText) }
  | "port" => return { draft with port := some (← value.readPort) }
  | "metadata" => return { draft with metadata := ← value.readTexts }
  | _ => return draft

/-- The announcement, if nothing is missing. -/
def Draft.complete (draft : Draft) : Except ReadError Announcement := do
  let host ← Data.required "host" draft.host
  let ip ← Data.required "ip" draft.ip
  let port ← Data.required "port" draft.port
  return { host, ip, port, metadata := draft.metadata }

/-- Read an announcement from its fields, one after the other. -/
def ofFields (fields : List (String × Data)) : Except ReadError Announcement := do
  let draft ← fields.foldlM (fun draft entry => draft.accept entry.1 entry.2) ({} : Draft)
  draft.complete

/-- Read an announcement from its items, by their places. -/
def ofItems (items : List Data) : Except ReadError Announcement := do
  let host ← Data.readItem .announcement items 0 Data.readText
  let ip ← Data.readItem .announcement items 1 Data.readText
  let port ← Data.readItem .announcement items 2 Data.readPort
  let metadata ← Data.readItemOr items 3 ∅ Data.readTexts
  if items.length ≤ RecordKind.announcement.width then
    return { host, ip, port, metadata }
  else throw (.tooManyItems items.length)

/-- Read an announcement from a record, or from a list of its items. -/
def ofData : Data → Except ReadError Announcement
  | .record fields => ofFields fields
  | .list items => ofItems items
  | other => .error (.wrongType other (.record .announcement))

end Announcement

end CallRouting
