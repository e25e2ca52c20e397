import CallRouting.Data.Reading
import CallRouting.Settings

/-!
# Settings as records

A missing field has its default, a field of another name is passed over, and the
first bad value ends the reading. Settings written as a list give the values in
declaration order and may end early.
-/

namespace CallRouting

/-- Fail on more items than a record written as a list has fields. -/
def RecordKind.checkWidth (kind : RecordKind) (items : List Data) : Except ReadError Unit :=
  if kind.width < items.length then .error (.tooManyItems items.length) else .ok ()

namespace DirectorySettings

/-- The directory's own settings by name. Their whole numbers have at most 64 bits. -/
def readSettings : Data → Except ReadError (List (String × Data))
  | .record fields =>
    if (Data.record fields).fitsWords then .ok fields
    else .error (.wrongType (.record fields) .word)
  | other => .error (.wrongType other .map)

/-- Take one field in. -/
def accept (settings : DirectorySettings) (name : String) (value : Data) :
    Except ReadError DirectorySettings :=
  match name with
  | "backend" => return { settings with kind := ← value.readText }
  | "backend_config" => return { settings with settings := ← readSettings value }
  | _ => return settings

/-- Read the settings of a directory from a record, one field after the other. -/
def ofData : Data → Except ReadError DirectorySettings
  | .record fields => fields.foldlM (fun settings entry => settings.accept entry.1 entry.2) {}
  | .list items => do
    let kind ← Data.readItemOr items 0 "static" Data.readText
    let settings ← Data.readItemOr items 1 [] readSettings
    RecordKind.directorySettings.checkWidth items
    return { kind, settings }
  | other => .error (.wrongType other (.record .directorySettings))

end DirectorySettings

namespace Settings

/-- The names of the fields in declaration order. -/
def fieldNames : List String :=
  ["service_name", "cache_ttl_ms", "cache_refresh_interval_ms", "cache_concurrency_level",
    "stats_cache_expire_minutes", "stats_aggregation_interval_ms", "load_balancer_type",
    "prefer_ip_over_host", "max_retry_config_cache_size", "default_max_attempts",
    "default_retry_wait_ms", "directory"]

/-- Take one field in. -/
def accept (settings : Settings) (name : String) (value : Data) :
    Except ReadError Settings :=
  match name with
  | "service_name" => return { settings with serviceName := ← value.readText }
  | "cache_ttl_ms" => return { settings with cacheTtlMs := ← value.readWord }
  | "cache_refresh_interval_ms" => return { settings with cacheRefreshMs := ← value.readSignedWord }
  | "cache_concurrency_level" => return { settings with cacheConcurrency := ← value.readWord }
  | "stats_cache_expire_minutes" => return { settings with statsExpireMinutes := ← value.readWord }
  | "stats_aggregation_interval_ms" =>
    return { settings with aggregationMs := ← value.readSignedWord }
  | "load_balancer_type" => return { settings with balancer := ← value.readText }
  | "prefer_ip_over_host" => return { settings with preferIp := ← value.readBoolean }
  | "max_retry_config_cache_size" => return { settings with policyCapacity := ← value.readWord }
  | "default_max_attempts" => return { settings with maxAttempts := ← value.readWord }
  | "default_retry_wait_ms" => return { settings with retryWaitMs := ← value.readWord }
  | "directory" => return { settings with directory := ← DirectorySettings.ofData value }
  | _ => return settings

/-- Read settings. They may still have a flaw. -/
def ofData : Data → Except ReadError Settings
  | .record fields =>
    fields.foldlM (fun settings entry => accept settings entry.1 entry.2) {}
  | .list items => do
    let settings ← (fieldNames.zip items).foldlM
      (fun settings entry => accept settings entry.1 entry.2) ({} : Settings)
    RecordKind.settings.checkWidth items
    return settings
  | other => .error (.wrongType other (.record .settings))

end Settings

end CallRouting
