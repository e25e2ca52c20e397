import CallRouting.Directory
import CallRouting.Instance.Reading
import CallRouting.Text.Lowercase

/-!
# Directories from settings

The settings of a static directory list the services by name under `services`.
Each service is a list of entries, and an entry is either a text `ip:port` or the
record of an instance, in which the service name and the host may be left out:
they default to the name under which the entry stands and to the ip. One bad entry
spoils the whole directory, and the first bad one is reported.
-/

namespace CallRouting

/-- Why a text is no port number. -/
inductive PortError
  | empty
  | invalidDigit
  | tooLarge
  deriving DecidableEq

/-- What was wrong with the text of a port. -/
def PortError.message : PortError → String
  | .empty => "cannot parse integer from empty string"
  | .invalidDigit => "invalid digit found in string"
  | .tooLarge => "number too large to fit in target type"

/-- Read on in a port number after the digits that make up `value`. -/
def readPortDigits (value : Nat) : List Char → Except PortError Nat
  | [] => .ok value
  | c :: rest =>
    if !c.isDigit then .error .invalidDigit
    else if 65535 < 10 * value + (c.toNat - '0'.toNat) then .error .tooLarge
    else readPortDigits (10 * value + (c.toNat - '0'.toNat)) rest

/-- A port number: decimal digits, after a plus sign if one stands in front. -/
def readPortText (text : List Char) : Except PortError UInt16 :=
  match text with
  | [] => .error .empty
  | ['+'] => .error .invalidDigit
  | '+' :: digits => UInt16.ofNat <$> readPortDigits 0 digits
  | digits => UInt16.ofNat <$> readPortDigits 0 digits

/-- The texts before and after the last colon. -/
def splitLastColon : List Char → Option (List Char × List Char)
  | [] => none
  | c :: rest =>
    match splitLastColon rest with
    | some (before, after) => some (c :: before, after)
    | none => if c = ':' then some ([], rest) else none

/-- What is wrong with the settings of a static directory. -/
inductive SettingsError
  | servicesNotTable
  | serviceNotList (service : String)
  | noPort (service address : String)
  | badPort (service address : String) (cause : PortError)
  | badRecord (service : String) (cause : ReadError)
  | unsupportedEntry (service : String) (entry : Data)

/-- The messages of the error, the outermost context first. -/
def SettingsError.fault : SettingsError → DirectoryFault
  | .servicesNotTable => ⟨["backend_config.services must be a table"]⟩
  | .serviceNotList service => ⟨["backend_config.services." ++ service ++ " must be an array"]⟩
  | .noPort service address => ⟨["address [" ++ address ++ "] of " ++ service ++ " has no port"]⟩
  | .badPort service address cause =>
    ⟨["invalid port in [" ++ address ++ "] of " ++ service, cause.message]⟩
  | .badRecord service cause => ⟨["invalid instance entry of " ++ service, cause.message]⟩
  | .unsupportedEntry service entry =>
    ⟨["unsupported instance entry of " ++ service ++ ": " ++ entry.compact]⟩

namespace Directory

/-- The fields of an entry with the defaults filled in. -/
def completeFields (service : String) (fields : List (String × Data)) : List (String × Data) :=
  let named :=
    if (Data.field? "service_name" fields).isSome then fields
    else Data.insertField "service_name" (.text service) fields
  match Data.field? "host" named, Data.field? "ip" named with
  | none, some ip => Data.insertField "host" ip named
  | _, _ => named

/-- The instance that an address of a service stands for. -/
def readAddress (service address : String) : Except SettingsError Instance :=
  match splitLastColon address.toList with
  | none => .error (.noPort service address)
  | some (ip, port) =>
    match readPortText port with
    | .ok port => .ok (.ofAddress service (String.ofList ip) port)
    | .error cause => .error (.badPort service address cause)

/-- The instance that an entry of a service stands for. -/
def readEntry (service : String) : Data → Except SettingsError Instance
  | .text address => readAddress service address
  | .record fields =>
    match Instance.ofFields (completeFields service fields) with
    | .ok x => .ok x
    | .error cause => .error (.badRecord service cause)
  | other => .error (.unsupportedEntry service other)

/-- The list of one service. -/
def readService (service : String) : Data → Except SettingsError (List Instance)
  | .list entries => entries.mapM (readEntry service)
  | _ => .error (.serviceNotList service)

/-- The lists of all services, in the order of the table. -/
def readServices (table : List (String × Data)) :
    Except SettingsError (Registry String (List Instance)) :=
  table.foldlM (fun services entry => (services.put entry.1 ·) <$> readService entry.1 entry.2) ∅

/-- The directory that the settings describe. -/
def ofSettings (settings : List (String × Data)) : Except SettingsError Directory :=
  match Data.field? "services" settings with
  | none => .ok empty
  | some (.record table) => (⟨·, none⟩) <$> readServices table
  | some _ => .error .servicesNotTable

end Directory

/-- The kinds of directory that settings can ask for. -/
inductive DirectoryKind
  | static
  deriving DecidableEq

/-- The kind with this name, in any case. -/
def DirectoryKind.ofName (name : String) : Except String DirectoryKind :=
  match Text.lowercase name with
  | "static" | "list" | "memory" => .ok .static
  | _ => .error ("Unknown directory backend: " ++ name)

/-- The name of a kind of directory. -/
def DirectoryKind.name : DirectoryKind → String
  | .static => "Static"

/-- The directory of a kind with these settings. Whatever is wrong with them is an
error of configuration. -/
def openDirectory (kind : String) (settings : List (String × Data)) :
    Except RoutingError Directory :=
  match DirectoryKind.ofName kind with
  | .error message => .error (.configuration message)
  | .ok .static =>
    match Directory.ofSettings settings with
    | .ok directory => .ok directory
    | .error cause => .error (.configuration cause.fault.text)

end CallRouting
