import CallRouting.Data
import CallRouting.Registry

/-!
# Reading typed values out of structured ones

A reader takes a structured value and gives a typed one or the first thing that
is wrong. Records can be written with their fields by name or as a plain list of
the values in declaration order; either way a complaint names what was found and
what was expected in its place.
-/

namespace CallRouting

/-- The kinds of record that are read. -/
inductive RecordKind
  | serviceInstance
  | announcement
  | settings
  | directorySettings
  deriving DecidableEq

/-- How a complaint names a kind of record. -/
def RecordKind.name : RecordKind → String
  | .serviceInstance => "struct ServiceInstance"
  | .announcement => "struct RegistrationEvent"
  | .settings => "struct LbConfig"
  | .directorySettings => "struct DirectoryConfig"

/-- How many values a record written as a list has. -/
def RecordKind.width : RecordKind → Nat
  | .serviceInstance => 6
  | .announcement => 4
  | .settings => 12
  | .directorySettings => 2

/-- What a reader expects. -/
inductive Shape
  | text
  | port
  | word
  | signedWord
  | boolean
  | map
  | record (kind : RecordKind)
  deriving DecidableEq

/-- What a value should have been, in words. -/
def Shape.name : Shape → String
  | .text => "a string"
  | .port => "u16"
  | .word => "u64"
  | .signedWord => "i64"
  | .boolean => "a boolean"
  | .map => "a map"
  | .record kind => kind.name

/-- Why a value could not be read. -/
inductive ReadError
  | wrongType (found : Data) (expected : Shape)
  | outOfRange (found : Int) (expected : Shape)
  | missingField (name : String)
  | tooFewItems (count : Nat) (kind : RecordKind)
  | tooManyItems (count : Nat)

/-- What was wrong, in words. -/
def ReadError.message : ReadError → String
  | .wrongType found expected =>
    "invalid type: " ++ found.description ++ ", expected " ++ expected.name
  | .outOfRange found expected =>
    "invalid value: integer `" ++ toString found ++ "`, expected " ++ expected.name
  | .missingField name => "missing field `" ++ name ++ "`"
  | .tooFewItems count kind =>
    "invalid length " ++ toString count ++ ", expected " ++ kind.name ++ " with " ++
      toString kind.width ++ " elements"
  | .tooManyItems count =>
    "invalid length " ++ toString count ++ ", expected fewer elements in array"

namespace Data

/-- Read a text. -/
def readText : Data → Except ReadError String
  | .text value => .ok value
  | other => .error (.wrongType other .text)

/-- Read a boolean. -/
def readBoolean : Data → Except ReadError Bool
  | .boolean value => .ok value
  | other => .error (.wrongType other .boolean)

/-- A whole number in a range. -/
def readInteger (low high : Int) (expected : Shape) : Data → Except ReadError Int
  | .integer value =>
    if low ≤ value ∧ value ≤ high then .ok value else .error (.outOfRange value expected)
  | other => .error (.wrongType other expected)

/-- A whole number of 16 bits. -/
def readPort (data : Data) : Except ReadError UInt16 :=
  (data.readInteger 0 65535 .port).map fun value => UInt16.ofNat value.toNat

/-- A whole number of 64 bits. -/
def readWord (data : Data) : Except ReadError UInt64 :=
  (data.readInteger 0 18446744073709551615 .word).map fun value => UInt64.ofNat value.toNat

/-- A whole number of 64 bits with a sign. -/
def readSignedWord (data : Data) : Except ReadError Int64 :=
  (data.readInteger (-9223372036854775808) 9223372036854775807 .signedWord).map Int64.ofInt

/-- A text, or nothing where null stands. -/
def readOptionalText : Data → Except ReadError (Option String)
  | .null => .ok none
  | other => other.readText.map some

/-- A record whose values are all texts. -/
def readTexts : Data → Except ReadError (Registry String String)
  | .record fields =>
    fields.foldlM (fun texts entry => (texts.put entry.1 ·) <$> entry.2.readText) ∅
  | other => .error (.wrongType other .map)

/-- The value at a place of a record written as a list, which has to be there. -/
def readItem {α : Type} (kind : RecordKind) (items : List Data) (place : Nat)
    (reader : Data → Except ReadError α) : Except ReadError α :=
  match items[place]? with
  | some item => reader item
  | none => .error (.tooFewItems place kind)

/-- The value at a place of a record written as a list, or a default beyond its end. -/
def readItemOr {α : Type} (items : List Data) (place : Nat) (default : α)
    (reader : Data → Except ReadError α) : Except ReadError α :=
  match items[place]? with
  | some item => reader item
  | none => .ok default

/-- A field that has to be present. -/
def required {α : Type} (name : String) : Option α → Except ReadError α
  | some value => .ok value
  | none => .error (.missingField name)

end Data

end CallRouting
