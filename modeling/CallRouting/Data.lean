import CallRouting.Decimal
import CallRouting.Text.Quoted

/-!
# Structured values

The values of a settings file or of a record sent by another process: null,
booleans, whole numbers, floating-point numbers, texts, lists and records. The
fields of a record stand in the order of their names, compared by code points;
`insertField` and `ofFields` keep them so.
-/

namespace CallRouting

/-- A value of a data format such as JSON. -/
inductive Data
  | null
  | boolean (value : Bool)
  | integer (value : Int)
  | number (value : Float)
  | text (value : String)
  | list (items : List Data)
  | record (fields : List (String × Data))
  deriving Inhabited

namespace Data

/-- The value of a field. -/
def field? (name : String) : List (String × Data) → Option Data
  | [] => none
  | (n, value) :: rest => if n = name then some value else field? name rest

/-- The fields with one more, in its place by name; a field of that name is
replaced. -/
def insertField (name : String) (value : Data) : List (String × Data) → List (String × Data)
  | [] => [(name, value)]
  | (n, v) :: rest =>
    if name = n then (name, value) :: rest
    else if name < n then (name, value) :: (n, v) :: rest
    else (n, v) :: insertField name value rest

/-- A field that was inserted is found with its value, and any other one as before. -/
theorem field?_insertField (name other : String) (value : Data) (fields : List (String × Data)) :
    field? other (insertField name value fields) =
      if name = other then some value else field? other fields := by
  induction fields with
  | nil => rfl
  | cons entry rest inductionHypothesis =>
    obtain ⟨n, v⟩ := entry
    by_cases same : name = n
    · subst same
      by_cases hit : name = other <;> simp [insertField, field?, hit]
    · by_cases before : name < n
      · simp [insertField, same, before, field?]
      · simp only [insertField, same, before, if_false, field?, inductionHypothesis]
        by_cases hit : n = other
        · subst hit
          simp [same]
        · simp [hit]

/-- The record with these fields; of two fields with one name the later counts. -/
def ofFields (fields : List (String × Data)) : Data :=
  .record (fields.foldl (fun sorted entry => insertField entry.1 entry.2 sorted) [])

/-- One character of a text in compact form. -/
def escapeChar (c : Char) : List Char :=
  match c with
  | '"' => ['\\', '"']
  | '\\' => ['\\', '\\']
  | '\n' => ['\\', 'n']
  | '\r' => ['\\', 'r']
  | '\t' => ['\\', 't']
  | '\x08' => ['\\', 'b']
  | '\x0c' => ['\\', 'f']
  | c =>
    if c.toNat < 0x20 then
      ['\\', 'u', '0', '0'] ++ (if c.toNat < 0x10 then ['0'] else []) ++ Nat.toDigits 16 c.toNat
    else [c]

/-- A text in quotation marks. -/
def quote (text : String) : List Char := '"' :: text.toList.flatMap escapeChar ++ ['"']

mutual

/-- The value on one line without blanks. -/
def compactChars : Data → List Char
  | .null => "null".toList
  | .boolean value => (if value then "true" else "false").toList
  | .integer value => (toString value).toList
  | .number value =>
    if value.isFinite then (FloatFormat.compact.render value).toList else "null".toList
  | .text value => quote value
  | .list items => '[' :: compactItems items ++ [']']
  | .record fields => '\x7b' :: compactFields fields ++ ['\x7d']

/-- The items of a list, with commas in between. -/
def compactItems : List Data → List Char
  | [] => []
  | [item] => compactChars item
  | item :: rest => compactChars item ++ ',' :: compactItems rest

/-- The fields of a record, each with its name, with commas in between. -/
def compactFields : List (String × Data) → List Char
  | [] => []
  | [(name, value)] => quote name ++ ':' :: compactChars value
  | (name, value) :: rest => quote name ++ ':' :: compactChars value ++ ',' :: compactFields rest

end

/-- The text of a value, without blanks. -/
def compact (data : Data) : String := String.ofList data.compactChars

mutual

/-- Whether every whole number fits 64 bits, with a sign or without. -/
def fitsWords : Data → Bool
  | .integer value => -9223372036854775808 ≤ value && value ≤ 18446744073709551615
  | .list items => itemsFitWords items
  | .record fields => fieldsFitWords fields
  | .null | .boolean _ | .number _ | .text _ => true

/-- Whether all integers in some items fit into 64 bits. -/
def itemsFitWords : List Data → Bool
  | [] => true
  | item :: rest => item.fitsWords && itemsFitWords rest

/-- Whether all integers in some fields fit into 64 bits. -/
def fieldsFitWords : List (String × Data) → Bool
  | [] => true
  | (_, value) :: rest => value.fitsWords && fieldsFitWords rest

end

/-- What a value is, as a complaint about it names it. -/
def description : Data → String
  | .null => "null"
  | .boolean value => "boolean `" ++ (if value then "true" else "false") ++ "`"
  | .integer value => "integer `" ++ toString value ++ "`"
  | .number value => "floating point `" ++ FloatFormat.compact.render value ++ "`"
  | .text value => "string " ++ Text.quoted value
  | .list _ => "sequence"
  | .record _ => "map"

end Data

end CallRouting
