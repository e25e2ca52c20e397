/-!
# Texts in TOML

A text stands between double quotes, where a backslash escapes, or between single
quotes, where nothing does. Three quotes in a row open a text over several lines;
a line break right behind them does not count, and a backslash at the end of a line
joins it with what follows the blanks. One or two quotes may stand anywhere in such
a text, its end included. Control characters other than tabs and line breaks are
refused, and so is a carriage return without a line feed.

A reader takes the characters of a document and gives what it read and the
characters after it, or nothing. The bound on its steps is the number of characters.
-/

namespace CallRouting.Toml

/-- A reader takes something off the front of a text, or refuses the text. -/
abbrev Reader (α : Type) := List Char → Option (α × List Char)

/-- A blank within a line. -/
def isBlank (c : Char) : Bool := c = ' ' || c = '\t'

/-- Characters that may stand in a comment or a text of one line. -/
def isPlain (c : Char) : Bool := c = '\t' || (0x20 ≤ c.toNat && c.toNat ≠ 0x7f)

/-- The value of a digit to base sixteen. -/
def hexDigit? (c : Char) : Option Nat :=
  if c.isDigit then some (c.toNat - '0'.toNat)
  else if 'a' ≤ c ∧ c ≤ 'f' then some (c.toNat - 'a'.toNat + 10)
  else if 'A' ≤ c ∧ c ≤ 'F' then some (c.toNat - 'A'.toNat + 10)
  else none

/-- The character whose code point the hexadecimal digits give. -/
def codePointChar? (digits : List Char) : Option Char := do
  let code ← digits.foldlM (fun code c => (16 * code + ·) <$> hexDigit? c) 0
  if code.isValidChar then some (Char.ofNat code) else none

/-- The character of an escape with so many hexadecimal digits. -/
def readCodePoint (width : Nat) (text : List Char) : Option (Char × List Char) :=
  if width ≤ text.length then (·, text.drop width) <$> codePointChar? (text.take width) else none

/-- The character that an escape stands for. The backslash has been read. -/
def readEscape : Reader Char
  | 'b' :: rest => some ('\x08', rest)
  | 'e' :: rest => some ('\x1b', rest)
  | 't' :: rest => some ('\t', rest)
  | 'n' :: rest => some ('\n', rest)
  | 'f' :: rest => some ('\x0c', rest)
  | 'r' :: rest => some ('\r', rest)
  | '"' :: rest => some ('"', rest)
  | '\\' :: rest => some ('\\', rest)
  | 'x' :: rest => readCodePoint 2 rest
  | 'u' :: rest => readCodePoint 4 rest
  | 'U' :: rest => readCodePoint 8 rest
  | _ => none

/-- The line break in front, as it is written. -/
def lineBreak? : List Char → Option (List Char × List Char)
  | '\n' :: rest => some (['\n'], rest)
  | '\r' :: '\n' :: rest => some (['\r', '\n'], rest)
  | _ => none

/-- The rest of a text between double quotes. -/
def readBasic : Nat → Reader (List Char)
  | 0, _ => none
  | fuel + 1, text =>
    match text with
    | [] => none
    | '"' :: rest => some ([], rest)
    | '\\' :: rest => do
      let (c, rest) ← readEscape rest
      let (body, rest) ← readBasic fuel rest
      return (c :: body, rest)
    | c :: rest =>
      if isPlain c then do
        let (body, rest) ← readBasic fuel rest
        return (c :: body, rest)
      else none

/-- The rest of a text between single quotes. -/
def readLiteral : Reader (List Char)
  | [] => none
  | c :: rest =>
    if c = '\'' then some ([], rest)
    else if isPlain c then do
      let (body, rest) ← readLiteral rest
      return (c :: body, rest)
    else none

/-- Pass over blanks and line breaks. -/
def dropSpace : List Char → List Char
  | '\r' :: '\n' :: rest => dropSpace rest
  | c :: rest => if isBlank c || c = '\n' then dropSpace rest else c :: rest
  | [] => []

/-- What follows a line that a backslash at its end joins with the next one. -/
def joinedLine? (text : List Char) : Option (List Char) :=
  (lineBreak? (text.dropWhile isBlank)).map fun found => dropSpace found.2

/-- The end of a text over several lines: at least three quotes, of which up to two
more belong to the text. -/
def closing? (quote : Char) (text : List Char) : Option (List Char × List Char) :=
  let quotes := min 5 (text.takeWhile (· = quote)).length
  if 3 ≤ quotes then some (List.replicate (quotes - 3) quote, text.drop quotes) else none

/-- The rest of a text over several lines. A backslash escapes if `escapes` says so. -/
def readLines (quote : Char) (escapes : Bool) : Nat → Reader (List Char)
  | 0, _ => none
  | fuel + 1, text =>
    match closing? quote text with
    | some found => some found
    | none =>
      match lineBreak? text with
      | some (written, rest) => do
        let (body, rest) ← readLines quote escapes fuel rest
        return (written ++ body, rest)
      | none =>
        match text with
        | [] => none
        | c :: rest =>
          if escapes && c = '\\' then
            match joinedLine? rest with
            | some rest => readLines quote escapes fuel rest
            | none => do
              let (c, rest) ← readEscape rest
              let (body, rest) ← readLines quote escapes fuel rest
              return (c :: body, rest)
          else if isPlain c then do
            let (body, rest) ← readLines quote escapes fuel rest
            return (c :: body, rest)
          else none

/-- A text over several lines, whose three quotes have been read. -/
def readBlock (quote : Char) (escapes : Bool) (text : List Char) : Option (List Char × List Char) :=
  let text := match lineBreak? text with
    | some (_, rest) => rest
    | none => text
  readLines quote escapes (text.length + 1) text

/-- A text on one line. -/
def readLine : Reader String
  | '"' :: rest => do
    let (body, rest) ← readBasic (rest.length + 1) rest
    return (String.ofList body, rest)
  | '\'' :: rest => do
    let (body, rest) ← readLiteral rest
    return (String.ofList body, rest)
  | _ => none

/-- A text of any kind. -/
def readText : Reader String
  | '"' :: '"' :: '"' :: rest => do
    let (body, rest) ← readBlock '"' true rest
    return (String.ofList body, rest)
  | '\'' :: '\'' :: '\'' :: rest => do
    let (body, rest) ← readBlock '\'' false rest
    return (String.ofList body, rest)
  | text => readLine text

end CallRouting.Toml
