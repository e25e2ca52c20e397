import CallRouting.Toml.Tree

/-!
# TOML documents

A document is a list of lines: a key with its value, a header, or nothing, each with
an optional comment. Keys can be dotted, with a limited number of parts. Values in
brackets or braces may go over several lines, hold comments and end in a comma; only
the parts of a key have to stand on one line. Brackets and braces nest to a limited
depth.
-/

namespace CallRouting.Toml

/-- How deep brackets and braces nest at most, and how many parts a key has at most. -/
def maxDepth : Nat := 80

/-- Pass over blanks, line breaks and comments. Nothing, if a comment holds a character
that may not stand there. -/
def skipLines (inComment : Bool) : List Char → Option (List Char)
  | [] => some []
  | '\n' :: rest => skipLines false rest
  | '\r' :: '\n' :: rest => skipLines false rest
  | c :: rest =>
    if inComment then if isPlain c then skipLines true rest else none
    else if isBlank c then skipLines false rest
    else if c = '#' then skipLines true rest
    else some (c :: rest)

/-- What follows some blanks. -/
def skipBlanks (text : List Char) : List Char := text.dropWhile isBlank

/-- The end of a line, with a comment or without. -/
def endOfLine (text : List Char) : Option (List Char) :=
  let rest := match skipBlanks text with
    | '#' :: comment => comment.dropWhile isPlain
    | rest => rest
  match rest with
  | [] => some []
  | rest => (lineBreak? rest).map Prod.snd

/-- The characters of a key without quotation marks. -/
def isBareKeyChar (c : Char) : Bool := c.isAlpha || c.isDigit || c = '_' || c = '-'

/-- One part of a key. -/
def readKeyPart (text : List Char) : Option (String × List Char) :=
  let bare := text.takeWhile isBareKeyChar
  if bare.isEmpty then readLine text else some (String.ofList bare, text.dropWhile isBareKeyChar)

/-- A key of at most so many parts: those in front of its last dot, and the one after
it. -/
def readParts : Nat → Reader (List String × String)
  | 0, _ => none
  | parts + 1, text => do
    let (part, rest) ← readKeyPart (skipBlanks text)
    match skipBlanks rest with
    | '.' :: rest =>
      let ((path, name), rest) ← readParts parts rest
      return ((part :: path, name), rest)
    | rest => return (([], part), rest)

/-- Read a key of one part or several. -/
def readKey : Reader (List String × String) := readParts maxDepth

/-- A key, an equals sign and a value. -/
def readPair (value : Reader Node) : Reader (List String × String × Node) := fun text => do
  let ((path, name), rest) ← readKey text
  let '=' :: rest := rest | none
  let (node, rest) ← value (skipBlanks rest)
  return ((path, name, node), rest)

/-- A key, an equals sign and a value, on any number of lines. -/
def readSpreadPair (value : Reader Node) : Reader (List String × String × Node) := fun text => do
  let ((path, name), rest) ← readKey text
  let '=' :: rest ← skipLines false rest | none
  let (node, rest) ← value (← skipLines false rest)
  return ((path, name, node), rest)

/-- The rest of a list in brackets. -/
def readItems (value : Reader Node) : Nat → Reader (List Node)
  | 0, _ => none
  | fuel + 1, text => do
    match ← skipLines false text with
    | ']' :: rest => return ([], rest)
    | text =>
      let (item, rest) ← value text
      match ← skipLines false rest with
      | ']' :: rest => return ([item], rest)
      | ',' :: rest =>
        let (items, rest) ← readItems value fuel rest
        return (item :: items, rest)
      | _ => none

/-- The rest of a table in braces. -/
def readPairs (value : Reader Node) : Nat → Entries → Reader Entries
  | 0, _, _ => none
  | fuel + 1, entries, text => do
    match ← skipLines false text with
    | '\x7d' :: rest => return (entries, rest)
    | text =>
      let ((path, name, node), rest) ← readSpreadPair value text
      let entries ← entries.insert name node path
      match ← skipLines false rest with
      | '\x7d' :: rest => return (entries, rest)
      | ',' :: rest => readPairs value fuel entries rest
      | _ => none

/-- A value without brackets and braces. -/
def readSimple : Reader Node
  | '"' :: rest => do
    let (body, rest) ← readText ('"' :: rest)
    return (.scalar (.value (.text body)), rest)
  | '\'' :: rest => do
    let (body, rest) ← readText ('\'' :: rest)
    return (.scalar (.value (.text body)), rest)
  | text => do
    let (value, rest) ← readScalar text
    return (.scalar value, rest)

/-- A value, with so many levels of brackets and braces. -/
def readValue : Nat → Reader Node
  | 0, text => readSimple text
  | depth + 1, text =>
    match text with
    | '[' :: rest => do
      let (items, rest) ← readItems (readValue depth) (rest.length + 1) rest
      return (.list items, rest)
    | '\x7b' :: rest => do
      let (entries, rest) ← readPairs (readValue depth) (rest.length + 1) [] rest
      return (.braces entries, rest)
    | text => readSimple text

/-- The table that the lines being read belong to: the path of its header. -/
structure Section where
  path : List String
  entries : Entries

/-- Read one line that is not empty. -/
def readStatement (current : Section) (text : List Char) : Option (Section × List Char) :=
  match text with
  | '[' :: '[' :: rest => do
    let ((path, name), rest) ← readKey rest
    let ']' :: ']' :: rest := rest | none
    let entries ← current.entries.openElement path name
    return (⟨path ++ [name], entries⟩, rest)
  | '[' :: rest => do
    let ((path, name), rest) ← readKey rest
    let ']' :: rest := rest | none
    let entries ← current.entries.openTable path name
    return (⟨path ++ [name], entries⟩, rest)
  | text => do
    let ((path, name, node), rest) ← readPair (readValue maxDepth) text
    let entries ← current.entries.below (·.insert name node path) current.path
    return ({ current with entries }, rest)

/-- Read lines to the end. -/
def readStatements : Nat → Section → List Char → Option Entries
  | 0, _, _ => none
  | fuel + 1, current, text => do
    match ← skipLines false text with
    | [] => return current.entries
    | text =>
      let (current, rest) ← readStatement current text
      readStatements fuel current (← endOfLine rest)

/-- The entries of a document. A byte order mark in front does not count. -/
def readDocument (text : String) : Option Entries :=
  let chars := match text.toList with
    | '\ufeff' :: rest => rest
    | chars => chars
  readStatements (chars.length + 1) ⟨[], []⟩ chars

end CallRouting.Toml
