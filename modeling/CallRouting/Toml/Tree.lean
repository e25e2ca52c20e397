import CallRouting.Toml.Scalar

/-!
# The tree that a TOML document describes

A table can be written in three ways: under a header of its own, by dotted keys, or
as a parent that some header only passes through. A key may be set once, and a table
may be opened by a header once, and only while it is such a mere parent; dotted keys
add to a table only if dotted keys made it. Values in braces or brackets are
complete as they stand: nothing is ever added to them. An array of tables grows by
one table with each of its headers, and headers and keys below it mean its last
table.
-/

namespace CallRouting.Toml

/-- How a table came to be. -/
inductive TableKind
  /-- Under a header of its own. -/
  | opened
  /-- By dotted keys. -/
  | dotted
  /-- As the parent of another table. -/
  | parent
  deriving DecidableEq

/-- A node of a document: a value, a list, or a table, with how it was written. -/
inductive Node
  | scalar (value : Scalar)
  /-- In brackets. -/
  | list (items : List Node)
  /-- In braces. -/
  | braces (entries : List (String × Node))
  | table (kind : TableKind) (entries : List (String × Node))
  /-- An array of tables, the last one first. -/
  | tables (elements : List (List (String × Node)))

/-- The entries of a table, in order. -/
abbrev Entries := List (String × Node)

namespace Entries

/-- The node of a name. -/
def find? (name : String) : Entries → Option Node
  | [] => none
  | (n, node) :: rest => if n = name then some node else find? name rest

/-- The entries with one set. -/
def set (name : String) (node : Node) : Entries → Entries
  | [] => [(name, node)]
  | (n, old) :: rest => if n = name then (n, node) :: rest else (n, old) :: set name node rest

/-- Add a new entry. -/
def add (name : String) (node : Node) (entries : Entries) : Option Entries :=
  match find? name entries with
  | some _ => none
  | none => some (entries ++ [(name, node)])

/-- Set a key at the end of a dotted path. -/
def insert (key : String) (node : Node) : List String → Entries → Option Entries
  | [], entries => add key node entries
  | [name], entries =>
    match find? name entries with
    | none => some (set name (.table .dotted [(key, node)]) entries)
    | some (.table .dotted inner) => do
      let inner ← add key node inner
      return set name (.table .dotted inner) entries
    | some _ => none
  | name :: path, entries =>
    match find? name entries with
    | none => do
      let inner ← insert key node path []
      return set name (.table .dotted inner) entries
    | some (.table .dotted inner) => do
      let inner ← insert key node path inner
      return set name (.table .dotted inner) entries
    | some (.table .parent inner) => do
      let inner ← insert key node path inner
      return set name (.table .parent inner) entries
    | some (.tables (last :: others)) => do
      let last ← insert key node path last
      return set name (.tables (last :: others)) entries
    | some _ => none

/-- Change the table that a path of headers leads to. New tables on the way are mere
parents. -/
def below (change : Entries → Option Entries) : List String → Entries → Option Entries
  | [], entries => change entries
  | name :: path, entries =>
    match find? name entries with
    | none => do
      let inner ← below change path []
      return set name (.table .parent inner) entries
    | some (.table kind inner) => do
      let inner ← below change path inner
      return set name (.table kind inner) entries
    | some (.tables (last :: others)) => do
      let last ← below change path last
      return set name (.tables (last :: others)) entries
    | some _ => none

/-- Open the table of a header. -/
def openTable (path : List String) (name : String) (entries : Entries) : Option Entries :=
  below (fun entries =>
    match find? name entries with
    | none => some (set name (.table .opened []) entries)
    | some (.table .parent inner) => some (set name (.table .opened inner) entries)
    | some _ => none) path entries

/-- Add a table to the array of a header. -/
def openElement (path : List String) (name : String) (entries : Entries) : Option Entries :=
  below (fun entries =>
    match find? name entries with
    | none => some (set name (.tables [[]]) entries)
    | some (.tables elements) => some (set name (.tables ([] :: elements)) entries)
    | some _ => none) path entries

end Entries

mutual

/-- The value that a node stands for, unless a number in it is unreadable. -/
def Node.toData? : Node → Option Data
  | .scalar value => value.data?
  | .list items => .list <$> itemsData? items
  | .braces entries => Data.ofFields <$> entriesData? entries
  | .table _ entries => Data.ofFields <$> entriesData? entries
  | .tables elements => (fun items => .list items.reverse) <$> elementsData? elements

/-- The values of some items. -/
def itemsData? : List Node → Option (List Data)
  | [] => some []
  | item :: rest => return (← item.toData?) :: (← itemsData? rest)

/-- The values of some entries, with their names. -/
def entriesData? : List (String × Node) → Option (List (String × Data))
  | [] => some []
  | (name, node) :: rest => return (name, ← node.toData?) :: (← entriesData? rest)

/-- The values of tables in a list. -/
def elementsData? : List (List (String × Node)) → Option (List Data)
  | [] => some []
  | entries :: rest => return Data.ofFields (← entriesData? entries) :: (← elementsData? rest)

end

end CallRouting.Toml
