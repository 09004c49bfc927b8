import SourceGuard.Toml.Value

/-!
# TOML statements

A document is a sequence of statements: headers, which open a table or a new element of a list of
tables, and assignments, which add to the table that is open. A key is assigned once, a table is
opened once, and a table in braces is complete where it stands.

## Main definitions

* `Toml.Statement`: headers and assignments
* `Toml.Table.assign`: the effect of one assignment on the table that is open
* `Toml.Table.openTable`, `Toml.Table.openElement`: the effect of a header on the document
* `Toml.Document.ofStatements?`: the document that statements make
-/

namespace SourceGuard.Toml

/-- One statement of a document. -/
inductive Statement where
  /-- A value for a key below the table that is open. -/
  | assign (path : List String) (value : Value)
  /-- The header of a table. -/
  | table (path : List String)
  /-- The header of an element of a list of tables. -/
  | element (path : List String)

namespace Table

/-- An entry for a key that has none. -/
def add (key : String) (v : Value) (t : Table) : Option Table :=
  match t.find key with
  | none => some (t.put key v)
  | some _ => none

/-- Change the last of some tables. -/
def mapLast (f : Table → Option Table) : List Table → Option (List Table)
  | [] => none
  | [t] => (f t).map ([·])
  | t :: rest => (mapLast f rest).map (t :: ·)

/-- Assign a value to a path of keys. Of the tables on the way, those that are missing are made,
and those that have a header of their own or stand in braces are closed; `closed` says whether the
last table of the way may not be added to. -/
def assign (closed : Bool) : List String → Value → Table → Option Table
  | [], _, _ => none
  | [key], v, t => if closed then none else t.add key v
  | key :: path, v, t =>
    match t.find key with
    | none => (assign false path v []).map fun below => t.put key (.table .dotted below)
    | some (.table .dotted below) =>
      (assign false path v below).map fun below => t.put key (.table .dotted below)
    | some (.table .implied below) =>
      (assign true path v below).map fun below => t.put key (.table .implied below)
    | some (.tables elements) =>
      (mapLast (assign true path v) elements).map fun elements => t.put key (.tables elements)
    | some _ => none

/-- Change the table at a path of keys. Tables that are missing on the way are made, and of a list
of tables the last one is meant. -/
def mapAt (f : Table → Option Table) : List String → Table → Option Table
  | [], t => f t
  | key :: path, t =>
    match t.find key with
    | none => (mapAt f path []).map fun below => t.put key (.table .implied below)
    | some (.table .inline _) => none
    | some (.table origin below) =>
      (mapAt f path below).map fun below => t.put key (.table origin below)
    | some (.tables elements) =>
      (mapLast (mapAt f path) elements).map fun elements => t.put key (.tables elements)
    | some _ => none

/-- Open the table of a key, which has no header yet. -/
def openTable (key : String) (t : Table) : Option Table :=
  match t.find key with
  | none => some (t.put key (.table .headed []))
  | some (.table .implied below) => some (t.put key (.table .headed below))
  | some _ => none

/-- Open a new element of the list of tables of a key. -/
def openElement (key : String) (t : Table) : Option Table :=
  match t.find key with
  | none => some (t.put key (.tables [[]]))
  | some (.tables elements) => some (t.put key (.tables (elements ++ [[]])))
  | some _ => none

/-- The table in braces that pairs of paths and values make. -/
def ofPairs? (pairs : List (List String × Value)) : Option Table :=
  pairs.foldlM (fun t pair => t.assign false pair.1 pair.2) []

end Table

/-- A document while it is read. -/
structure Document where
  /-- What it says so far. -/
  root : Table := []
  /-- The path of the table that is open. -/
  current : List String := []

namespace Document

/-- The document after a header, which names at least one key. -/
def head (d : Document) (path : List String) (f : String → Table → Option Table) :
    Option Document := do
  let key ← path.getLast?
  let root ← d.root.mapAt (f key) path.dropLast
  some { root, current := path }

/-- The document after one more statement. -/
def add (d : Document) : Statement → Option Document
  | .assign path v => do
    let root ← d.root.mapAt (Table.assign false path v) d.current
    some { d with root }
  | .table path => d.head path Table.openTable
  | .element path => d.head path Table.openElement

/-- The document that statements make. -/
def ofStatements? (statements : List Statement) : Option Document := statements.foldlM add {}

end Document

end SourceGuard.Toml
