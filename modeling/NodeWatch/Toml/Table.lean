import NodeWatch.Entries
import NodeWatch.Toml.Value

/-!
# Tables that are being filled

While a document is read its tables are open. A table knows how it came about, for this decides what
may still be added: a table that a header opened is not opened again, one that dotted keys made
takes further dotted keys but no header of its own, and one that is only the way to another table
may still get a header. A value, be it an inline table, is closed. No key is bound twice.
-/

namespace NodeWatch.Toml

/-- How a table came about. -/
inductive Origin
  /-- It lies on the way to a table that has a header. -/
  | implied
  /-- It lies on the way of a dotted key. -/
  | dotted
  /-- It has a header. -/
  | headed
  deriving DecidableEq, Repr

/-- What a key of an open table is bound to. -/
inductive Node
  | value (v : Toml)
  | table (origin : Origin) (entries : List (String × Node))
  /-- An array of tables that headers add to; the last table comes first. -/
  | tables (last : List (String × Node)) (before : List (List (String × Node)))

/-- The entries of an open table. -/
abbrev Open := List (String × Node)

/-- Opens the table at a path with a header of its own. -/
def openTable? : List String → Open → Option Open
  | [], _ => none
  | [key], entries =>
    match Entries.find? key entries with
    | none => some (Entries.insert key (.table .headed []) entries)
    | some (.table .implied inner) => some (Entries.insert key (.table .headed inner) entries)
    | some _ => none
  | key :: path, entries =>
    match Entries.find? key entries with
    | none => (openTable? path []).map fun inner =>
        Entries.insert key (.table .implied inner) entries
    | some (.table origin inner) => (openTable? path inner).map fun inner =>
        Entries.insert key (.table origin inner) entries
    | some (.tables last before) => (openTable? path last).map fun last =>
        Entries.insert key (.tables last before) entries
    | some (.value _) => none

/-- Adds a table to the array of tables at a path. -/
def addTable? : List String → Open → Option Open
  | [], _ => none
  | [key], entries =>
    match Entries.find? key entries with
    | none => some (Entries.insert key (.tables [] []) entries)
    | some (.tables last before) => some (Entries.insert key (.tables [] (last :: before)) entries)
    | some _ => none
  | key :: path, entries =>
    match Entries.find? key entries with
    | none => (addTable? path []).map fun inner =>
        Entries.insert key (.table .implied inner) entries
    | some (.table origin inner) => (addTable? path inner).map fun inner =>
        Entries.insert key (.table origin inner) entries
    | some (.tables last before) => (addTable? path last).map fun last =>
        Entries.insert key (.tables last before) entries
    | some (.value _) => none

/-- Binds a dotted key to a value. The table that gets the entry must be one that dotted keys made,
and on the way to it there may be no table with a header. -/
def bind? (v : Toml) : List String → Open → Option Open
  | [], _ => none
  | [key], entries =>
    match Entries.find? key entries with
    | none => some (Entries.insert key (.value v) entries)
    | some _ => none
  | key :: path, entries =>
    match Entries.find? key entries with
    | none => (bind? v path []).map fun inner => Entries.insert key (.table .dotted inner) entries
    | some (.table .dotted inner) => (bind? v path inner).map fun inner =>
        Entries.insert key (.table .dotted inner) entries
    | some (.table .implied inner) =>
      if path.length = 1 then none
      else (bind? v path inner).map fun inner => Entries.insert key (.table .implied inner) entries
    | some _ => none

/-- Changes the table that the latest header of a path opened. -/
def within? (change : Open → Option Open) : List String → Open → Option Open
  | [], entries => change entries
  | key :: path, entries =>
    match Entries.find? key entries with
    | some (.table origin inner) => (within? change path inner).map fun inner =>
        Entries.insert key (.table origin inner) entries
    | some (.tables last before) => (within? change path last).map fun last =>
        Entries.insert key (.tables last before) entries
    | _ => none

mutual

/-- The value of a node to which nothing will be added. -/
def Node.close : Node → Toml
  | .value v => v
  | .table _ entries => .table (closeEntries entries)
  | .tables last before => .array (closeTables before ++ [.table (closeEntries last)])

/-- The entries of a table to which nothing will be added. -/
def closeEntries : Open → List (String × Toml)
  | [] => []
  | (key, node) :: rest => (key, node.close) :: closeEntries rest

/-- The tables of an array, given the last first. -/
def closeTables : List Open → List Toml
  | [] => []
  | entries :: rest => closeTables rest ++ [.table (closeEntries entries)]

end

/-- The table of bindings that are made one after the other, as an inline table makes them. -/
def ofBindings? (bindings : List (List String × Toml)) : Option Toml :=
  (bindings.foldlM (fun entries (path, v) => bind? v path entries) []).map fun entries =>
    .table (closeEntries entries)

end NodeWatch.Toml
