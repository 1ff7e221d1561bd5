import NodeWatch.Toml.Key
import NodeWatch.Toml.Scalar
import NodeWatch.Toml.Table

/-!
# TOML documents

A document is a sequence of lines that bind keys to values or begin a table. Arrays and inline
tables may be spread over lines and have a comma after their last item; they are nested no deeper
than a fixed depth. The document is read into statements first, and the statements are then carried
out one after the other on an open table.
-/

namespace NodeWatch.Toml

/-- A statement. -/
inductive Statement
  /-- What follows belongs to the table at the path. -/
  | header (path : List String)
  /-- What follows belongs to a new table of the array of tables at the path. -/
  | element (path : List String)
  | binding (path : List String) (v : Toml)

/-- Reads items and commas up to the mark that closes them, and gives what follows. Each item takes
at least one character, which is checked so that the reading ends. -/
def scanItems? {α : Type} (scanItem? : List Char → Option (α × List Char)) (close : Char)
    (cs : List Char) : Option (List α × List Char) :=
  match dropGap cs with
  | [] => none
  | c :: rest =>
    if c = close then some ([], rest)
    else
      match scanItem? (c :: rest) with
      | none => none
      | some (item, after) =>
        match dropGap after with
        | [] => none
        | c :: rest =>
          if c = close then some ([item], rest)
          else if c = ',' ∧ rest.length < cs.length then
            (scanItems? scanItem? close rest).map fun (items, rest) => (item :: items, rest)
          else none
termination_by cs.length

/-- Reads a key path, an equals sign and a value. -/
def scanBinding? {α : Type} (scanValue? : List Char → Option (α × List Char)) (cs : List Char) :
    Option ((List String × α) × List Char) := do
  let (path, rest) ← scanPath? cs
  match rest with
  | '=' :: rest =>
    let (v, rest) ← scanValue? (dropBlanks rest)
    some ((path, v), rest)
  | _ => none

/-- Reads a value in which arrays and inline tables are nested no deeper than so many, and gives
what follows. -/
def scanValue? (depth : Nat) (cs : List Char) : Option (Toml × List Char) :=
  match cs with
  | '[' :: rest =>
    match depth with
    | 0 => none
    | depth + 1 => (scanItems? (scanValue? depth) ']' rest).map fun (items, rest) =>
        (.array items, rest)
  | '\x7b' :: rest =>
    match depth with
    | 0 => none
    | depth + 1 => do
      let (bindings, rest) ← scanItems? (scanBinding? (scanValue? depth)) '\x7d' rest
      let table ← ofBindings? bindings
      some (table, rest)
  | '"' :: _ | '\'' :: _ => (scanText? cs).map fun (s, rest) => (.text s, rest)
  | cs => scanBare? cs

/-- The greatest number of arrays and inline tables inside one another. -/
def maxDepth : Nat := 80

/-- Reads a statement, and gives what follows. -/
def scanStatement? : List Char → Option (Statement × List Char)
  | '[' :: '[' :: rest => do
    let (path, rest) ← scanPath? (dropBlanks rest)
    match rest with
    | ']' :: ']' :: rest => some (.element path, rest)
    | _ => none
  | '[' :: rest => do
    let (path, rest) ← scanPath? (dropBlanks rest)
    match rest with
    | ']' :: rest => some (.header path, rest)
    | _ => none
  | cs => do
    let ((path, v), rest) ← scanBinding? (scanValue? maxDepth) cs
    some (.binding path v, rest)

/-- Reads the statements of a document, each of which ends with its line. -/
def statements? (cs : List Char) : Option (List Statement) :=
  match dropGap cs with
  | [] => some []
  | c :: rest => do
    let (statement, after) ← scanStatement? (c :: rest)
    let left ← endLine? after
    if left.length < cs.length then
      let statements ← statements? left
      some (statement :: statements)
    else none
termination_by cs.length

/-- A document that is being put together: what there is so far, and the path of the table that
bindings go to. -/
structure Draft where
  root : Open := []
  path : List String := []

/-- Carries out a statement. -/
def Draft.apply? (d : Draft) : Statement → Option Draft
  | .header path => (openTable? path d.root).map fun root => { root, path }
  | .element path => (addTable? path d.root).map fun root => { root, path }
  | .binding path v => (within? (bind? v path) d.path d.root).map fun root => { d with root }

/-- The table that statements make. -/
def ofStatements? (statements : List Statement) : Option Toml :=
  (statements.foldlM Draft.apply? {}).map fun d => .table (closeEntries d.root)

/-- Reads a document. -/
def parse? (s : String) : Option Toml :=
  let cs := dropMark s.toList
  if isLegible cs then (statements? cs).bind ofStatements? else none

end NodeWatch.Toml
