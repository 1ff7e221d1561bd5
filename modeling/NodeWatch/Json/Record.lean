import NodeWatch.Json.Tree

/-!
# Records in JSON documents

A record is written as an object with its fields, or as an array of exactly its fields in their
order. In an object no field may be given twice; other members are passed over, whatever they hold,
as long as their names are texts.
-/

namespace NodeWatch.Json

/-- Finds the fields of those names among members; none is given twice. -/
def pickFields (names : List String) (members : List (String × Tree)) :
    Option (List (Option Tree)) :=
  names.mapM fun name =>
    match members.filter (·.1 = name) with
    | [] => some none
    | [(_, tree)] => some (some tree)
    | _ => none

/-- The fields of those names in a record. -/
def Tree.fields? (names : List String) : Tree → Option (List (Option Tree))
  | .object members => do
    let members ← members.mapM fun (name, tree) => (text? name).map (·, tree)
    pickFields names members
  | .array items => if items.length = names.length then some (items.map some) else none
  | _ => none

/-- Reads a text. -/
def Tree.string? : Tree → Option String
  | .text pieces => text? pieces
  | _ => none

/-- Reads an integer of 64 bits with a sign. -/
def Tree.int64? : Tree → Option Int
  | .numeral n =>
    match n.number? with
    | some (.integer i) => if Width.fitsSigned 64 i then some i else none
    | _ => none
  | _ => none

/-- Reads a field that may be missing or null. -/
def Tree.optional? {α : Type} (read : Tree → Option α) : Option Tree → Option (Option α)
  | none | some .null => some none
  | some tree => (read tree).map some

end NodeWatch.Json
