import NodeWatch.Entries

/-!
# JSON values

A value as programs handle it. An object that was read has its members in the order of their names,
each name once; an object that is to be written has them in the order in which they shall appear.
-/

namespace NodeWatch

/-- A JSON number: an integer of at most 64 bits, or a floating-point number. -/
inductive Json.Number
  | integer (n : Int)
  | real (x : Float)

/-- A JSON value. -/
inductive Json
  | null
  | bool (b : Bool)
  | number (n : Json.Number)
  | text (s : String)
  | array (items : List Json)
  | object (members : List (String × Json))

namespace Json

/-- An integer as a value. -/
def int (n : Int) : Json := number (.integer n)

/-- A natural number as a value. -/
def nat (n : Nat) : Json := int n

/-- The object with these members; of two members of one name the later one counts. -/
def ofMembers (members : List (String × Json)) : Json := object (Entries.ofList members)

/-- The member of that name; a value that is no object has none. -/
def member? (name : String) : Json → Option Json
  | object members => Entries.find? name members
  | _ => none

end Json

end NodeWatch
