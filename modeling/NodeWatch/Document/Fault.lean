import NodeWatch.Width

/-!
# Faults of documents

Why a document, though well formed, is not what was asked for. The wording names what was found and
what was expected in its place.
-/

namespace NodeWatch

/-- What was found in a document. -/
inductive Found
  | null
  | bool (b : Bool)
  | integer (n : Int)
  /-- A floating-point number, as its format writes it. -/
  | real (text : String)
  /-- A text, as it is quoted. -/
  | text (quoted : String)
  | sequence
  | map
  deriving DecidableEq, Repr

/-- What was found, in words. Integers of more than 64 bits are said to be such. -/
def Found.message : Found → String
  | null => "null"
  | bool b => s!"boolean `{b}`"
  | integer n =>
    if Width.fitsSigned 64 n ∨ Width.fitsUnsigned 64 n then s!"integer `{n}`"
    else if Width.fitsSigned 128 n then s!"integer `{n}` as i128"
    else s!"integer `{n}` as u128"
  | real shown => s!"floating point `{shown}`"
  | text quoted => s!"string {quoted}"
  | sequence => "sequence"
  | map => "map"

/-- Why a document is not what was asked for. -/
inductive Fault
  /-- A value of the wrong kind. -/
  | invalidType (found : Found) (expected : String)
  /-- A value of the right kind, but out of range. -/
  | invalidValue (found : Found) (expected : String)
  /-- An array of the wrong length. -/
  | invalidLength (length : Nat) (expected : String)
  | missingField (name : String)
  /-- An integer of more than 128 bits. -/
  | integerOverflow
  /-- A numeral whose floating-point number would be infinite. -/
  | realOverflow
  deriving DecidableEq, Repr

/-- The fault in words. -/
def Fault.message : Fault → String
  | invalidType found expected => s!"invalid type: {found.message}, expected {expected}"
  | invalidValue found expected => s!"invalid value: {found.message}, expected {expected}"
  | invalidLength length expected => s!"invalid length {length}, expected {expected}"
  | missingField name => s!"missing field `{name}`"
  | integerOverflow => "integer number overflowed"
  | realOverflow => "floating-point number overflowed"

end NodeWatch
