import NodeWatch.Document.Fault
import NodeWatch.Text.Quoted

/-!
# Views of documents

Documents of different formats are read through one view: what kind of thing a value is, and what it
holds. A record may be written as a table of its fields, or as an array of them in their order.
-/

namespace NodeWatch

/-- What a value of a document is, seen from outside. -/
inductive View (α : Type)
  | null
  | bool (b : Bool)
  | integer (n : Int)
  /-- A floating-point number, as its format writes it. -/
  | real (text : String)
  | text (s : String)
  /-- An array; in some formats one that stands for a record may have no more items than fields. -/
  | list (items : List α) (refusesSurplus : Bool)
  /-- A table, in the order of its keys. -/
  | table (entries : List (String × α))
  /-- A numeral that no number stands for. -/
  | unreadable (fault : Fault)

/-- A format of documents. -/
class Document (α : Type) where
  view : α → View α
  /-- The first fault in a value that nobody asks for. -/
  defect? : α → Option Fault

namespace View

variable {α : Type}

/-- The fault of finding this value where something else was expected. -/
def mismatch (expected : String) : View α → Fault
  | null => .invalidType .null expected
  | bool b => .invalidType (.bool b) expected
  | integer n => .invalidType (.integer n) expected
  | real shown => .invalidType (.real shown) expected
  | text s => .invalidType (.text (Text.quoted s)) expected
  | list _ _ => .invalidType .sequence expected
  | table _ => .invalidType .map expected
  | unreadable fault => fault

end View

namespace Document

variable {α : Type} [Document α]

/-- Reads a text. -/
def text (a : α) : Except Fault String :=
  match view a with
  | .text s => .ok s
  | v => .error (v.mismatch "a string")

/-- Reads a natural number below the bound. Integers of at most 64 bits that are out of range are of
the right kind. -/
def natural (bound : Nat) (expected : String) (a : α) : Except Fault Nat :=
  match view a with
  | .integer n =>
    if 0 ≤ n ∧ n < bound then .ok n.toNat
    else if Width.fitsSigned 64 n ∨ Width.fitsUnsigned 64 n then
      .error (.invalidValue (.integer n) expected)
    else .error (.invalidType (.integer n) expected)
  | v => .error (v.mismatch expected)

/-- Reads a number of 16 bits. -/
def word16 (a : α) : Except Fault UInt16 := (natural UInt16.size "u16" a).map UInt16.ofNat

/-- Reads a number of 32 bits. -/
def word32 (a : α) : Except Fault UInt32 := (natural UInt32.size "u32" a).map UInt32.ofNat

/-- Reads a number of 64 bits. -/
def word64 (a : α) : Except Fault UInt64 := (natural UInt64.size "u64" a).map UInt64.ofNat

/-- Reads an array of texts. -/
def texts (a : α) : Except Fault (List String) :=
  match view a with
  | .list items _ => items.mapM text
  | v => .error (v.mismatch "a sequence")

/-- Passes over a value that nobody asks for. -/
def ignore (a : α) : Except Fault Unit :=
  match defect? a with
  | none => .ok ()
  | some fault => .error fault

/-- Reads fields one after the other into a draft of the record; the first fault counts. -/
def readFields {δ : Type} (read : String → α → δ → Except Fault δ) (draft : δ)
    (fields : List (String × α)) : Except Fault δ :=
  fields.foldlM (fun draft (name, value) => read name value draft) draft

/-- The complaint about an array that has more items than the record has fields. -/
def surplus (length : Nat) : Fault := .invalidLength length "fewer elements in array"

end Document

end NodeWatch
