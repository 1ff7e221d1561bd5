import NodeWatch.Decimal.Layout
import NodeWatch.Document.View

/-!
# TOML values

A value as programs handle it. A table has its entries in the order of their keys. Which day or time
a date is does not matter to anyone here: a date counts as a table that holds nothing asked for.
-/

namespace NodeWatch

/-- A TOML value. -/
inductive Toml
  | text (s : String)
  | integer (n : Int)
  | real (x : Float)
  | bool (b : Bool)
  | date
  | array (items : List Toml)
  | table (entries : List (String × Toml))
  /-- A numeral that no number stands for. -/
  | unreadable (fault : Fault)

namespace Toml

/-- The view of a value. An array that stands for a record may have more items than fields, and the
ones too many are passed over. -/
def view : Toml → View Toml
  | .text s => .text s
  | .integer n => .integer n
  | .real x => .real (Decimal.text .pointed x)
  | .bool b => .bool b
  | .date => .table [("date", .text "")]
  | .array items => .list items false
  | .table entries => .table entries
  | .unreadable fault => .unreadable fault

mutual

/-- The first unreadable numeral in a value. -/
def defect? : Toml → Option Fault
  | .unreadable fault => some fault
  | .array items => itemDefect? items
  | .table entries => entryDefect? entries
  | _ => none

/-- The first unreadable numeral in the items of an array. -/
def itemDefect? : List Toml → Option Fault
  | [] => none
  | item :: rest => item.defect? <|> itemDefect? rest

/-- The first unreadable numeral in the entries of a table. -/
def entryDefect? : List (String × Toml) → Option Fault
  | [] => none
  | (_, value) :: rest => value.defect? <|> entryDefect? rest

end

instance : Document Toml where
  view := view
  defect? := defect?

end Toml

end NodeWatch
