import NodeWatch.Decimal.Layout
import NodeWatch.Document.View
import NodeWatch.Json.Value

/-!
# JSON values as documents

An array that stands for a record may have no items beyond its fields.
-/

namespace NodeWatch.Json

/-- The view of a value. -/
def view : Json → View Json
  | .null => .null
  | .bool b => .bool b
  | .number (.integer n) => .integer n
  | .number (.real x) => .real (Decimal.text .json x)
  | .text s => .text s
  | .array items => .list items true
  | .object members => .table members

instance : Document Json where
  view := view
  defect? _ := none

end NodeWatch.Json
