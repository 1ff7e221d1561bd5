/-!
# Names of gauges and labels

A name is made of ASCII letters, digits and underscores and does not begin with a digit; the name of
a gauge may also hold colons. A gauge that breaks these rules, or is used with other labels than
those it was first set with, is refused for one of the reasons listed here.
-/

namespace NodeWatch.Gauge

/-- Whether a character may begin a label name. -/
def isLabelStart (c : Char) : Bool := c.isAlpha || c == '_'

/-- Whether a text is a label name. -/
def isLabelName (name : String) : Bool :=
  match name.toList with
  | [] => false
  | c :: rest => isLabelStart c && rest.all fun c => isLabelStart c || c.isDigit

/-- Whether a character may begin the name of a gauge. -/
def isNameStart (c : Char) : Bool := isLabelStart c || c == ':'

/-- Whether a text is the name of a gauge. -/
def isName (name : String) : Bool :=
  match name.toList with
  | [] => false
  | c :: rest => isNameStart c && rest.all fun c => isNameStart c || c.isDigit

/-- Why a gauge was not set or withdrawn. -/
inductive Fault
  | invalidName (name : String)
  | invalidLabel (name : String)
  /-- Another gauge is registered under the same name. -/
  | alreadyRegistered
  /-- The gauge has another number of labels. -/
  | cardinality (expected given : Nat)
  /-- The gauge has a label that was not given. -/
  | missingLabel (name : String)
  /-- The gauge has no series with these label values. -/
  | noSeries
  deriving DecidableEq, Repr

/-- The fault in words. -/
def Fault.message : Fault → String
  | invalidName name => s!"Error: '{name}' is not a valid metric name"
  | invalidLabel name => s!"Error: '{name}' is not a valid label name"
  | alreadyRegistered => "Duplicate metrics collector registration attempted"
  | cardinality expected given =>
    s!"Inconsistent label cardinality, expect {expected} label values, but got {given}"
  | missingLabel name => s!"Error: label name {name} missing in label map"
  | noSeries => "Error: missing labels"

end NodeWatch.Gauge
