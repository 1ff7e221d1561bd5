import NodeWatch.Decimal.Nearest
import NodeWatch.Notice

/-!
# Events

Everything that a tick of the monitor does to the world outside is an event: it asks a collaborator,
sets or withdraws a gauge, or notes something in the log. The values of gauges are kept exact here;
they are rounded when they are written out.
-/

namespace NodeWatch

/-- Label names and values, in the order of the names. -/
abbrev Labels := List (String × String)

/-- An explorer client, by the number under which it was built. -/
abbrev ExplorerId := Nat

/-- A question to a collaborator. -/
inductive Call
  | chainId
  | peerCount
  | blockNumber
  | blockByNumber (number : UInt64)
  | explorerFactory (chain : Chain)
  | remoteBlockNumber (explorer : ExplorerId)
  deriving DecidableEq, Repr

/-- The exact value of a gauge. -/
inductive Reading
  /-- A whole number. -/
  | whole (n : Int)
  /-- A number of thousandths. -/
  | thousandths (n : Int)
  deriving DecidableEq, Repr

namespace Reading

/-- The value as a floating-point number; thousandths are rounded, then divided. -/
def toFloat : Reading → Float
  | whole n => Decimal.ofInt n
  | thousandths n => Decimal.ofInt n / 1000

/-- A count. -/
def count (n : UInt64) : Reading := whole n.toNat

/-- One for yes and zero for no. -/
def flag (b : Bool) : Reading := whole (if b then 1 else 0)

end Reading

/-- Something that a tick does. -/
inductive Event
  | call (question : Call)
  | set (gauge : String) (labels : Labels) (value : Reading)
  | remove (gauge : String) (labels : Labels)
  | note (notice : Notice)
  deriving DecidableEq, Repr

end NodeWatch
