import NodeWatch.Quantity

/-!
# Lag and sync verdict

A node is in sync while its block number and the explorer's differ by at most a threshold. The lag
is signed in the reports and absolute in the verdict.
-/

namespace NodeWatch

/-- How far the node is behind the explorer: negative when it is ahead. -/
def blocksBehind (own remote : UInt64) : Int := (remote.toNat : Int) - (own.toNat : Int)

/-- The lag without its sign, as a 64-bit number. -/
def absoluteLag (behind : Int) : UInt64 := Quantity.saturate behind.natAbs

/-- The last verdict on whether the node is in sync; a fresh one says that it is not. -/
structure Verdict where
  synced : Bool := false
  deriving DecidableEq, Repr

namespace Verdict

/-- The verdict for a lag; a lag equal to the threshold is still in sync. -/
def ofLag (lag threshold : UInt64) : Verdict := ⟨decide (lag ≤ threshold)⟩

/-- The verdict after a new lag, and whether it changed. -/
def update (v : Verdict) (lag threshold : UInt64) : Verdict × Bool :=
  (ofLag lag threshold, (ofLag lag threshold).synced != v.synced)

end Verdict

end NodeWatch
