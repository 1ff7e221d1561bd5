/-!
# Powers

The powers that numbers are scaled by when they pass between the binary and the decimal system.
-/

namespace NodeWatch.Decimal

/-- A power of two. -/
def pow2 (k : Nat) : Nat := Nat.pow 2 k

/-- A power of ten. -/
def pow10 (k : Nat) : Nat := Nat.pow 10 k

end NodeWatch.Decimal
