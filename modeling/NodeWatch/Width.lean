/-!
# Integers of a fixed width

Which integers fit into a number of bits, with or without a sign.
-/

namespace NodeWatch.Width

/-- Whether an integer fits into that many bits, the first of which is a sign. -/
def fitsSigned (bits : Nat) (n : Int) : Bool :=
  -(Nat.pow 2 (bits - 1) : Int) ≤ n && n < (Nat.pow 2 (bits - 1) : Int)

/-- Whether an integer fits into that many bits without a sign. -/
def fitsUnsigned (bits : Nat) (n : Int) : Bool := 0 ≤ n && n < (Nat.pow 2 bits : Int)

end NodeWatch.Width
