import NodeWatch.Decimal.Power

/-!
# Nearest floating-point numbers

A positive fraction is rounded to the nearest floating-point number, a tie going to the one with the
even significand. The significand gets 53 bits, or as many as the least exponent allows. Beyond the
greatest number there is infinity.
-/

namespace NodeWatch.Decimal

/-- The natural number nearest to a quotient; a half goes to the even neighbour. -/
def roundQuotient (num den : Nat) : Nat :=
  let below := num / den
  match compare (2 * (num % den)) den with
  | .lt => below
  | .gt => below + 1
  | .eq => below + below % 2

/-- The exponent of the leading bit of a positive fraction. -/
def leadingBit (num den : Nat) : Int :=
  let guess : Int := (num.log2 : Int) - den.log2
  if num * pow2 (-guess).toNat < den * pow2 guess.toNat then guess - 1 else guess

/-- The bits of infinity. -/
def infinityBits : Nat := 0x7FF * pow2 52

/-- The bits of the number nearest to a fraction whose denominator is positive. -/
def nearestBits (num den : Nat) : Nat :=
  if num = 0 then 0
  else
    let exponent : Int := max (leadingBit num den - 52) (-1074)
    let significand := roundQuotient (num * pow2 (-exponent).toNat) (den * pow2 exponent.toNat)
    min ((exponent + 1074).toNat * pow2 52 + significand) infinityBits

/-- The number with a sign and the bits of its size. -/
def signed (negative : Bool) (bits : Nat) : Float :=
  Float.ofBits (UInt64.ofNat (bits + if negative then pow2 63 else 0))

/-- The number nearest to a whole number. -/
def ofInt (n : Int) : Float := signed (n < 0) (nearestBits n.natAbs 1)

/-- The number nearest to `digits * 10 ^ exponent`. Exponents far outside the range of the numbers
are decided by the count of digits alone. -/
def ofDecimal (negative : Bool) (digits : Nat) (exponent : Int) : Float :=
  let magnitude := ((Nat.toDigits 10 digits).length : Int) + exponent
  signed negative <|
    if digits = 0 ∨ magnitude < -400 then 0
    else if 400 < magnitude then infinityBits
    else nearestBits (digits * pow10 exponent.toNat) (pow10 (-exponent).toNat)

end NodeWatch.Decimal
