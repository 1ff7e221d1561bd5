import NodeWatch.Decimal.Nearest
import NodeWatch.Json.Value
import NodeWatch.Width

/-!
# JSON numerals

A numeral without fraction and exponent is an integer as long as it fits in 64 bits; minus zero is
not one. Every other numeral is a floating-point number, computed in floating-point arithmetic from
its leading digits: digits are taken into a 64-bit significand until one does not fit, and the
significand is then multiplied or divided by a power of ten. Numerals whose number would be infinite
are refused.
-/

namespace NodeWatch.Json

/-- A numeral, digit by digit. -/
structure Numeral where
  negative : Bool
  /-- The digits before the point. -/
  whole : List Nat
  /-- The digits after the point, if there is one. -/
  fraction : Option (List Nat)
  /-- Whether the exponent is negative, and its digits. -/
  exponent : Option (Bool × List Nat)
  deriving DecidableEq, Repr

/-- The value of decimal digits. -/
def digitsValue (digits : List Nat) : Nat := digits.foldl (fun n d => 10 * n + d) 0

/-- Takes digits into a significand while they fit; the digits from the first that does not are
left. -/
def absorb (significand : Nat) : List Nat → Nat × List Nat
  | [] => (significand, [])
  | d :: rest =>
    if significand * 10 + d < UInt64.size then absorb (significand * 10 + d) rest
    else (significand, d :: rest)

/-- A power of ten as a floating-point number. -/
def powerOfTen (k : Nat) : Float := Decimal.ofDecimal false 1 k

/-- Divides by 10^308 until the exponent is at least -308 or the number is zero. -/
def scaleDown (x : Float) (exponent : Int) : Nat → Float × Int
  | 0 => (x, exponent)
  | steps + 1 =>
    if -308 ≤ exponent ∨ x == 0 then (x, exponent)
    else scaleDown (x / powerOfTen 308) (exponent + 308) steps

/-- The number `significand * 10 ^ exponent` in floating-point arithmetic, if it is finite. Four
divisions by 10^308 make any 64-bit significand zero. -/
def scale? (significand : Nat) (exponent : Int) : Option Float :=
  match scaleDown (Decimal.ofInt significand) exponent 4 with
  | (x, e) =>
    if x == 0 then some 0
    else if 308 < e then none
    else if 0 ≤ e then
      let y := x * powerOfTen e.toNat
      if y.isInf then none else some y
    else some (x / powerOfTen (-e).toNat)

/-- The size of a numeral as a floating-point number. -/
def Numeral.size? (n : Numeral) : Option Float :=
  let (head, dropped) := absorb 0 n.whole
  let fraction := n.fraction.getD []
  let (significand, unused) := absorb head fraction
  let shift : Int := (dropped.length : Int) - (fraction.length - unused.length : Nat)
  match n.exponent with
  | none => scale? significand shift
  | some (negative, digits) =>
    let exponent := digitsValue digits
    if Width.fitsSigned 32 exponent then
      scale? significand (if negative then shift - exponent else shift + exponent)
    else if significand ≠ 0 ∧ !negative then none
    else some 0

/-- The number of a numeral. -/
def Numeral.number? (n : Numeral) : Option Number :=
  let whole := digitsValue n.whole
  if n.fraction = none ∧ n.exponent = none ∧ !n.negative ∧ Width.fitsUnsigned 64 whole then
    some (.integer whole)
  else if n.fraction = none ∧ n.exponent = none ∧ n.negative ∧ 0 < whole ∧
      Width.fitsSigned 64 (-whole) then
    some (.integer (-whole))
  else n.size?.map fun x => .real (if n.negative then -x else x)

end NodeWatch.Json
