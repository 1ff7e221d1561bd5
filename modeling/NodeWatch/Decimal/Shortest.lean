import NodeWatch.Decimal.Power

/-!
# Shortest decimals

A floating-point number stands for all reals that round to it, an interval around it that holds its
ends exactly when its significand is even. The shortest decimal of the number is the multiple of the
greatest power of ten that lies in the interval, and of two such multiples the one nearer to the
number. All arithmetic is on natural numbers.
-/

namespace NodeWatch

/-- The decimal `digits * 10 ^ exponent`. -/
structure Decimal where
  digits : Nat
  exponent : Int
  deriving DecidableEq, Repr

namespace Decimal

/-- Which of two equally near decimals is taken. -/
inductive Tie
  | up
  | even
  deriving DecidableEq, Repr

/-- A positive floating-point number `significand * 2 ^ exponent`. -/
structure Binary where
  significand : Nat
  exponent : Int
  /-- Whether the next smaller number is half as far away as the next greater one. -/
  atPower : Bool
  deriving DecidableEq, Repr

/-- What the bits of a finite number say of its size. -/
def Binary.ofBits (bits : UInt64) : Binary :=
  let fraction : Nat := bits.toNat % pow2 52
  let power : Nat := bits.toNat / pow2 52 % pow2 11
  if power = 0 then ⟨fraction, -1074, false⟩
  else ⟨pow2 52 + fraction, (power : Int) - 1075, fraction == 0 && 1 < power⟩

namespace Binary

/-- Four times the number, and four times the ends of its interval, in units of `2 ^ exponent`. -/
def scaled (b : Binary) : Nat × Nat × Nat :=
  (4 * b.significand, 4 * b.significand - (if b.atPower then 1 else 2), 4 * b.significand + 2)

/-- The multiple of `10 ^ k` in the interval that is nearest to the number, if there is one. -/
def multiple? (tie : Tie) (b : Binary) (k : Int) : Option Nat :=
  let (value, low, high) := b.scaled
  let unit := pow10 k.toNat * pow2 (2 - b.exponent).toNat
  let scale := pow10 (-k).toNat * pow2 (b.exponent - 2).toNat
  let isInside (d : Nat) : Bool :=
    if b.significand % 2 = 0 then low * scale ≤ d * unit && d * unit ≤ high * scale
    else low * scale < d * unit && d * unit < high * scale
  let below := value * scale / unit
  let above := below + 1
  match isInside below, isInside above with
  | true, true =>
    match compare (value * scale - below * unit) (above * unit - value * scale) with
    | .lt => some below
    | .gt => some above
    | .eq => some (if tie = .even ∧ below % 2 = 0 then below else above)
  | true, false => some below
  | false, true => some above
  | false, false => none

/-- The multiple of the greatest of the powers `10 ^ k`, `10 ^ (k - 1)`, … that has one inside. -/
def search (tie : Tie) (b : Binary) : Nat → Int → Option Decimal
  | 0, _ => none
  | fuel + 1, k =>
    match b.multiple? tie k with
    | some d => some ⟨d, k⟩
    | none => search tie b fuel (k - 1)

/-- A power of ten above the number: its binary logarithm times 0.30103, rounded up. -/
def topPower (b : Binary) : Int := (b.significand.log2 + b.exponent + 1) * 30103 / 100000 + 1

/-- The shortest decimal of the number: nineteen powers below the top are enough. -/
def shortest (tie : Tie) (b : Binary) : Decimal :=
  (search tie b 20 b.topPower).getD ⟨b.significand, 0⟩

end Binary

end Decimal

end NodeWatch
