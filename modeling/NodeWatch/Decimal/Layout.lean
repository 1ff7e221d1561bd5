import NodeWatch.Decimal.Shortest

/-!
# Layout of floating-point numbers

The shortest decimal of a number is written out positionally, or with an exponent where a format
asks for it. What the formats decide differently is gathered in one record.
-/

namespace NodeWatch.Decimal

/-- The decisions of a format. -/
structure Layout where
  tie : Tie
  /-- Whether a whole number gets a point and a zero. -/
  pointZero : Bool
  /-- The powers of ten of the leading digit between which numbers are written positionally. -/
  positional : Option (Int × Int)

namespace Layout

/-- Gauges are written positionally at any size, and whole numbers without a point. -/
def gauge : Layout := ⟨.up, false, none⟩

/-- A number in a complaint about a TOML document: as in a gauge, but always with a point. -/
def pointed : Layout := ⟨.up, true, none⟩

/-- JSON has a point in every positional number and an exponent from 10^16 on and below 10^-5. -/
def json : Layout := ⟨.even, true, some (-5, 15)⟩

end Layout

/-- The digits of a decimal with the point set positionally. -/
def positionalText (pointZero : Bool) (d : Decimal) : List Char :=
  let digits := Nat.toDigits 10 d.digits
  if 0 ≤ d.exponent then
    digits ++ List.replicate d.exponent.toNat '0' ++ (if pointZero then ['.', '0'] else [])
  else
    let places := (-d.exponent).toNat
    if places < digits.length then
      digits.take (digits.length - places) ++ '.' :: digits.drop (digits.length - places)
    else '0' :: '.' :: List.replicate (places - digits.length) '0' ++ digits

/-- The digits of a decimal with one of them before the point, and the power of ten of that one. -/
def exponentText (d : Decimal) : List Char :=
  let digits := Nat.toDigits 10 d.digits
  let power := d.exponent + (digits.length - 1 : Nat)
  let mantissa := match digits with
    | [] => []
    | [c] => [c]
    | c :: rest => c :: '.' :: rest
  mantissa ++ ['e', if 0 ≤ power then '+' else '-'] ++ Nat.toDigits 10 power.natAbs

/-- The text of a positive decimal. -/
def decimalText (layout : Layout) (d : Decimal) : List Char :=
  let power := d.exponent + ((Nat.toDigits 10 d.digits).length - 1 : Nat)
  match layout.positional with
  | some (least, greatest) =>
    if least ≤ power ∧ power ≤ greatest then positionalText layout.pointZero d else exponentText d
  | none => positionalText layout.pointZero d

/-- The text of the size of a finite number. -/
def sizeText (layout : Layout) (bits : UInt64) : List Char :=
  let b := Binary.ofBits bits
  if b.significand = 0 then if layout.pointZero then ['0', '.', '0'] else ['0']
  else decimalText layout (b.shortest layout.tie)

/-- The text of a floating-point number. -/
def text (layout : Layout) (x : Float) : String :=
  let bits := x.toBits
  let sign := if pow2 63 ≤ bits.toNat then ['-'] else []
  if bits.toNat / pow2 52 % pow2 11 = pow2 11 - 1 then
    if bits.toNat % pow2 52 = 0 then String.ofList (sign ++ ['i', 'n', 'f']) else "NaN"
  else String.ofList (sign ++ sizeText layout bits)

end NodeWatch.Decimal
