import NodeWatch.Text.Digit

/-!
# Hexadecimal quantities

A node writes numbers as `0x1b4`. A quantity is the letters `0x` or `0X`, at most one plus sign and
then hexadecimal digits of either case, any number of leading zeros included; its value is below
2^64. A text that is no quantity is refused with the leftmost reason.
-/

namespace NodeWatch

/-- Why a text is not a quantity. -/
inductive QuantityFault
  /-- The text does not begin with `0x` or `0X`. -/
  | notHex
  /-- Nothing follows the two letters. -/
  | noDigits
  /-- A character that is not a hexadecimal digit, or a sign with nothing after it. -/
  | invalidDigit
  /-- The value does not fit in 64 bits. -/
  | tooLarge
  deriving DecidableEq, Repr

namespace QuantityFault

/-- The reason as it is reported, `raw` being the refused text. -/
def message (raw : String) : QuantityFault → String
  | notHex => s!"'{raw}' is not a hex quantity"
  | noDigits => s!"'{raw}' has no digits"
  | invalidDigit => s!"'{raw}': invalid digit found in string"
  | tooLarge => s!"'{raw}': number too large to fit in target type"

end QuantityFault

namespace Quantity

/-- Reads digits from left to right on top of the value read so far. The first problem decides: a
bad digit where it stands, an overflow at the digit that causes it. -/
def accumulate (value : Nat) : List Char → Except QuantityFault Nat
  | [] => .ok value
  | c :: rest =>
    match Digit.value? c with
    | none => .error .invalidDigit
    | some d =>
      if value * 16 + d < UInt64.size then accumulate (value * 16 + d) rest
      else .error .tooLarge

/-- Reads what follows the two letters, which is not empty. -/
def ofDigits : List Char → Except QuantityFault Nat
  | [] => .error .noDigits
  | ['+'] => .error .invalidDigit
  | '+' :: rest => accumulate 0 rest
  | digits => accumulate 0 digits

/-- Reads a quantity as a natural number. -/
def ofChars : List Char → Except QuantityFault Nat
  | '0' :: 'x' :: digits => ofDigits digits
  | '0' :: 'X' :: digits => ofDigits digits
  | _ => .error .notHex

/-- Reads a quantity. -/
def parse (raw : String) : Except QuantityFault UInt64 :=
  (ofChars raw.toList).map UInt64.ofNat

/-- The text of a quantity: lower case, and no leading zeros. -/
def render (n : UInt64) : String :=
  "0x" ++ String.ofList (Nat.toDigits 16 n.toNat)

/-- The 64-bit number nearest to a natural number. -/
def saturate (n : Nat) : UInt64 :=
  if n < UInt64.size then UInt64.ofNat n else UInt64.ofNat (UInt64.size - 1)

end Quantity

end NodeWatch
