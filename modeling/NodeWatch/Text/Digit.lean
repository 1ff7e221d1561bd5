/-!
# Digits

The values of digits in bases up to sixteen. Letters count in either case.
-/

namespace NodeWatch.Digit

/-- The value of a hexadecimal digit. -/
def value? (c : Char) : Option Nat :=
  if '0' ≤ c ∧ c ≤ '9' then some (c.toNat - 48)
  else if 'a' ≤ c ∧ c ≤ 'f' then some (c.toNat - 87)
  else if 'A' ≤ c ∧ c ≤ 'F' then some (c.toNat - 55)
  else none

/-- Whether a character is a digit of the base. -/
def isDigit (base : Nat) (c : Char) : Bool := (value? c).any (· < base)

/-- The value of digits of the base. -/
def valueOf (base : Nat) (digits : List Char) : Nat :=
  digits.foldl (fun n c => base * n + (value? c).getD 0) 0

/-- The number that characters write in the base, if all are digits; no digits write zero. -/
def number? (base : Nat) (cs : List Char) : Option Nat :=
  if cs.all (isDigit base) then some (valueOf base cs) else none

end NodeWatch.Digit
