import NodeWatch.Decimal.Nearest
import NodeWatch.Toml.Date
import NodeWatch.Toml.Value
import NodeWatch.Width

/-!
# Bare values in TOML

Truth values, numbers and dates are written without quotes. Underscores may stand between the digits
of a number. An integer is decimal, without leading zeros and perhaps with a sign, or in another
base with a prefix and without a sign.
-/

namespace NodeWatch.Toml

/-- The digits of a numeral without its underscores, each of which must stand between two digits. -/
def digits? (base : Nat) : List Char → Option (List Char)
  | [] => none
  | [c] => if Digit.isDigit base c then some [c] else none
  | c :: '_' :: rest => if Digit.isDigit base c then (digits? base rest).map (c :: ·) else none
  | c :: rest => if Digit.isDigit base c then (digits? base rest).map (c :: ·) else none

/-- The digits before a point: they do not begin with a zero unless that is all. -/
def wholeDigits? (cs : List Char) : Option (List Char) :=
  match cs with
  | '0' :: _ :: _ => none
  | cs => digits? 10 cs

/-- The largest integers are of 128 bits, with or without a sign. -/
def ofInteger (n : Int) : Toml :=
  if Width.fitsSigned 128 n ∨ Width.fitsUnsigned 128 n then .integer n
  else .unreadable .integerOverflow

/-- The value of a floating-point numeral. -/
def ofReal (x : Float) : Toml := if x.isInf then .unreadable .realOverflow else .real x

/-- Reads an integer in a base that has a prefix. Without any digits it is no number, but still a
numeral. -/
def ofPrefixed? (base : Nat) (cs : List Char) : Option Toml :=
  match cs with
  | [] => some (.unreadable .integerOverflow)
  | cs => (digits? base cs).map fun digits => ofInteger (Digit.valueOf base digits)

/-- Reads an exponent after its letter. -/
def exponent? : List Char → Option Int
  | '+' :: cs => (digits? 10 cs).map fun digits => (Digit.valueOf 10 digits : Int)
  | '-' :: cs => (digits? 10 cs).map fun digits => -(Digit.valueOf 10 digits : Int)
  | cs => (digits? 10 cs).map fun digits => (Digit.valueOf 10 digits : Int)

/-- Whether a character is a digit or stands between digits. -/
def isDigitOrBar (c : Char) : Bool := Digit.isDigit 10 c || c == '_'

/-- The value of a decimal numeral of that sign, fraction and exponent. -/
def decimal (negative : Bool) (whole fraction : List Char) (exponent : Int) : Toml :=
  ofReal (Decimal.ofDecimal negative (Digit.valueOf 10 (whole ++ fraction))
    (exponent - fraction.length))

/-- Reads a decimal numeral without its sign. -/
def ofDecimal? (negative : Bool) (cs : List Char) : Option Toml := do
  let whole ← wholeDigits? (cs.takeWhile isDigitOrBar)
  match cs.dropWhile isDigitOrBar with
  | [] =>
    let n := Digit.valueOf 10 whole
    some (ofInteger (if negative then -(n : Int) else n))
  | '.' :: rest =>
    let fraction ← digits? 10 (rest.takeWhile isDigitOrBar)
    match rest.dropWhile isDigitOrBar with
    | [] => some (decimal negative whole fraction 0)
    | 'e' :: rest | 'E' :: rest =>
      let exponent ← exponent? rest
      some (decimal negative whole fraction exponent)
    | _ => none
  | 'e' :: rest | 'E' :: rest =>
    let exponent ← exponent? rest
    some (decimal negative whole [] exponent)
  | _ => none

/-- Reads a number after its sign. -/
def ofUnsigned? (negative : Bool) : List Char → Option Toml
  | ['i', 'n', 'f'] => some (.real (if negative then -(1 / 0) else 1 / 0))
  | ['n', 'a', 'n'] => some (.real (0 / 0))
  | cs => ofDecimal? negative cs

/-- Reads a bare value. -/
def ofBare? : List Char → Option Toml
  | ['t', 'r', 'u', 'e'] => some (.bool true)
  | ['f', 'a', 'l', 's', 'e'] => some (.bool false)
  | '0' :: 'x' :: cs => ofPrefixed? 16 cs
  | '0' :: 'o' :: cs => ofPrefixed? 8 cs
  | '0' :: 'b' :: cs => ofPrefixed? 2 cs
  | '+' :: cs => ofUnsigned? false cs
  | '-' :: cs => ofUnsigned? true cs
  | cs => if Date.isDate cs then some .date else ofUnsigned? false cs

/-- Whether a character may stand in a bare value. -/
def isBareChar (c : Char) : Bool :=
  c.isAlphanum || c == '_' || c == '+' || c == '-' || c == '.' || c == ':'

/-- Reads a bare value and gives what follows. A blank after a day belongs to the value if a time
follows. -/
def scanBare? (cs : List Char) : Option (Toml × List Char) :=
  let first := cs.takeWhile isBareChar
  let rest := cs.dropWhile isBareChar
  match rest with
  | ' ' :: c :: after =>
    if Date.dropDay? first = some [] ∧ c.isDigit then
      (ofBare? (first ++ ' ' :: (c :: after).takeWhile isBareChar)).map
        (·, (c :: after).dropWhile isBareChar)
    else (ofBare? first).map (·, rest)
  | _ => (ofBare? first).map (·, rest)

end NodeWatch.Toml
