import NodeWatch.Text.Digit

/-!
# Dates in TOML

A date, a time of day, or both, and with both an offset from universal time. Only whether it is one
is asked: days must exist in their month, and times on the clock, a leap second included.
-/

namespace NodeWatch.Toml.Date

/-- Whether a year has a 29th of February. -/
def isLeap (year : Nat) : Bool := year % 4 = 0 && (year % 100 ≠ 0 || year % 400 = 0)

/-- The number of days in a month; what is no month has none. -/
def daysIn (year month : Nat) : Nat :=
  match month with
  | 1 | 3 | 5 | 7 | 8 | 10 | 12 => 31
  | 4 | 6 | 9 | 11 => 30
  | 2 => if isLeap year then 29 else 28
  | _ => 0

/-- Reads a day: what follows it. -/
def dropDay? : List Char → Option (List Char)
  | y₁ :: y₂ :: y₃ :: y₄ :: '-' :: m₁ :: m₂ :: '-' :: d₁ :: d₂ :: rest => do
    let year ← Digit.number? 10 [y₁, y₂, y₃, y₄]
    let month ← Digit.number? 10 [m₁, m₂]
    let day ← Digit.number? 10 [d₁, d₂]
    if 1 ≤ day ∧ day ≤ daysIn year month then some rest else none
  | _ => none

/-- Reads the part of a second after the point: what follows it. -/
def dropFraction? (cs : List Char) : Option (List Char) :=
  match cs.takeWhile (Digit.isDigit 10) with
  | [] => none
  | _ => some (cs.dropWhile (Digit.isDigit 10))

/-- Reads the seconds of a time, if there are any: what follows them. -/
def dropSeconds? : List Char → Option (List Char)
  | ':' :: s₁ :: s₂ :: rest => do
    let second ← Digit.number? 10 [s₁, s₂]
    if 60 < second then none
    else match rest with
      | '.' :: rest => dropFraction? rest
      | rest => some rest
  | ':' :: _ => none
  | cs => some cs

/-- Reads hours and minutes: what follows them. -/
def dropMinutes? : List Char → Option (List Char)
  | h₁ :: h₂ :: ':' :: m₁ :: m₂ :: rest => do
    let hour ← Digit.number? 10 [h₁, h₂]
    let minute ← Digit.number? 10 [m₁, m₂]
    if hour < 24 ∧ minute < 60 then some rest else none
  | _ => none

/-- Reads a time of day: what follows it. -/
def dropTime? (cs : List Char) : Option (List Char) := (dropMinutes? cs).bind dropSeconds?

/-- Whether nothing or an offset is left. -/
def isOffset : List Char → Bool
  | [] => true
  | ['Z'] | ['z'] => true
  | '+' :: cs | '-' :: cs => dropMinutes? cs == some []
  | _ => false

/-- Whether a character may stand between a day and a time. -/
def isJoint (c : Char) : Bool := c == 'T' || c == 't' || c == ' '

/-- Whether characters are a date. -/
def isDate (cs : List Char) : Bool :=
  match dropDay? cs with
  | some [] => true
  | some (joint :: time) => isJoint joint && (dropTime? time).any isOffset
  | none => dropTime? cs == some []

end NodeWatch.Toml.Date
