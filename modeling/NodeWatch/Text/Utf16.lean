/-!
# Reading UTF-16

Bytes are taken in pairs, in either order. A surrogate that is not part of a pair, and a byte left
over at the end, become the replacement character.
-/

namespace NodeWatch.Utf16

/-- The order of the two bytes of a unit. -/
inductive Endian
  | little
  | big
  deriving DecidableEq, Repr

/-- The unit that two bytes make. -/
def unit (order : Endian) (first second : UInt8) : Nat :=
  match order with
  | .little => second.toNat * 256 + first.toNat
  | .big => first.toNat * 256 + second.toNat

/-- The units of a text, and whether a byte is left over. -/
def units (order : Endian) : List UInt8 → List Nat × Bool
  | [] => ([], false)
  | [_] => ([], true)
  | a :: b :: rest =>
    match units order rest with
    | (us, odd) => (unit order a b :: us, odd)

/-- Whether a unit is the first of a surrogate pair. -/
def isLead (u : Nat) : Bool := 0xD800 ≤ u && u < 0xDC00

/-- Whether a unit is the second of a surrogate pair. -/
def isTrail (u : Nat) : Bool := 0xDC00 ≤ u && u < 0xE000

/-- The character of a surrogate pair. -/
def pair (lead trail : Nat) : Char :=
  Char.ofNat (0x10000 + (lead - 0xD800) * 1024 + (trail - 0xDC00))

/-- The characters of units, a lead that waits for its trail being given first. -/
def charsFrom : Option Nat → List Nat → List Char
  | none, [] => []
  | some _, [] => ['\uFFFD']
  | none, u :: rest =>
    if isLead u then charsFrom (some u) rest
    else if isTrail u then '\uFFFD' :: charsFrom none rest
    else Char.ofNat u :: charsFrom none rest
  | some lead, u :: rest =>
    if isTrail u then pair lead u :: charsFrom none rest
    else if isLead u then '\uFFFD' :: charsFrom (some u) rest
    else '\uFFFD' :: Char.ofNat u :: charsFrom none rest

/-- Whether units end with a lead that waits for its trail. -/
def endsWithLead (us : List Nat) : Bool := us.getLast?.any isLead

/-- Reads a text with the replacement character for what is broken. A lead and a left-over byte
that end the text together are one broken piece. -/
def decodeReplacing (order : Endian) (bytes : List UInt8) : String :=
  match units order bytes with
  | (us, odd) =>
    String.ofList (charsFrom none us ++ if odd && !endsWithLead us then ['\uFFFD'] else [])

end NodeWatch.Utf16
