import NodeWatch.Text.Digit
import NodeWatch.Text.Utf8

/-!
# Percent encoding

A character that may not stand in a part of an address is written as its bytes in UTF-8, each as a
percent sign and two hexadecimal digits. Which characters those are depends on the part.
-/

namespace NodeWatch.Percent

/-- The parts of an address that have an encoding of their own. -/
inductive Part
  /-- A path without segments, or the host of a scheme that is not special. -/
  | opaquePart
  | fragment
  | query
  /-- The query of a special scheme. -/
  | specialQuery
  | path
  | userinfo
  deriving DecidableEq, Repr

/-- Whether a character must be encoded in a part. All parts encode what is not printable ASCII. -/
def isEncoded (part : Part) (c : Char) : Bool :=
  c < ' ' || '~' < c ||
  match part with
  | .opaquePart => false
  | .fragment => [' ', '"', '<', '>', '\x60'].contains c
  | .query => [' ', '"', '#', '<', '>'].contains c
  | .specialQuery => [' ', '"', '#', '<', '>', '\''].contains c
  | .path => [' ', '"', '#', '<', '>', '?', '^', '\x60', '\x7b', '\x7d'].contains c
  | .userinfo =>
    [' ', '"', '#', '<', '>', '?', '^', '\x60', '\x7b', '\x7d', '/', ':', ';', '=', '@', '[', '\\',
      ']', '|'].contains c

/-- A byte, encoded. -/
def byte (b : UInt8) : List Char :=
  ['%', (Nat.digitChar (b.toNat / 16)).toUpper, (Nat.digitChar (b.toNat % 16)).toUpper]

/-- A character in a part. -/
def char (part : Part) (c : Char) : List Char :=
  if isEncoded part c then (String.singleton c).toUTF8.toList.flatMap byte else [c]

/-- A text in a part. -/
def encode (part : Part) (cs : List Char) : List Char := cs.flatMap (char part)

/-- The bytes that an encoded text stands for; a percent sign without two digits stands for
itself. -/
def decodeBytes : List Char → List UInt8
  | [] => []
  | c :: rest =>
    let plain := (String.singleton c).toUTF8.toList ++ decodeBytes rest
    match c, rest with
    | '%', a :: b :: rest' =>
      match Digit.value? a, Digit.value? b with
      | some high, some low => UInt8.ofNat (high * 16 + low) :: decodeBytes rest'
      | _, _ => plain
    | _, _ => plain

/-- The text that an encoded text stands for. -/
def decode (cs : List Char) : String := Utf8.decodeReplacing (decodeBytes cs)

end NodeWatch.Percent
