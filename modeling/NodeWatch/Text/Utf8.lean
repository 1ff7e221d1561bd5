/-!
# Reading UTF-8

Bytes are read as characters. A sequence of bytes that begins like a character but does not finish,
or that can begin none, is kept as one broken piece, as long as it could have gone on being a
character; so a text can be read strictly, or with a replacement for each broken piece, or looked at
piece by piece. Overlong forms, surrogates and values beyond U+10FFFF are broken.
-/

namespace NodeWatch.Utf8

/-- A piece of a text in bytes. -/
inductive Glyph
  | char (c : Char)
  /-- Bytes that are no character. -/
  | broken (bytes : List UInt8)
  deriving DecidableEq, Repr

/-- A character whose first bytes have been read. -/
structure Partial where
  /-- The bits read so far. -/
  value : Nat
  /-- How many more bytes are missing after the next one. -/
  later : Nat
  /-- The least and the greatest value of the next byte. -/
  low : UInt8 := 0x80
  high : UInt8 := 0xBF
  /-- The bytes read so far, the last one first. -/
  bytes : List UInt8

/-- What a byte begins: an ASCII character, a longer character, or nothing. -/
def start (b : UInt8) : List Glyph × Option Partial :=
  let v := b.toNat
  if v < 0x80 then ([.char (Char.ofNat v)], none)
  else if v < 0xC2 then ([.broken [b]], none)
  else if v < 0xE0 then ([], some { value := v - 0xC0, later := 0, bytes := [b] })
  else if v = 0xE0 then ([], some { value := 0, later := 1, low := 0xA0, bytes := [b] })
  else if v = 0xED then ([], some { value := 0xD, later := 1, high := 0x9F, bytes := [b] })
  else if v < 0xF0 then ([], some { value := v - 0xE0, later := 1, bytes := [b] })
  else if v = 0xF0 then ([], some { value := 0, later := 2, low := 0x90, bytes := [b] })
  else if v < 0xF4 then ([], some { value := v - 0xF0, later := 2, bytes := [b] })
  else if v = 0xF4 then ([], some { value := 4, later := 2, high := 0x8F, bytes := [b] })
  else ([.broken [b]], none)

/-- Reads on from a character that may have been begun. -/
def scanFrom : Option Partial → List UInt8 → List Glyph
  | none, [] => []
  | some p, [] => [.broken p.bytes.reverse]
  | none, b :: rest =>
    match start b with
    | (glyphs, next) => glyphs ++ scanFrom next rest
  | some p, b :: rest =>
    if p.low ≤ b ∧ b ≤ p.high then
      let value := p.value * 64 + (b.toNat - 0x80)
      match p.later with
      | 0 => .char (Char.ofNat value) :: scanFrom none rest
      | later + 1 => scanFrom (some { value, later, bytes := b :: p.bytes }) rest
    else
      match start b with
      | (glyphs, next) => .broken p.bytes.reverse :: glyphs ++ scanFrom next rest

/-- The pieces of a text in bytes. -/
def scan (bytes : List UInt8) : List Glyph := scanFrom none bytes

/-- The pieces of a text. -/
def ofString (s : String) : List Glyph := s.toList.map .char

/-- The characters of the pieces, if none is broken. -/
def chars? : List Glyph → Option (List Char)
  | [] => some []
  | .char c :: rest => (chars? rest).map (c :: ·)
  | .broken _ :: _ => none

/-- Reads a text that must have no broken piece. -/
def decode? (bytes : List UInt8) : Option String := (chars? (scan bytes)).map String.ofList

/-- Reads a text with the replacement character for each broken piece. -/
def decodeReplacing (bytes : List UInt8) : String :=
  String.ofList <| (scan bytes).map fun
    | .char c => c
    | .broken _ => '\uFFFD'

end NodeWatch.Utf8
