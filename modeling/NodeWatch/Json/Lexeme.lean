import NodeWatch.Json.Numeral
import NodeWatch.Text.Digit
import NodeWatch.Text.Utf8

/-!
# Lexemes of JSON

A document in characters is cut into marks, words, numerals and strings; blanks between them are
dropped. A string is kept in pieces, since not every string that may stand in a document is the text
of something: escapes may name half of a surrogate pair, and bytes need not be characters.
-/

namespace NodeWatch.Json

open Utf8 (Glyph)

/-- A piece of a string. -/
inductive Piece
  | char (c : Char)
  /-- A unit of UTF-16, given by its code. -/
  | unit (u : Nat)
  /-- Bytes that are no character. -/
  | broken
  deriving DecidableEq, Repr

/-- A lexeme. -/
inductive Lexeme
  | openArray
  | closeArray
  | openObject
  | closeObject
  | comma
  | colon
  | null
  | bool (b : Bool)
  | numeral (n : Numeral)
  | text (pieces : List Piece)
  deriving DecidableEq, Repr

/-- The character that a letter after a backslash stands for. -/
def escaped? : Char → Option Char
  | '"' => some '"'
  | '\\' => some '\\'
  | '/' => some '/'
  | 'b' => some '\x08'
  | 'f' => some '\x0c'
  | 'n' => some '\n'
  | 'r' => some '\r'
  | 't' => some '\t'
  | _ => none

/-- Reads a string after its opening quote, and gives what follows the closing one. -/
def scanText : List Glyph → Option (List Piece × List Glyph)
  | .char '"' :: rest => some ([], rest)
  | .char '\\' :: .char 'u' :: .char a :: .char b :: .char c :: .char d :: rest => do
    let u := ((← Digit.value? a) * 16 + (← Digit.value? b)) * 256 +
      (← Digit.value? c) * 16 + (← Digit.value? d)
    let (pieces, rest) ← scanText rest
    some (.unit u :: pieces, rest)
  | .char '\\' :: .char c :: rest => do
    let c ← escaped? c
    let (pieces, rest) ← scanText rest
    some (.char c :: pieces, rest)
  | .char c :: rest =>
    if c < ' ' ∨ c = '\\' then none
    else do
      let (pieces, rest) ← scanText rest
      some (.char c :: pieces, rest)
  | .broken _ :: rest => do
    let (pieces, rest) ← scanText rest
    some (.broken :: pieces, rest)
  | [] => none

/-- Reads as many decimal digits as there are. -/
def scanDigits : List Glyph → List Nat × List Glyph
  | .char c :: rest =>
    if '0' ≤ c ∧ c ≤ '9' then
      let (digits, rest) := scanDigits rest
      ((c.toNat - 48) :: digits, rest)
    else ([], .char c :: rest)
  | glyphs => ([], glyphs)

/-- Reads the digits before the point: a zero stands alone. -/
def scanWhole : List Glyph → Option (List Nat × List Glyph)
  | .char '0' :: rest => some ([0], rest)
  | glyphs =>
    match scanDigits glyphs with
    | ([], _) => none
    | (digits, rest) => some (digits, rest)

/-- Reads a point and the digits after it, if there is one. -/
def scanFraction : List Glyph → Option (Option (List Nat) × List Glyph)
  | .char '.' :: rest =>
    match scanDigits rest with
    | ([], _) => none
    | (digits, rest) => some (some digits, rest)
  | glyphs => some (none, glyphs)

/-- Reads the sign of an exponent: whether it is negative. -/
def scanSign : List Glyph → Bool × List Glyph
  | .char '+' :: rest => (false, rest)
  | .char '-' :: rest => (true, rest)
  | glyphs => (false, glyphs)

/-- Reads an exponent, if there is one. -/
def scanExponent (glyphs : List Glyph) : Option (Option (Bool × List Nat) × List Glyph) :=
  let afterLetter (rest : List Glyph) :=
    let (negative, rest) := scanSign rest
    match scanDigits rest with
    | ([], _) => none
    | (digits, rest) => some (some (negative, digits), rest)
  match glyphs with
  | .char 'e' :: rest => afterLetter rest
  | .char 'E' :: rest => afterLetter rest
  | glyphs => some (none, glyphs)

/-- Reads a numeral without its sign. -/
def scanNumeral (negative : Bool) (glyphs : List Glyph) : Option (Numeral × List Glyph) := do
  let (whole, rest) ← scanWhole glyphs
  let (fraction, rest) ← scanFraction rest
  let (exponent, rest) ← scanExponent rest
  some ({ negative, whole, fraction, exponent }, rest)

/-- Whether a character may stand between lexemes. -/
def isGap (c : Char) : Bool := c == ' ' || c == '\n' || c == '\t' || c == '\r'

/-- Reads the lexeme that begins a document, if no blank does. -/
def scanLexeme : List Glyph → Option (Lexeme × List Glyph)
  | .char '[' :: rest => some (.openArray, rest)
  | .char ']' :: rest => some (.closeArray, rest)
  | .char '\x7b' :: rest => some (.openObject, rest)
  | .char '\x7d' :: rest => some (.closeObject, rest)
  | .char ',' :: rest => some (.comma, rest)
  | .char ':' :: rest => some (.colon, rest)
  | .char '"' :: rest => (scanText rest).map fun (pieces, rest) => (.text pieces, rest)
  | .char 'n' :: .char 'u' :: .char 'l' :: .char 'l' :: rest => some (.null, rest)
  | .char 't' :: .char 'r' :: .char 'u' :: .char 'e' :: rest => some (.bool true, rest)
  | .char 'f' :: .char 'a' :: .char 'l' :: .char 's' :: .char 'e' :: rest =>
    some (.bool false, rest)
  | .char '-' :: rest => (scanNumeral true rest).map fun (n, rest) => (.numeral n, rest)
  | glyphs => (scanNumeral false glyphs).map fun (n, rest) => (.numeral n, rest)

/-- Cuts a document into lexemes. Each lexeme takes at least one character, which is checked here so
that the reading ends. -/
def lexemes? (glyphs : List Glyph) : Option (List Lexeme) :=
  match glyphs with
  | [] => some []
  | .char c :: rest =>
    if isGap c then lexemes? rest
    else
      match scanLexeme (.char c :: rest) with
      | none => none
      | some (lexeme, left) =>
        if left.length < rest.length + 1 then (lexemes? left).map (lexeme :: ·) else none
  | .broken _ :: _ => none
termination_by glyphs.length

end NodeWatch.Json
