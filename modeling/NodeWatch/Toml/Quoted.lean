import NodeWatch.Text.Digit

/-!
# Quoted texts in TOML

A text stands between quotes, where a backslash begins an escape, or between apostrophes, where
everything stands for itself. Three of either open a text of several lines: a line end right after
them is dropped, and the text may end with up to two of them before the three that close it.
-/

namespace NodeWatch.Toml

/-- The character that a letter after a backslash stands for. -/
def escaped? : Char → Option Char
  | '"' => some '"'
  | '\\' => some '\\'
  | 'b' => some '\x08'
  | 'e' => some '\x1b'
  | 'f' => some '\x0c'
  | 'n' => some '\n'
  | 'r' => some '\r'
  | 't' => some '\t'
  | _ => none

/-- The character with the code that hexadecimal digits give. -/
def charOfHex? (digits : List Char) : Option Char := do
  let code ← Digit.number? 16 digits
  if code.isValidChar then some (Char.ofNat code) else none

/-- Puts a character before a text that was read. -/
def prepend (c : Char) : List Char × List Char → List Char × List Char
  | (text, rest) => (c :: text, rest)

/-- What follows a backslash at the end of a line: the line end and all blanks and line ends after
it are dropped. Anything but blanks between the two is an error. -/
def foldLine? (rest : List Char) : Option (List Char) :=
  let isLineEnd := fun c => c == '\n' || c == '\r'
  match rest.dropWhile fun c => c == ' ' || c == '\t' with
  | c :: after =>
    if isLineEnd c then some (after.dropWhile fun c => c == ' ' || c == '\t' || isLineEnd c)
    else none
  | [] => none

/-- A text up to the three marks that close it, given what follows them: up to two more marks belong
to the text. -/
def closeLong (mark : Char) : List Char → List Char × List Char
  | a :: b :: rest =>
    if a = mark then if b = mark then ([mark, mark], rest) else ([mark], b :: rest)
    else ([], a :: b :: rest)
  | [a] => if a = mark then ([mark], []) else ([], [a])
  | [] => ([], [])

/-- Drops a line end at the beginning. -/
def dropLineEnd : List Char → List Char
  | '\n' :: rest => rest
  | '\r' :: '\n' :: rest => rest
  | cs => cs

/-- Reads an escape after its backslash: the character and what follows. -/
def scanEscape? : List Char → Option (Char × List Char)
  | 'x' :: a :: b :: rest => (charOfHex? [a, b]).map (·, rest)
  | 'u' :: a :: b :: c :: d :: rest => (charOfHex? [a, b, c, d]).map (·, rest)
  | 'U' :: a :: b :: c :: d :: e :: f :: g :: h :: rest =>
    (charOfHex? [a, b, c, d, e, f, g, h]).map (·, rest)
  | c :: rest => (escaped? c).map (·, rest)
  | [] => none

/-- Reads a text after its quote, and gives what follows the closing one. Each step takes at least
one character, which is checked for escapes so that the reading ends. -/
def scanShort? (cs : List Char) : Option (List Char × List Char) :=
  match cs with
  | [] => none
  | '"' :: rest => some ([], rest)
  | '\\' :: rest =>
    match scanEscape? rest with
    | some (c, after) =>
      if after.length < rest.length then (scanShort? after).map (prepend c) else none
    | none => none
  | c :: rest => if c = '\n' ∨ c = '\r' then none else (scanShort? rest).map (prepend c)
termination_by cs.length

/-- Reads a text after its three quotes. -/
def scanLong? (cs : List Char) : Option (List Char × List Char) :=
  match cs with
  | [] => none
  | '"' :: '"' :: '"' :: rest => some (closeLong '"' rest)
  | '\\' :: rest =>
    match scanEscape? rest with
    | some (c, after) =>
      if after.length < rest.length then (scanLong? after).map (prepend c) else none
    | none =>
      match foldLine? rest with
      | some after => if after.length < rest.length then scanLong? after else none
      | none => none
  | c :: rest => (scanLong? rest).map (prepend c)
termination_by cs.length

/-- Reads a text after its apostrophe. -/
def scanShortLiteral? : List Char → Option (List Char × List Char)
  | [] => none
  | '\'' :: rest => some ([], rest)
  | c :: rest => if c = '\n' ∨ c = '\r' then none else (scanShortLiteral? rest).map (prepend c)

/-- Reads a text after its three apostrophes. -/
def scanLongLiteral? : List Char → Option (List Char × List Char)
  | [] => none
  | '\'' :: '\'' :: '\'' :: rest => some (closeLong '\'' rest)
  | c :: rest => (scanLongLiteral? rest).map (prepend c)

/-- Reads a quoted text of one line. -/
def scanLine? : List Char → Option (String × List Char)
  | '"' :: rest => (scanShort? rest).map fun (cs, rest) => (String.ofList cs, rest)
  | '\'' :: rest => (scanShortLiteral? rest).map fun (cs, rest) => (String.ofList cs, rest)
  | _ => none

/-- Reads a quoted text. -/
def scanText? : List Char → Option (String × List Char)
  | '"' :: '"' :: '"' :: rest =>
    (scanLong? (dropLineEnd rest)).map fun (cs, rest) => (String.ofList cs, rest)
  | '\'' :: '\'' :: '\'' :: rest =>
    (scanLongLiteral? (dropLineEnd rest)).map fun (cs, rest) => (String.ofList cs, rest)
  | cs => scanLine? cs

end NodeWatch.Toml
