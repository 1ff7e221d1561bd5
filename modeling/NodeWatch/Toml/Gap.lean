/-!
# Blanks, comments and line ends in TOML

A document must be legible before it is read: apart from tabs and line ends it has no control
characters, and a carriage return only begins a line end. So whatever reads a document may take any
character in a string or a comment as it is.
-/

namespace NodeWatch.Toml

/-- Whether a character is a control character other than a tab. -/
def isControl (c : Char) : Bool := (c < ' ' && c != '\t') || c == '\x7f'

/-- Whether a document has no control characters but tabs and line ends. -/
def isLegible : List Char → Bool
  | [] => true
  | '\r' :: '\n' :: rest => isLegible rest
  | c :: rest => (c == '\n' || !isControl c) && isLegible rest

/-- Drops a byte order mark. -/
def dropMark : List Char → List Char
  | '\uFEFF' :: rest => rest
  | cs => cs

/-- Whether a character is a blank that does not end a line. -/
def isBlank (c : Char) : Bool := c == ' ' || c == '\t'

/-- Drops blanks. -/
def dropBlanks (cs : List Char) : List Char := cs.dropWhile isBlank

/-- Drops a comment up to the end of its line. -/
def dropComment : List Char → List Char
  | '#' :: rest => rest.dropWhile fun c => c != '\n' && c != '\r'
  | cs => cs

/-- Drops blanks, line ends and comments, perhaps from the middle of a comment on. -/
def dropGapFrom (inComment : Bool) : List Char → List Char
  | [] => []
  | c :: rest =>
    if inComment then dropGapFrom (c != '\n') rest
    else if c == '#' then dropGapFrom true rest
    else if isBlank c || c == '\n' || c == '\r' then dropGapFrom false rest
    else c :: rest

/-- Drops blanks, line ends and comments. -/
def dropGap (cs : List Char) : List Char := dropGapFrom false cs

/-- What follows the end of a line, blanks and a comment before it being dropped. -/
def endLine? (cs : List Char) : Option (List Char) :=
  match dropComment (dropBlanks cs) with
  | [] => some []
  | '\n' :: rest => some rest
  | '\r' :: '\n' :: rest => some rest
  | _ => none

end NodeWatch.Toml
