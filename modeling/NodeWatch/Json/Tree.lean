import NodeWatch.Json.Lexeme
import NodeWatch.Text.Utf16

/-!
# Trees of JSON

The lexemes of a document make a tree in which everything is still as it was written: numerals by
their digits, strings in pieces, and the members of objects in their order, repeated names included.
The tree is built with a stack of the arrays and objects that are still open, so that a document may
be nested as deep as one likes. How much of a tree must make sense as a value depends on who reads
it; `Tree.value?` is the reading of a whole tree as a value.
-/

namespace NodeWatch.Json

/-- A document as it was written. -/
inductive Tree
  | null
  | bool (b : Bool)
  | numeral (n : Numeral)
  | text (pieces : List Piece)
  | array (items : List Tree)
  | object (members : List (List Piece × Tree))

/-- An array or object that is still open, with what it holds so far, the last first. -/
inductive Frame
  | array (items : List Tree)
  /-- The name is that of the member that is being read. -/
  | object (members : List (List Piece × Tree)) (name : List Piece)

/-- What may come next. -/
inductive Place
  /-- A value must come. -/
  | value
  /-- The first item of an array, or its end. -/
  | firstItem
  /-- The first name of an object with these members, or its end. -/
  | firstName
  /-- A name must come, after these members. -/
  | name (members : List (List Piece × Tree))
  /-- The colon after a name. -/
  | colon (members : List (List Piece × Tree)) (name : List Piece)
  /-- A value has been read. -/
  | done (tree : Tree)

/-- The tree of a lexeme that is a value by itself. -/
def Lexeme.atom? : Lexeme → Option Tree
  | .null => some .null
  | .bool b => some (.bool b)
  | .numeral n => some (.numeral n)
  | .text pieces => some (.text pieces)
  | _ => none

/-- The place and the stack after the first lexeme of a value. -/
def beginValue (stack : List Frame) : Lexeme → Option (Place × List Frame)
  | .openArray => some (.firstItem, stack)
  | .openObject => some (.firstName, stack)
  | lexeme => lexeme.atom?.map fun tree => (.done tree, stack)

/-- The place and the stack after a lexeme. -/
def advance (place : Place) (stack : List Frame) (lexeme : Lexeme) : Option (Place × List Frame) :=
  match place with
  | .value => beginValue stack lexeme
  | .firstItem =>
    match lexeme with
    | .closeArray => some (.done (.array []), stack)
    | lexeme => beginValue (.array [] :: stack) lexeme
  | .firstName =>
    match lexeme with
    | .closeObject => some (.done (.object []), stack)
    | .text name => some (.colon [] name, stack)
    | _ => none
  | .name members =>
    match lexeme with
    | .text name => some (.colon members name, stack)
    | _ => none
  | .colon members name =>
    match lexeme with
    | .colon => some (.value, .object members name :: stack)
    | _ => none
  | .done tree =>
    match stack, lexeme with
    | .array items :: stack, .comma => some (.value, .array (tree :: items) :: stack)
    | .array items :: stack, .closeArray => some (.done (.array (tree :: items).reverse), stack)
    | .object members name :: stack, .comma => some (.name ((name, tree) :: members), stack)
    | .object members name :: stack, .closeObject =>
      some (.done (.object ((name, tree) :: members).reverse), stack)
    | _, _ => none

/-- Reads lexemes from a place on. -/
def assemble (place : Place) (stack : List Frame) : List Lexeme → Option Tree
  | [] =>
    match place, stack with
    | .done tree, [] => some tree
    | _, _ => none
  | lexeme :: rest =>
    match advance place stack lexeme with
    | some (place, stack) => assemble place stack rest
    | none => none

/-- The tree of a document. -/
def Tree.ofGlyphs? (glyphs : List Utf8.Glyph) : Option Tree :=
  (lexemes? glyphs).bind (assemble .value [])

/-- The tree of a document in bytes. -/
def Tree.ofBytes? (bytes : List UInt8) : Option Tree := Tree.ofGlyphs? (Utf8.scan bytes)

/-- The characters of a string, if its pieces make a text. -/
def chars? : List Piece → Option (List Char)
  | [] => some []
  | .char c :: rest => (chars? rest).map (c :: ·)
  | .broken :: _ => none
  | .unit lead :: .unit trail :: rest =>
    if Utf16.isLead lead then
      if Utf16.isTrail trail then
        (chars? rest).map (Utf16.pair lead trail :: ·)
      else none
    else if Utf16.isTrail lead then none
    else (chars? (.unit trail :: rest)).map (Char.ofNat lead :: ·)
  | .unit u :: rest =>
    if Utf16.isLead u || Utf16.isTrail u then none else (chars? rest).map (Char.ofNat u :: ·)

/-- The text of a string. -/
def text? (pieces : List Piece) : Option String := (chars? pieces).map String.ofList

/-- The greatest number of arrays and objects inside one another in a document that is read as a
value. -/
def maxDepth : Nat := 127

mutual

/-- The value of a tree that is inside no more than so many further arrays and objects. -/
def Tree.value? (depth : Nat) : Tree → Option Json
  | .null => some .null
  | .bool b => some (.bool b)
  | .numeral n => n.number?.map .number
  | .text pieces => (text? pieces).map .text
  | .array items =>
    match depth with
    | 0 => none
    | depth + 1 => (itemValues? depth items).map .array
  | .object members =>
    match depth with
    | 0 => none
    | depth + 1 => (memberValues? depth members).map ofMembers

/-- The values of the items of an array. -/
def itemValues? (depth : Nat) : List Tree → Option (List Json)
  | [] => some []
  | item :: rest => do
    let value ← item.value? depth
    let values ← itemValues? depth rest
    some (value :: values)

/-- The values of the members of an object. -/
def memberValues? (depth : Nat) : List (List Piece × Tree) → Option (List (String × Json))
  | [] => some []
  | (name, tree) :: rest => do
    let name ← text? name
    let value ← tree.value? depth
    let values ← memberValues? depth rest
    some ((name, value) :: values)

end

/-- Reads a text as a value. -/
def parse? (s : String) : Option Json :=
  (Tree.ofGlyphs? (Utf8.ofString s)).bind (Tree.value? maxDepth)

end NodeWatch.Json
