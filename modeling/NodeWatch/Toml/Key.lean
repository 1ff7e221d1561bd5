import NodeWatch.Toml.Gap
import NodeWatch.Toml.Quoted

/-!
# Keys in TOML

A key is bare or quoted, and a path of keys is written with dots, around which there may be blanks.
-/

namespace NodeWatch.Toml

/-- Whether a character may stand in a bare key. -/
def isKeyChar (c : Char) : Bool := c.isAlphanum || c == '_' || c == '-'

/-- Reads a key. -/
def scanKey? (cs : List Char) : Option (String × List Char) :=
  match cs.takeWhile isKeyChar with
  | [] => scanLine? cs
  | key => some (String.ofList key, cs.dropWhile isKeyChar)

/-- Reads a path of keys and the blanks after it. Each key takes at least one character, which is
checked so that the reading ends. -/
def scanPath? (cs : List Char) : Option (List String × List Char) :=
  match scanKey? cs with
  | none => none
  | some (key, after) =>
    match dropBlanks after with
    | '.' :: rest =>
      if (dropBlanks rest).length < cs.length then
        (scanPath? (dropBlanks rest)).map fun (path, rest) => (key :: path, rest)
      else none
    | rest => some ([key], rest)
termination_by cs.length

end NodeWatch.Toml
