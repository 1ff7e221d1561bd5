import NodeWatch.Text.Shown

/-!
# Quoted texts

A text in double quotes, in which quotes, backslashes and characters that cannot be seen are written
with a backslash: a few by a letter, the others by their code in braces.
-/

namespace NodeWatch.Text

/-- The code of a character in a quoted text. -/
def quotedCode (c : Char) : List Char :=
  ['\\', 'u', '\x7b'] ++ Nat.toDigits 16 c.toNat ++ ['\x7d']

/-- A character in a quoted text. -/
def quotedChar (c : Char) : List Char :=
  match c with
  | '\x00' => ['\\', '0']
  | '\t' => ['\\', 't']
  | '\n' => ['\\', 'n']
  | '\r' => ['\\', 'r']
  | '"' => ['\\', '"']
  | '\\' => ['\\', '\\']
  | c => if isShown c then [c] else quotedCode c

/-- The text in quotes. -/
def quoted (s : String) : String :=
  String.ofList (['"'] ++ s.toList.flatMap quotedChar ++ ['"'])

end NodeWatch.Text
