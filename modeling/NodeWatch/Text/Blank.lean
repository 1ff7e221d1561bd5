/-!
# Blank texts

A character is blank if it has the Unicode property `White_Space`; a text is blank if all its
characters are.
-/

namespace NodeWatch.Text

/-- Whether a character has the property `White_Space`. -/
def isBlankChar (c : Char) : Bool :=
  let v := c.toNat
  (0x09 ≤ v && v ≤ 0x0D) || v == 0x20 || v == 0x85 || v == 0xA0 || v == 0x1680
    || (0x2000 ≤ v && v ≤ 0x200A) || v == 0x2028 || v == 0x2029 || v == 0x202F || v == 0x205F
    || v == 0x3000

/-- Whether a text has nothing but blank characters. -/
def isBlank (s : String) : Bool := s.toList.all isBlankChar

end NodeWatch.Text
