import NodeWatch.Text.Utf8
import NodeWatch.Text.Utf16

/-!
# Text of a body

A body is read as UTF-8 unless it begins with the byte order mark of UTF-16. The mark itself is no
part of the text, and broken pieces are replaced.
-/

namespace NodeWatch.Body

/-- The text of a body. -/
def text : List UInt8 → String
  | 0xEF :: 0xBB :: 0xBF :: rest => Utf8.decodeReplacing rest
  | 0xFF :: 0xFE :: rest => Utf16.decodeReplacing .little rest
  | 0xFE :: 0xFF :: rest => Utf16.decodeReplacing .big rest
  | bytes => Utf8.decodeReplacing bytes

end NodeWatch.Body
