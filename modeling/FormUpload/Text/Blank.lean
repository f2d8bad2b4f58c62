/-!
# Blank characters

The characters with the Unicode property `White_Space`, and trimming by them.
Nothing else counts as blank: neither the zero-width space nor the byte order
mark does.
-/

namespace FormUpload.Text

/-- The property `White_Space`. -/
def isBlank (c : Char) : Bool :=
  let v := c.toNat
  (9 ≤ v && v ≤ 13) || v == 0x20 || v == 0x85 || v == 0xA0 || v == 0x1680
    || (0x2000 ≤ v && v ≤ 0x200A) || v == 0x2028 || v == 0x2029 || v == 0x202F
    || v == 0x205F || v == 0x3000

/-- The text without its leading and trailing blank characters. -/
def trimBlank (cs : List Char) : List Char :=
  ((cs.dropWhile isBlank).reverse.dropWhile isBlank).reverse

end FormUpload.Text
