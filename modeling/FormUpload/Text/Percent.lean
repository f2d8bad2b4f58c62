import FormUpload.Text.Ascii

/-!
# Percent-encoding

A character outside the ASCII range, or in a given set, is written as its UTF-8
octets, each as a percent sign and two upper-case hexadecimal digits.  Decoding
takes digits of either case and leaves a percent sign alone that no two digits
follow.
-/

namespace FormUpload.Text

/-- An octet as a percent sign and two digits. -/
def percentOctet (b : UInt8) : List Char :=
  ['%', hexDigitUpper (b.toNat / 16), hexDigitUpper (b.toNat % 16)]

/-- One character, encoded if it is beyond ASCII or in the set. -/
def percentChar (inSet : Char → Bool) (c : Char) : List Char :=
  if c.toNat < 0x80 && !inSet c then [c] else (Utf8.encodeChar c).flatMap percentOctet

/-- The text with every character beyond ASCII or in the set encoded. -/
def percentEncode (inSet : Char → Bool) (cs : List Char) : List Char :=
  cs.flatMap (percentChar inSet)

/-- The octets with every percent sign that two digits follow resolved. -/
def percentDecode : Bytes → Bytes
  | [] => []
  | 0x25 :: a :: b :: r =>
      match hexValue? a, hexValue? b with
      | some h, some l => UInt8.ofNat (h * 16 + l) :: percentDecode r
      | _, _ => 0x25 :: percentDecode (a :: b :: r)
  | b :: r => b :: percentDecode r

/-- A control character: below the space, or the delete character. -/
def isControl (c : Char) : Bool := c.toNat < 0x20 || c.toNat == 0x7F

end FormUpload.Text
