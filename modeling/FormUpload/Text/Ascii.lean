import FormUpload.Text.Utf8

/-!
# ASCII

Letter case, digits and hexadecimal digits of the ASCII range, on octets and on
characters.  Everything outside the range is left as it is.
-/

namespace FormUpload.Text

/-! ## §1. Octets. -/

/-- A decimal digit. -/
def isDigit (b : UInt8) : Bool := 0x30 ≤ b && b ≤ 0x39

/-- The value of a decimal digit. -/
def digitValue (b : UInt8) : Nat := b.toNat - 0x30

/-- The value of a hexadecimal digit of either case. -/
def hexValue? (b : UInt8) : Option Nat :=
  if 0x30 ≤ b && b ≤ 0x39 then some (b.toNat - 0x30)
  else if 0x61 ≤ b && b ≤ 0x66 then some (b.toNat - 0x57)
  else if 0x41 ≤ b && b ≤ 0x46 then some (b.toNat - 0x37)
  else none

/-- The lower-case form of an octet. -/
def lowerByte (b : UInt8) : UInt8 := if 0x41 ≤ b && b ≤ 0x5A then b + 0x20 else b

/-! ## §2. Characters. -/

/-- The lower-case form of a character of the ASCII range. -/
def lowerChar (c : Char) : Char :=
  if 'A' ≤ c && c ≤ 'Z' then Char.ofNat (c.toNat + 0x20) else c

/-- The text with its ASCII letters in lower case. -/
def lower (s : String) : String := String.ofList (s.toList.map lowerChar)

/-- Equality up to the case of ASCII letters. -/
def sameIgnoringCase (a b : String) : Bool := lower a == lower b

/-- A letter of the ASCII range. -/
def isLetter (c : Char) : Bool := ('a' ≤ c && c ≤ 'z') || ('A' ≤ c && c ≤ 'Z')

/-- A decimal digit. -/
def isDigitChar (c : Char) : Bool := '0' ≤ c && c ≤ '9'

/-- The value of a hexadecimal digit of either case. -/
def hexValueChar? (c : Char) : Option Nat :=
  if '0' ≤ c && c ≤ '9' then some (c.toNat - 0x30)
  else if 'a' ≤ c && c ≤ 'f' then some (c.toNat - 0x57)
  else if 'A' ≤ c && c ≤ 'F' then some (c.toNat - 0x37)
  else none

/-- A number below 16 as a lower-case hexadecimal digit. -/
def hexDigit (n : Nat) : Char := Char.ofNat (if n < 10 then 0x30 + n else 0x57 + n)

/-- A number below 16 as an upper-case hexadecimal digit. -/
def hexDigitUpper (n : Nat) : Char := Char.ofNat (if n < 10 then 0x30 + n else 0x37 + n)

/-- The decimal digits of a number, most significant first. -/
def decimal (n : Nat) : List Char := Nat.toDigits 10 n

/-- The decimal text of a whole number, with a minus sign if it is negative. -/
def decimalInt (i : Int) : List Char :=
  if i < 0 then '-' :: decimal i.natAbs else decimal i.natAbs

/-- The octets as pairs of lower-case hexadecimal digits. -/
def hexText (s : Bytes) : String :=
  String.ofList (s.flatMap fun b => [hexDigit (b.toNat / 16), hexDigit (b.toNat % 16)])

/-- The octets that pairs of hexadecimal digits spell. -/
def ofHexText? : List Char → Option Bytes
  | [] => some []
  | a :: b :: r => do
      let h ← hexValueChar? a
      let l ← hexValueChar? b
      let t ← ofHexText? r
      return UInt8.ofNat (h * 16 + l) :: t
  | [_] => none

end FormUpload.Text
