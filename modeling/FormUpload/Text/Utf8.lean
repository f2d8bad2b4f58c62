/-!
# UTF-8

Octets and characters.  `encode` writes characters as octets.  Reading goes
through `pieces`, which cuts octets into characters and *broken runs* (the
longest octet sequences that begin a character and do not finish it); the two
readers differ only in what they do with a broken run:

* `decode?` refuses the text,
* `lossy` puts one replacement character in its place.

`pieces` walks the octets once and remembers the character in progress as a
`Partial`, so it is structural on the octets.
-/

namespace FormUpload.Text

/-- A sequence of octets. -/
abbrev Bytes := List UInt8

namespace Utf8

/-! ## §1. Writing. -/

/-- The octets of one character: the shortest of the four forms that holds its
scalar value. -/
def encodeChar (c : Char) : Bytes :=
  let v := c.toNat
  if v < 0x80 then [UInt8.ofNat v]
  else if v < 0x800 then
    [UInt8.ofNat (0xC0 + v / 64), UInt8.ofNat (0x80 + v % 64)]
  else if v < 0x10000 then
    [UInt8.ofNat (0xE0 + v / 4096), UInt8.ofNat (0x80 + v / 64 % 64),
      UInt8.ofNat (0x80 + v % 64)]
  else
    [UInt8.ofNat (0xF0 + v / 262144), UInt8.ofNat (0x80 + v / 4096 % 64),
      UInt8.ofNat (0x80 + v / 64 % 64), UInt8.ofNat (0x80 + v % 64)]

/-- The octets of a text. -/
def encode (cs : List Char) : Bytes := cs.flatMap encodeChar

/-! ## §2. Characters in progress. -/

/-- A character of which some octets have been read: how many are missing, the
range its next octet must lie in, and the bits collected so far. -/
structure Partial where
  missing : Nat
  low : UInt8
  high : UInt8
  bits : Nat
deriving DecidableEq, Repr

/-- What a leading octet begins. -/
inductive Start where
  /-- A character of one octet. -/
  | single (c : Char)
  /-- A longer character. -/
  | longer (p : Partial)
  /-- No character. -/
  | broken

/-- The character an octet begins.  The narrowed ranges after `E0`, `ED`, `F0`
and `F4` keep out overlong forms, surrogates and values past `10FFFF`. -/
def start (b : UInt8) : Start :=
  if b < 0x80 then .single (Char.ofNat b.toNat)
  else if b < 0xC2 then .broken
  else if b < 0xE0 then .longer ⟨1, 0x80, 0xBF, b.toNat - 0xC0⟩
  else if b = 0xE0 then .longer ⟨2, 0xA0, 0xBF, 0⟩
  else if b = 0xED then .longer ⟨2, 0x80, 0x9F, 13⟩
  else if b < 0xF0 then .longer ⟨2, 0x80, 0xBF, b.toNat - 0xE0⟩
  else if b = 0xF0 then .longer ⟨3, 0x90, 0xBF, 0⟩
  else if b < 0xF4 then .longer ⟨3, 0x80, 0xBF, b.toNat - 0xF0⟩
  else if b = 0xF4 then .longer ⟨3, 0x80, 0x8F, 4⟩
  else .broken

/-- Whether the octet continues the character in progress. -/
def Partial.accepts (p : Partial) (b : UInt8) : Bool := p.low ≤ b && b ≤ p.high

/-- The bits after one more octet. -/
def Partial.bitsWith (p : Partial) (b : UInt8) : Nat := p.bits * 64 + (b.toNat - 0x80)

/-! ## §3. Reading. -/

/-- Cuts octets into characters (`some`) and broken runs (`none`).  An octet
that does not continue the character in progress breaks it off and is then read
as a leading octet. -/
def pieces : Option Partial → Bytes → List (Option Char)
  | none, [] => []
  | some _, [] => [none]
  | none, b :: r =>
      match start b with
      | .single c => some c :: pieces none r
      | .longer p => pieces (some p) r
      | .broken => none :: pieces none r
  | some p, b :: r =>
      if p.accepts b then
        if p.missing ≤ 1 then some (Char.ofNat (p.bitsWith b)) :: pieces none r
        else pieces (some ⟨p.missing - 1, 0x80, 0xBF, p.bitsWith b⟩) r
      else
        none :: match start b with
          | .single c => some c :: pieces none r
          | .longer q => pieces (some q) r
          | .broken => none :: pieces none r

/-- The character that stands for a broken run. -/
def replacement : Char := '\uFFFD'

/-- The text that the octets spell; `none` if a run is broken. -/
def decode? (s : Bytes) : Option (List Char) := (pieces none s).mapM id

/-- The text that the octets spell, with one replacement character for each
broken run. -/
def lossy (s : Bytes) : List Char := (pieces none s).map (·.getD replacement)

end Utf8

/-- The octets of a string. -/
def bytesOf (s : String) : Bytes := Utf8.encode s.toList

/-- The string that the octets spell, if they spell one. -/
def string? (s : Bytes) : Option String := (Utf8.decode? s).map String.ofList

/-- The string that the octets spell, broken runs replaced. -/
def stringLossy (s : Bytes) : String := String.ofList (Utf8.lossy s)

end FormUpload.Text
