import FormUpload.Json.Fault

/-!
# Words, numbers and strings of a JSON text

Each reader takes the remaining octets and returns what it read with the octets
that follow.  Blank is space, tab, line feed and carriage return only.

Numbers collect their digits into a significand below `2^64`.  Digits that no
longer fit raise the exponent if they stand before the point and are dropped if
they stand after it; the value is then `Binary64.scaleTen?` of the significand.
A number without fraction and exponent whose value fits is kept exactly; `-0`
is the binary64 zero.
-/

namespace FormUpload.Json

open FormUpload.Text
open FormUpload.Number (Binary64)

/-! ## §1. Blanks and words. -/

/-- The four octets that may stand between tokens. -/
def isSpace (b : UInt8) : Bool := b == 0x20 || b == 0x0A || b == 0x09 || b == 0x0D

/-- The octets after leading blanks. -/
def skipSpace (s : Bytes) : Bytes := s.dropWhile isSpace

/-- Reads the given octets. -/
def word : Bytes → Bytes → Except Fault Bytes
  | [], s => .ok s
  | _ :: _, [] => .error (.before .endInValue [])
  | w :: ws, b :: s => if b = w then word ws s else .error (.before .unknownWord s)

/-! ## §2. Numbers. -/

/-- Adds digits to a significand while it stays below `limit`.  Returns the
significand, how many digits went into it, and the octets from the first that did
not. -/
def absorb (limit : Nat) (m n : Nat) : Bytes → Nat × Nat × Bytes
  | [] => (m, n, [])
  | b :: s =>
      if isDigit b && m * 10 + digitValue b < limit then
        absorb limit (m * 10 + digitValue b) (n + 1) s
      else (m, n, b :: s)

/-- The largest significand is below this. -/
def significandLimit : Nat := 0x10000000000000000

/-- The number `m · 10^e` with a sign. -/
def scaled (negative : Bool) (m : Nat) (e : Int) (s : Bytes) : Except Fault (Number × Bytes) :=
  match Binary64.scaleTen? m e with
  | some x => .ok (.real (if negative then x.negate else x), s)
  | none => .error (.before .numberOutOfRange s)

/-- The digits of an exponent after the first.  An exponent of `2^31` or more
ends the number: it is out of range, unless the value is zero or the exponent
negative, which makes it zero. -/
def exponentDigits (negative : Bool) (m : Nat) (places : Int) (down : Bool) (e : Nat) :
    Bytes → Except Fault (Number × Bytes)
  | [] => scaled negative m (if down then places - e else places + e) []
  | b :: s =>
      if isDigit b then
        let e' := e * 10 + digitValue b
        if e' < 0x80000000 then exponentDigits negative m places down e' s
        else if m ≠ 0 ∧ !down then .error (.before .numberOutOfRange s)
        else .ok (.real (.zero negative), s.dropWhile isDigit)
      else scaled negative m (if down then places - e else places + e) (b :: s)

/-- The exponent, after its letter. -/
def exponent (negative : Bool) (m : Nat) (places : Int) (s : Bytes) :
    Except Fault (Number × Bytes) :=
  let (down, s) := match s with
    | b :: r => if b == 0x2B then (false, r) else if b == 0x2D then (true, r) else (false, s)
    | [] => (false, s)
  match s with
  | [] => .error (.before .endInValue [])
  | b :: r =>
      if isDigit b then exponentDigits negative m places down (digitValue b) r
      else .error (.before .badNumber r)

/-- Whether the octet begins an exponent. -/
def isExponentLetter (b : UInt8) : Bool := b == 0x65 || b == 0x45

/-- The end of a number that has a fraction or does not fit. -/
def afterDigits (negative : Bool) (m : Nat) (places : Int) (s : Bytes) :
    Except Fault (Number × Bytes) :=
  match s with
  | b :: r =>
      if isExponentLetter b then exponent negative m places r
      else scaled negative m places s
  | [] => scaled negative m places []

/-- The fraction, after the point. -/
def fraction (negative : Bool) (m : Nat) (places : Int) (s : Bytes) :
    Except Fault (Number × Bytes) :=
  let (m', n, rest) := absorb significandLimit m 0 s
  let rest' := rest.dropWhile isDigit
  if n = 0 ∧ rest'.length = rest.length then
    .error (.with (if rest.isEmpty then .endInValue else .badNumber) rest)
  else afterDigits negative m' (places - n) rest'

/-- A number without fraction and exponent. -/
def wholeNumber (negative : Bool) (m : Nat) (s : Bytes) : Except Fault (Number × Bytes) :=
  if !negative then .ok (.whole m, s)
  else if m = 0 ∨ 0x8000000000000000 < m then
    scaled true m 0 s
  else .ok (.whole (-(m : Int)), s)

/-- The rest of a number after its leading digits have gone into `m`. -/
def afterWhole (negative : Bool) (m : Nat) (s : Bytes) : Except Fault (Number × Bytes) :=
  let places := (s.takeWhile isDigit).length
  match s.dropWhile isDigit with
  | [] => if places = 0 then wholeNumber negative m [] else scaled negative m places []
  | b :: r =>
      if b == 0x2E then fraction negative m places r
      else if isExponentLetter b then exponent negative m places r
      else if places = 0 then wholeNumber negative m (b :: r)
      else scaled negative m places (b :: r)

/-- A number after its sign.  A leading zero stands alone. -/
def number (negative : Bool) : Bytes → Except Fault (Number × Bytes)
  | [] => .error (.before .endInValue [])
  | b :: s =>
      if b == 0x30 then
        match s with
        | c :: _ => if isDigit c then .error (.with .badNumber s) else afterWhole negative 0 s
        | [] => afterWhole negative 0 []
      else if isDigit b then
        let (m, _, rest) := absorb significandLimit (digitValue b) 0 s
        afterWhole negative m rest
      else .error (.before .badNumber s)

/-! ## §3. Strings. -/

/-- The value of four hexadecimal digits. -/
def hexFour? (a b c d : UInt8) : Option Nat := do
  let a ← hexValue? a
  let b ← hexValue? b
  let c ← hexValue? c
  let d ← hexValue? d
  return ((a * 16 + b) * 16 + c) * 16 + d

/-- The octet that a one-letter escape stands for. -/
def shortEscape? (b : UInt8) : Option UInt8 :=
  if b == 0x22 || b == 0x5C || b == 0x2F then some b
  else if b == 0x62 then some 0x08
  else if b == 0x66 then some 0x0C
  else if b == 0x6E then some 0x0A
  else if b == 0x72 then some 0x0D
  else if b == 0x74 then some 0x09
  else none

/-- The first half of a surrogate pair. -/
def isHighSurrogate (n : Nat) : Bool := 0xD800 ≤ n && n ≤ 0xDBFF

/-- The second half of a surrogate pair. -/
def isLowSurrogate (n : Nat) : Bool := 0xDC00 ≤ n && n ≤ 0xDFFF

/-- The scalar value of a surrogate pair. -/
def pairValue (high low : Nat) : Nat := (high - 0xD800) * 1024 + (low - 0xDC00) + 0x10000

/-- The octets of a string after its opening quote.  Escapes are resolved; raw
octets are taken as they are, `read` is put together backwards. -/
def stringOctets (read : Bytes) : Bytes → Except Fault (Bytes × Bytes)
  | [] => .error (.before .endInString [])
  | 0x22 :: s => .ok (read.reverse, s)
  | 0x5C :: [] => .error (.before .endInString [])
  | 0x5C :: 0x75 :: a :: b :: c :: d :: s =>
      match hexFour? a b c d with
      | none => .error (.before .badEscape s)
      | some n =>
          if isLowSurrogate n then .error (.before .loneSurrogate s)
          else if isHighSurrogate n then
            match s with
            | 0x5C :: 0x75 :: a' :: b' :: c' :: d' :: t =>
                match hexFour? a' b' c' d' with
                | none => .error (.before .badEscape t)
                | some n' =>
                    if isLowSurrogate n' then
                      stringOctets
                        ((Utf8.encodeChar (Char.ofNat (pairValue n n'))).reverse ++ read) t
                    else .error (.before .loneSurrogate t)
            | 0x5C :: 0x75 :: _ => .error (.before .endInString [])
            | 0x5C :: [] => .error (.before .endInString [])
            | 0x5C :: _ :: t => .error (.before .unfinishedSurrogatePair t)
            | [] => .error (.before .endInString [])
            | _ :: t => .error (.before .unfinishedSurrogatePair t)
          else stringOctets ((Utf8.encodeChar (Char.ofNat n)).reverse ++ read) s
  | 0x5C :: 0x75 :: _ => .error (.before .endInString [])
  | 0x5C :: e :: s =>
      match shortEscape? e with
      | some b => stringOctets (b :: read) s
      | none => .error (.before .badEscape s)
  | b :: s =>
      if b < 0x20 then .error (.before .controlCharacter s)
      else stringOctets (b :: read) s

/-- A string after its opening quote. -/
def string (s : Bytes) : Except Fault (String × Bytes) := do
  let (octets, rest) ← stringOctets [] s
  match string? octets with
  | some t => .ok (t, rest)
  | none => .error (.before .notUnicode rest)

end FormUpload.Json
