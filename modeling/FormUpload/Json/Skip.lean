import FormUpload.Json.Reader

/-!
# Skipping JSON values

`skipValue` passes over a value without keeping it.  Nesting has no limit here:
the open arrays and objects lie on a stack.  The check is looser than reading:
strings may hold octets that are not UTF-8 and lone surrogates, and numbers may be
out of range.
-/

namespace FormUpload.Json

open FormUpload.Text

/-! ## §1. Scalars. -/

/-- Passes over a string after its opening quote. -/
def skipString : Bytes → Except Fault Bytes
  | [] => .error (.before .endInString [])
  | 0x22 :: s => .ok s
  | 0x5C :: [] => .error (.before .endInString [])
  | 0x5C :: 0x75 :: a :: b :: c :: d :: s =>
      match hexFour? a b c d with
      | none => .error (.before .badEscape s)
      | some _ => skipString s
  | 0x5C :: 0x75 :: _ => .error (.before .endInString [])
  | 0x5C :: e :: s =>
      match shortEscape? e with
      | some _ => skipString s
      | none => .error (.before .badEscape s)
  | b :: s =>
      if b < 0x20 then .error (.before .controlCharacter (b :: s))
      else skipString s

/-- Passes over an exponent after its letter. -/
def skipExponent (s : Bytes) : Except Fault Bytes :=
  let s := match s with
    | b :: r => if b == 0x2B || b == 0x2D then r else s
    | [] => s
  match s with
  | [] => .error (.before .badNumber [])
  | b :: r => if isDigit b then .ok (r.dropWhile isDigit) else .error (.before .badNumber r)

/-- Passes over a fraction after its point. -/
def skipFraction (s : Bytes) : Except Fault Bytes :=
  match s with
  | [] => .error (.with .badNumber [])
  | b :: r =>
      if isDigit b then
        match r.dropWhile isDigit with
        | [] => .ok []
        | c :: t => if isExponentLetter c then skipExponent t else .ok (c :: t)
      else .error (.with .badNumber (b :: r))

/-- Passes over what may follow the whole part of a number. -/
def skipAfterWhole (s : Bytes) : Except Fault Bytes :=
  match s with
  | [] => .ok []
  | b :: r =>
      if b == 0x2E then skipFraction r
      else if isExponentLetter b then skipExponent r
      else .ok (b :: r)

/-- Passes over a number after its sign. -/
def skipNumber : Bytes → Except Fault Bytes
  | [] => .error (.before .badNumber [])
  | b :: s =>
      if b == 0x30 then
        match s with
        | c :: _ => if isDigit c then .error (.with .badNumber s) else skipAfterWhole s
        | [] => .ok []
      else if isDigit b then skipAfterWhole (s.dropWhile isDigit)
      else .error (.before .badNumber s)

/-! ## §2. Nested values. -/

/-- An array or object that has been opened. -/
inductive Bracket where
  | array
  | object
deriving DecidableEq, Repr

/-- The octet that closes it. -/
def Bracket.closing : Bracket → UInt8
  | .array => 0x5D
  | .object => 0x7D

/-- The problem of a text that ends inside it. -/
def Bracket.unfinished : Bracket → Problem
  | .array => .endInArray
  | .object => .endInObject

/-- The problem of an item that is followed by something else than a comma or
the closing octet. -/
def Bracket.noComma : Bracket → Problem
  | .array => .expectedCommaOrBracket
  | .object => .expectedCommaOrBrace

/-- After a finished value: closes brackets while their closing octets follow.
Returns the brackets that stay open and the octets after the comma; no bracket is
left when the outermost value is finished. -/
def closeBrackets : List Bracket → Bytes → Except Fault (List Bracket × Bytes)
  | [], s => .ok ([], s)
  | b :: open', s =>
      match skipSpace s with
      | [] => .error (.with b.unfinished [])
      | c :: r =>
          if c == 0x2C then .ok (b :: open', r)
          else if c == b.closing then closeBrackets open' r
          else .error (.with b.noComma (c :: r))

/-- Passes over the key and colon of the next member, inside an object. -/
def skipKey (b : Bracket) (s : Bytes) : Except Fault Bytes :=
  match b with
  | .array => .ok s
  | .object =>
      match skipSpace s with
      | [] => .error (.with .endInObject [])
      | c :: r =>
          if c == 0x22 then do colon (← skipString r)
          else .error (.with .keyNotString (c :: r))

/-- Passes over values until no bracket is open.  Each round takes an octet, so
`fuel` beyond the number of octets is never used up. -/
def skipValues : (fuel : Nat) → List Bracket → Bytes → Except Fault Bytes
  | 0, _, s => .error (.with .endInValue s)
  | fuel + 1, brackets, s =>
      match skipSpace s with
      | [] => .error (.with .endInValue [])
      | b :: r =>
          let next := fun (brackets : List Bracket) (s : Bytes) =>
            match brackets with
            | [] => .ok s
            | k :: _ => do skipValues fuel brackets (← skipKey k s)
          let finished := fun (s : Bytes) => do
            let (brackets, s) ← closeBrackets brackets s
            next brackets s
          let opened := fun (k : Bracket) (s : Bytes) =>
            match skipSpace s with
            | [] => .error (.with k.unfinished [])
            | c :: t =>
                if c == k.closing then finished t else next (k :: brackets) (c :: t)
          if b == 0x6E then do finished (← word [0x75, 0x6C, 0x6C] r)
          else if b == 0x74 then do finished (← word [0x72, 0x75, 0x65] r)
          else if b == 0x66 then do finished (← word [0x61, 0x6C, 0x73, 0x65] r)
          else if b == 0x2D then do finished (← skipNumber r)
          else if isDigit b then do finished (← skipNumber (b :: r))
          else if b == 0x22 then do finished (← skipString r)
          else if b == 0x5B then opened .array r
          else if b == 0x7B then opened .object r
          else .error (.with .expectedValue (b :: r))

/-- Passes over one value. -/
def skipValue (s : Bytes) : Except Fault Bytes := skipValues (s.length + 1) [] s

end FormUpload.Json
