import FormUpload.Json.Lexeme

/-!
# Reading JSON documents

`Value.read` reads a whole text.  Arrays and objects nest at most
`nestingLimit` deep; the reader recurses on how many more levels may be opened, so
the limit is what makes it end.  `sequence` and `members` run through the items of
an array and the members of an object; they are told what to do with each and
serve other readers too.
-/

namespace FormUpload.Json

open FormUpload.Text

/-- How many arrays and objects may lie inside one another. -/
def nestingLimit : Nat := 127

/-! ## §1. Items and members. -/

/-- Reads the items of an array after the bracket, threading a state through
them.  `more` says whether an item has been read; every item takes at least one
octet, so `fuel` beyond the number of octets is never used up. -/
def sequence {σ : Type} (item : σ → Bytes → Except Fault (σ × Bytes)) :
    (fuel : Nat) → (more : Bool) → σ → Bytes → Except Fault (σ × Bytes)
  | 0, _, _, s => .error (.with .endInArray s)
  | fuel + 1, more, state, s =>
      match skipSpace s with
      | [] => .error (.with .endInArray [])
      | b :: r =>
          if b == 0x5D then .ok (state, r)
          else if more then
            if b == 0x2C then
              match skipSpace r with
              | [] => .error (.with .endInValue [])
              | c :: t =>
                  if c == 0x5D then .error (.with .trailingComma (c :: t))
                  else do
                    let (state, rest) ← item state (c :: t)
                    sequence item fuel true state rest
            else .error (.with .expectedCommaOrBracket (b :: r))
          else do
            let (state, rest) ← item state (b :: r)
            sequence item fuel true state rest

/-- Reads the colon after a key. -/
def colon (s : Bytes) : Except Fault Bytes :=
  match skipSpace s with
  | [] => .error (.with .endInObject [])
  | b :: r => if b == 0x3A then .ok r else .error (.with .expectedColon (b :: r))

/-- Reads the members of an object after the brace.  `entry` gets the key and
the octets after the key, colon included. -/
def members {σ : Type} (entry : σ → String → Bytes → Except Fault (σ × Bytes)) :
    (fuel : Nat) → (more : Bool) → σ → Bytes → Except Fault (σ × Bytes)
  | 0, _, _, s => .error (.with .endInObject s)
  | fuel + 1, more, state, s =>
      match skipSpace s with
      | [] => .error (.with .endInObject [])
      | b :: r =>
          if b == 0x7D then .ok (state, r)
          else if more then
            if b == 0x2C then
              match skipSpace r with
              | [] => .error (.with .endInValue [])
              | c :: t =>
                  if c == 0x22 then do
                    let (key, rest) ← string t
                    let (state, rest) ← entry state key rest
                    members entry fuel true state rest
                  else if c == 0x7D then .error (.with .trailingComma (c :: t))
                  else .error (.with .keyNotString (c :: t))
            else .error (.with .expectedCommaOrBrace (b :: r))
          else if b == 0x22 then do
            let (key, rest) ← string r
            let (state, rest) ← entry state key rest
            members entry fuel true state rest
          else .error (.with .keyNotString (b :: r))

/-! ## §2. Documents. -/

/-- Reads a scalar, or hands the octets on at an opening bracket or brace. -/
def scalarOr (array object : Bytes → Except Fault (Value × Bytes)) (s : Bytes) :
    Except Fault (Value × Bytes) :=
  match skipSpace s with
  | [] => .error (.with .endInValue [])
  | b :: r =>
      if b == 0x6E then do return (.null, ← word [0x75, 0x6C, 0x6C] r)
      else if b == 0x74 then do return (.bool true, ← word [0x72, 0x75, 0x65] r)
      else if b == 0x66 then do return (.bool false, ← word [0x61, 0x6C, 0x73, 0x65] r)
      else if b == 0x2D then do
        let (n, rest) ← number true r
        return (.number n, rest)
      else if isDigit b then do
        let (n, rest) ← number false (b :: r)
        return (.number n, rest)
      else if b == 0x22 then do
        let (t, rest) ← string r
        return (.string t, rest)
      else if b == 0x5B then array (b :: r)
      else if b == 0x7B then object (b :: r)
      else .error (.with .expectedValue (b :: r))

/-- Reads a value in which at most `levels` arrays and objects may be opened
inside one another. -/
def value : (levels : Nat) → Bytes → Except Fault (Value × Bytes)
  | 0 => scalarOr (fun s => .error (.with .tooDeep s)) (fun s => .error (.with .tooDeep s))
  | levels + 1 =>
      let item := fun (vs : List Value) (s : Bytes) => do
        let (v, rest) ← value levels s
        return (v :: vs, rest)
      let entry := fun (ms : List (String × Value)) (key : String) (s : Bytes) => do
        let s ← colon s
        let (v, rest) ← value levels s
        return (insertMember key v ms, rest)
      scalarOr
        (fun s => do
          let (vs, rest) ← sequence item s.length false [] s.tail
          return (.array vs.reverse, rest))
        (fun s => do
          let (ms, rest) ← members entry s.length false [] s.tail
          return (.object ms, rest))

/-- After the document only blanks may follow. -/
def finish (s : Bytes) : Except Fault Unit :=
  match skipSpace s with
  | [] => .ok ()
  | r => .error (.with .trailingCharacters r)

/-- Reads a whole text as one document. -/
def Value.read (s : Bytes) : Except Fault Value := do
  let (v, rest) ← value nestingLimit s
  finish rest
  return v

end FormUpload.Json
