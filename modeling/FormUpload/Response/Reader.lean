import FormUpload.Response
import FormUpload.Json.Skip

/-!
# Reading responses

`Response.read` reads a response from the text of a document.  Two shapes are
accepted: an object with the members `status`, `headers` and `data`, in any order
and among any others, and an array of the three in that order.  `headers` may be
left out.  No field may occur twice, and every field has one type:

* `status` is a whole number below 65536,
* `headers` is an array of pairs of strings,
* `data` is any document.

What has another type is read to its end if it is a scalar, so the fault lies
after it; the fault of an array or object lies before it.
-/

namespace FormUpload.Json

open FormUpload.Text

/-! ## §1. Typed values. -/

/-- The fault of a value that is not of the wanted type. -/
def mismatch (wanted : String) : Bytes → Fault
  | [] => .with .endInValue []
  | b :: r =>
      let after := fun (read : Except Fault (Found × Bytes)) =>
        match read with
        | .ok (found, rest) => Fault.before (.wrongType found wanted) rest
        | .error fault => fault
      if b == 0x6E then after do return (.null, ← word [0x75, 0x6C, 0x6C] r)
      else if b == 0x74 then after do return (.bool true, ← word [0x72, 0x75, 0x65] r)
      else if b == 0x66 then after do return (.bool false, ← word [0x61, 0x6C, 0x73, 0x65] r)
      else if b == 0x2D then after do
        let (n, rest) ← number true r
        return (.number n, rest)
      else if isDigit b then after do
        let (n, rest) ← number false (b :: r)
        return (.number n, rest)
      else if b == 0x22 then after do
        let (t, rest) ← string r
        return (.string t, rest)
      else if b == 0x5B then .before (.wrongType .array wanted) (b :: r)
      else if b == 0x7B then .before (.wrongType .object wanted) (b :: r)
      else .with .expectedValue (b :: r)

/-- The octets after the opening octet of the wanted type. -/
def opening (byte : UInt8) (wanted : String) (s : Bytes) : Except Fault Bytes :=
  match skipSpace s with
  | [] => .error (.with .endInValue [])
  | b :: r => if b == byte then .ok r else .error (mismatch wanted (b :: r))

/-- Reads a string. -/
def typedString (s : Bytes) : Except Fault (String × Bytes) := do
  string (← opening 0x22 "a string" s)

/-- A number that was read, as a status. -/
def statusOf (n : Number) (rest : Bytes) : Except Fault (UInt16 × Bytes) :=
  match n with
  | .whole i =>
      if 0 ≤ i ∧ i < 65536 then .ok (UInt16.ofNat i.toNat, rest)
      else .error (.before (.wrongValue (.number n) "u16") rest)
  | .real _ => .error (.before (.wrongType (.number n) "u16") rest)

/-- Reads a status. -/
def typedStatus (s : Bytes) : Except Fault (UInt16 × Bytes) :=
  match skipSpace s with
  | [] => .error (.with .endInValue [])
  | b :: r =>
      if b == 0x2D then do
        let (n, rest) ← number true r
        statusOf n rest
      else if isDigit b then do
        let (n, rest) ← number false (b :: r)
        statusOf n rest
      else .error (mismatch "u16" (b :: r))

/-! ## §2. Arrays of fixed length. -/

/-- Whether another item follows in an array, and the octets from its first, or
from the closing bracket.  `more` says that an item has been read. -/
def itemAhead (more : Bool) (s : Bytes) : Except Fault (Bool × Bytes) :=
  match skipSpace s with
  | [] => .error (.with .endInArray [])
  | b :: r =>
      if b == 0x5D then .ok (false, b :: r)
      else if more then
        if b == 0x2C then
          match skipSpace r with
          | [] => .error (.with .endInValue [])
          | c :: t =>
              if c == 0x5D then .error (.with .trailingComma (c :: t)) else .ok (true, c :: t)
        else .error (.with .expectedCommaOrBracket (b :: r))
      else .ok (true, b :: r)

/-- The array holds only `n` items. -/
def tooShort {α : Type} (n : Nat) (wanted : String) (s : Bytes) : Except Fault α :=
  .error (.before (.wrongLength n wanted) s.tail)

/-- Reads the item with the given place in an array. -/
def itemAt {α : Type} (place : Nat) (wanted : String) (item : Bytes → Except Fault (α × Bytes))
    (s : Bytes) : Except Fault (α × Bytes) := do
  let (ahead, s) ← itemAhead (place != 0) s
  if ahead then item s else tooShort place wanted s

/-- The octets after the bracket that must follow the last item. -/
def closing (s : Bytes) : Except Fault Bytes :=
  match skipSpace s with
  | [] => .error (.with .endInArray [])
  | b :: r =>
      if b == 0x5D then .ok r
      else if b == 0x2C then
        match skipSpace r with
        | c :: t =>
            .error (.with (if c == 0x5D then .trailingComma else .trailingCharacters) (c :: t))
        | [] => .error (.with .trailingCharacters [])
      else .error (.with .trailingCharacters (b :: r))

/-- Reads a pair of strings. -/
def stringPair (s : Bytes) : Except Fault ((String × String) × Bytes) := do
  let s ← opening 0x5B "a tuple of size 2" s
  let (a, s) ← itemAt 0 "a tuple of size 2" typedString s
  let (b, s) ← itemAt 1 "a tuple of size 2" typedString s
  return ((a, b), ← closing s)

/-- Reads an array of pairs of strings. -/
def stringPairs (s : Bytes) : Except Fault (List (String × String) × Bytes) := do
  let s ← opening 0x5B "a sequence" s
  let item := fun (pairs : List (String × String)) (s : Bytes) => do
    let (p, rest) ← stringPair s
    return (p :: pairs, rest)
  let (pairs, rest) ← sequence item (s.length + 1) false [] s
  return (pairs.reverse, rest)

end FormUpload.Json

namespace FormUpload.Response

open FormUpload.Text
open FormUpload.Json (Fault Value)

/-! ## §3. Fields. -/

/-- The fields read so far. -/
structure Draft where
  status : Option UInt16
  headers : Option (List (String × String))
  data : Option Value

/-- No field has been read. -/
def Draft.empty : Draft := ⟨none, none, none⟩

/-- The fault of a field that occurs again, found after its key.  A closing
brace that comes next is passed over. -/
def repeated {α : Type} (field : String) (s : Bytes) : Except Fault α :=
  let rest := match Json.skipSpace s with
    | b :: r => if b == 0x7D then r else b :: r
    | [] => []
  .error (.before (.duplicateField field) rest)

/-- Documents inside a response nest one level less. -/
def typedData (s : Bytes) : Except Fault (Value × Bytes) := Json.value (Json.nestingLimit - 1) s

/-- Reads the member with the given key; other members are passed over. -/
def draftField (d : Draft) (key : String) (s : Bytes) : Except Fault (Draft × Bytes) :=
  if key == "status" then
    if d.status.isSome then repeated key s
    else do
      let (x, rest) ← Json.typedStatus (← Json.colon s)
      return ({ d with status := some x }, rest)
  else if key == "headers" then
    if d.headers.isSome then repeated key s
    else do
      let (x, rest) ← Json.stringPairs (← Json.colon s)
      return ({ d with headers := some x }, rest)
  else if key == "data" then
    if d.data.isSome then repeated key s
    else do
      let (x, rest) ← typedData (← Json.colon s)
      return ({ d with data := some x }, rest)
  else do return (d, ← Json.skipValue (← Json.colon s))

/-- The response of a whole draft; `s` are the octets after the closing
brace. -/
def Draft.finish (d : Draft) (s : Bytes) : Except Fault Response :=
  match d.status, d.data with
  | none, _ => .error (.before (.missingField "status") s)
  | _, none => .error (.before (.missingField "data") s)
  | some status, some data => .ok ⟨status, d.headers.getD [], data⟩

/-! ## §4. Responses. -/

/-- What a response in the shape of an array is called. -/
def arrayShape : String := "struct UploadResponse with 3 elements"

/-- Reads a response in the shape of an array, after its bracket. -/
def readItems (s : Bytes) : Except Fault (Response × Bytes) := do
  let (status, s) ← Json.itemAt 0 arrayShape Json.typedStatus s
  let (ahead, s) ← Json.itemAhead true s
  if ahead then
    let (headers, s) ← Json.stringPairs s
    let (data, s) ← Json.itemAt 2 arrayShape typedData s
    return (⟨status, headers, data⟩, ← Json.closing s)
  else Json.tooShort 2 arrayShape s

/-- Reads a response in the shape of an object, after its brace. -/
def readMembers (s : Bytes) : Except Fault (Response × Bytes) := do
  let (draft, rest) ← Json.members draftField (s.length + 1) false .empty s
  return (← draft.finish rest, rest)

/-- Reads a whole text as one response. -/
def read (s : Bytes) : Except Fault Response := do
  let (r, rest) ← match Json.skipSpace s with
    | [] => .error (.with .endInValue [])
    | b :: t =>
        if b == 0x5B then readItems t
        else if b == 0x7B then readMembers t
        else .error (Json.mismatch "struct UploadResponse" (b :: t))
  Json.finish rest
  return r

end FormUpload.Response
