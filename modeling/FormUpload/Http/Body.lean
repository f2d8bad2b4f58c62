import FormUpload.Http.Head
import FormUpload.Text.Split

/-!
# Response bodies

Where a body ends is told by the head (`Framing.of?`): some answers have none, a
length may be announced, the body may come in chunks, and otherwise it ends when the
connection is closed.  `Framing.read` finds the body in the octets after the head.
-/

namespace FormUpload.Http

open FormUpload.Text

/-- How the end of a body is found. -/
inductive Framing where
  | empty
  | sized (length : Nat)
  | chunked
  | untilClosed
deriving DecidableEq, Repr

/-! ## §1. What the head tells. -/

/-- The value without blanks around it. -/
def trimLine (v : Bytes) : Bytes :=
  ((v.dropWhile isLineBlank).reverse.dropWhile isLineBlank).reverse

/-- The values that stand between commas, blanks around them gone. -/
def listed (v : Bytes) : List Bytes := (splitWhere (· == 0x2C) v).map trimLine

/-- Lengths and sizes are below `2^64`. -/
def sizeLimit : Nat := 0x10000000000000000

/-- The number that decimal digits spell; it has to fit in 64 bits. -/
def wholeNumber? (v : Bytes) : Option Nat :=
  if v.isEmpty || !v.all isDigit then none
  else
    let n := v.foldl (fun n b => n * 10 + digitValue b) 0
    if n < sizeLimit then some n else none

/-- The length that a list of announced lengths agrees on. -/
def agreedLength? : List Bytes → Option Nat
  | [] => none
  | v :: r => do
      let n ← wholeNumber? v
      if r.all fun w => wholeNumber? w == some n then some n else none

/-- Lengths from this on stand for something else. -/
def lengthLimit : Nat := sizeLimit - 2

/-- The last coding of a transfer. -/
def lastCoding (values : List Bytes) : Bytes :=
  (((values.getLast?).bind fun v => (listed v).getLast?).getD []).map lowerByte

/-- How the end of the body is found; `none` if the head contradicts itself. -/
def Framing.of? (h : Head) : Option Framing :=
  if h.status < 200 || h.status == 204 || h.status == 304 then some .empty
  else
    let codings := Headers.all h.headers "transfer-encoding"
    let lengths := Headers.all h.headers "content-length"
    if !codings.isEmpty then
      if h.isOld then none
      else if lastCoding codings = bytesOf "chunked" then some .chunked
      else some .untilClosed
    else if !lengths.isEmpty then
      match agreedLength? (lengths.flatMap listed) with
      | some n => if n < lengthLimit then some (.sized n) else none
      | none => none
    else some .untilClosed

/-! ## §2. Chunks. -/

/-- Reads the size of a chunk: hexadecimal digits. -/
def chunkSize (n : Nat) (any : Bool) : Bytes → Scan Nat
  | [] => .unfinished
  | b :: s =>
      match hexValue? b with
      | some d => if n * 16 + d < sizeLimit then chunkSize (n * 16 + d) true s else .broken
      | none => if any then .done n (b :: s) else .broken

/-- Passes over lines up to an empty one. -/
def trailers : (fuel : Nat) → Bytes → Scan Unit
  | 0, _ => .unfinished
  | fuel + 1, s =>
      match s with
      | [] => .unfinished
      | [0x0D] => .unfinished
      | 0x0D :: 0x0A :: r => .done () r
      | _ => (restOfLine s).andThen fun _ r => trailers fuel r

/-- Reads chunks up to the empty one.  Each takes some octets, so `fuel` beyond the
number of octets is never used up. -/
def chunks : (fuel : Nat) → Bytes → Scan Bytes
  | 0, _ => .unfinished
  | fuel + 1, s =>
      (chunkSize 0 false s).andThen fun n s =>
        (restOfLine s).andThen fun _ s =>
          if n = 0 then (trailers (s.length + 1) s).andThen fun _ s => .done [] s
          else if s.length < n then .unfinished
          else (expect [0x0D, 0x0A] (s.drop n)).andThen fun _ rest =>
            (chunks fuel rest).andThen fun more rest => .done (s.take n ++ more) rest

/-! ## §3. Bodies. -/

/-- The body in the octets after the head.  `closed` says that no more will
come. -/
def Framing.read (f : Framing) (closed : Bool) (s : Bytes) : Scan Bytes :=
  match f with
  | .empty => .done [] s
  | .sized n => if n ≤ s.length then .done (s.take n) (s.drop n) else .unfinished
  | .chunked => chunks (s.length + 1) s
  | .untilClosed => if closed then .done s [] else .unfinished

end FormUpload.Http
