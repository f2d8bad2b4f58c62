import FormUpload.Http.Head
import FormUpload.MediaType
import FormUpload.Text.Percent
import FormUpload.Text.Split

/-!
# Reading multipart bodies

A strict reader: boundary lines, header lines and contents follow each other without
anything in between, and a body that ends before its closing boundary is refused.  The
name and the file name of a field come from its disposition line.  A quote inside
quotes is written after a backslash, a backslash stands for itself, and only the plain
spelling of a parameter counts.
-/

namespace FormUpload.Echo

open FormUpload.Text

/-- A field as it was understood. -/
structure Field where
  name : Option String
  fileName : Option String
  contentType : Option String
  content : Bytes
deriving DecidableEq, Repr

/-! ## §1. Disposition lines. -/

/-- The blanks of ASCII. -/
def isAsciiBlank (b : UInt8) : Bool :=
  b == 0x20 || b == 0x09 || b == 0x0A || b == 0x0C || b == 0x0D

/-- What stands before the closing quote; `read` is put together backwards. -/
def upToQuote? (read : Bytes) : Bytes → Option Bytes
  | [] => none
  | b :: r =>
      if b = 0x22 && read.head? != some 0x5C then some read.reverse
      else upToQuote? (b :: read) r

/-- The octets with every quote that follows a backslash alone. -/
def unescapeQuotes : Bytes → Bytes
  | 0x5C :: 0x22 :: r => 0x22 :: unescapeQuotes r
  | b :: r => b :: unescapeQuotes r
  | [] => []

/-- The value of a parameter after its equals sign. -/
def parameterValue? (s : Bytes) : Option String :=
  match s with
  | 0x22 :: r => do string? (unescapeQuotes (← upToQuote? [] r))
  | _ =>
      let bare := s.takeWhile (· != 0x3B)
      string? (percentDecode
        ((bare.dropWhile isAsciiBlank).reverse.dropWhile isAsciiBlank).reverse)

/-- The value of the first parameter whose name and equals sign are `key`.  A
parameter begins after a blank or a semicolon.  Each look takes some octets, so
`fuel` beyond their number is never used up. -/
def parameterFrom? (key : Bytes) : (fuel : Nat) → Bytes → Option String
  | 0, _ => none
  | fuel + 1, s =>
      match cutAt key s with
      | none => none
      | some (before, after) =>
          match before.getLast? with
          | none => parameterValue? after
          | some b =>
              if isAsciiBlank b || b = 0x3B then parameterValue? after
              else parameterFrom? key fuel after

/-- The value of a parameter of a disposition line. -/
def parameter? (key : String) (line : Bytes) : Option String :=
  parameterFrom? (bytesOf key) (line.length + 1) line

/-! ## §2. Fields. -/

/-- Whether a header value is plain text. -/
def isPlainText (v : Bytes) : Bool := v.all fun b => b == 0x09 || (0x20 ≤ b && b < 0x7F)

/-- The field with some headers and a content. -/
def Field.ofHeaders (hs : Http.Headers) (content : Bytes) : Field :=
  let line := (hs.first? "content-disposition").getD []
  let typeOf := fun (v : Bytes) =>
    if isPlainText v then (string? v).bind fun t => (MediaType.parse? t).map (·.text) else none
  ⟨parameter? "name=" line, parameter? "filename=" line,
    (hs.first? "content-type").bind typeOf, content⟩

/-- The most header lines that a field may have. -/
def headerRoom : Nat := 32

/-- A carriage return and a line feed. -/
def lineBreak : Bytes := [0x0D, 0x0A]

/-- Reads one field after its boundary line: the field and the octets from the next
boundary on. -/
def readField (delimiter s : Bytes) : Option (Field × Bytes) := do
  let (head, s) ← cutAt (lineBreak ++ lineBreak) s
  let (content, rest) ← cutAt (lineBreak ++ delimiter) s
  match Http.headerLines headerRoom (head ++ lineBreak ++ lineBreak) with
  | .done hs _ => some (.ofHeaders hs content, delimiter ++ rest)
  | _ => none

/-- Reads fields from a boundary on.  Each takes some octets, so `fuel` beyond their
number is never used up. -/
def readFields (delimiter : Bytes) : (fuel : Nat) → Bytes → Option (List Field)
  | 0, _ => none
  | fuel + 1, s => do
      let s ← afterStart? delimiter s
      match s with
      | 0x2D :: 0x2D :: _ => some []
      | [] => none
      | [_] => none
      | _ =>
          let s ← afterStart? lineBreak (s.dropWhile fun b => b == 0x20 || b == 0x09)
          let (field, rest) ← readField delimiter s
          return field :: (← readFields delimiter fuel rest)

/-- Reads a body.  What stands before the first boundary does not count. -/
def readBody (boundary : String) (body : Bytes) : Option (List Field) := do
  let delimiter := bytesOf ("--" ++ boundary)
  let (_, rest) ← cutAt delimiter body
  readFields delimiter (body.length + 1) (delimiter ++ rest)

end FormUpload.Echo
