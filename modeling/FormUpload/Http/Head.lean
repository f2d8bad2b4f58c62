import FormUpload.Text.Ascii

/-!
# Response heads

A head is a status line and header lines, up to an empty line.  It is read octet by
octet, so a broken head is noticed as soon as its first wrong octet has come:
`Scan.broken` tells it from a head of which more is to come (`Scan.unfinished`).

Header names are put in lower case, and blanks around values go away.  `grouped` puts
the values of one name together, at the place of the first.
-/

namespace FormUpload.Http

open FormUpload.Text

/-- What a reader finds in the octets that have come so far. -/
inductive Scan (α : Type) where
  | done (value : α) (rest : Bytes)
  | unfinished
  | broken
deriving Repr

/-- Goes on with what follows. -/
def Scan.andThen {α β : Type} (x : Scan α) (f : α → Bytes → Scan β) : Scan β :=
  match x with
  | .done a rest => f a rest
  | .unfinished => .unfinished
  | .broken => .broken

/-- A response head. -/
structure Head where
  /-- Whether the version is 1.0. -/
  isOld : Bool
  status : Nat
  headers : List (String × Bytes)
deriving Repr

/-! ## §1. Status lines. -/

/-- Reads the given octets. -/
def expect : Bytes → Bytes → Scan Unit
  | [], s => .done () s
  | _ :: _, [] => .unfinished
  | w :: ws, b :: s => if b = w then expect ws s else .broken

/-- Passes over empty lines. -/
def skipEmptyLines : Bytes → Scan Unit
  | [] => .unfinished
  | 0x0A :: s => skipEmptyLines s
  | 0x0D :: 0x0A :: s => skipEmptyLines s
  | [0x0D] => .unfinished
  | 0x0D :: _ => .broken
  | b :: s => .done () (b :: s)

/-- Reads the version: 1.0 or 1.1. -/
def version (s : Bytes) : Scan Bool :=
  (expect (bytesOf "HTTP/1.") s).andThen fun _ s =>
    match s with
    | [] => .unfinished
    | b :: r => if b = 0x30 then .done true r else if b = 0x31 then .done false r else .broken

/-- Reads decimal digits. -/
def digits : (places n : Nat) → Bytes → Scan Nat
  | 0, n, s => .done n s
  | _ + 1, _, [] => .unfinished
  | places + 1, n, b :: s =>
      if isDigit b then digits places (n * 10 + digitValue b) s else .broken

/-- Whether the octet may stand in a reason phrase or a header value. -/
def isTextOctet (b : UInt8) : Bool := b == 0x09 || (0x20 ≤ b && b != 0x7F)

/-- Passes over the rest of a line. -/
def restOfLine : Bytes → Scan Unit
  | [] => .unfinished
  | 0x0A :: s => .done () s
  | 0x0D :: 0x0A :: s => .done () s
  | [0x0D] => .unfinished
  | b :: s => if isTextOctet b then restOfLine s else .broken

/-- Passes over the reason phrase, which may be missing, and the end of the
line. -/
def reason (s : Bytes) : Scan Unit :=
  match s with
  | [] => .unfinished
  | b :: r =>
      if b = 0x20 then restOfLine r
      else if b = 0x0A || b = 0x0D then restOfLine s
      else .broken

/-! ## §2. Header lines. -/

/-- The marks that a header name may hold. -/
def nameMarks : Bytes := bytesOf "!#$%&'*+-.^_`|~"

/-- Whether the octet may stand in a header name. -/
def isNameOctet (b : UInt8) : Bool :=
  isDigit b || (0x61 ≤ lowerByte b && lowerByte b ≤ 0x7A) || nameMarks.contains b

/-- Reads a header name and its colon. -/
def headerName (read : Bytes) : Bytes → Scan Bytes
  | [] => .unfinished
  | b :: s =>
      if isNameOctet b then headerName (lowerByte b :: read) s
      else if b = 0x3A && !read.isEmpty then .done read.reverse s
      else .broken

/-- A blank of a header line. -/
def isLineBlank (b : UInt8) : Bool := b == 0x20 || b == 0x09

/-- Reads a header value and the end of the line. -/
def headerValue (read : Bytes) : Bytes → Scan Bytes
  | [] => .unfinished
  | 0x0A :: s => .done (read.dropWhile isLineBlank).reverse s
  | 0x0D :: 0x0A :: s => .done (read.dropWhile isLineBlank).reverse s
  | [0x0D] => .unfinished
  | b :: s => if isTextOctet b then headerValue (b :: read) s else .broken

/-- More header lines than this are refused. -/
def headerLimit : Nat := 100

/-- Reads header lines up to the empty line, at most `room` of them. -/
def headerLines : (room : Nat) → Bytes → Scan (List (String × Bytes))
  | _, [] => .unfinished
  | _, 0x0A :: s => .done [] s
  | _, 0x0D :: 0x0A :: s => .done [] s
  | _, [0x0D] => .unfinished
  | 0, _ => .broken
  | room + 1, s =>
      (headerName [] s).andThen fun name s =>
        (headerValue [] (s.dropWhile isLineBlank)).andThen fun value s =>
          (headerLines room s).andThen fun more s => .done ((stringLossy name, value) :: more) s

/-! ## §3. Heads. -/

/-- Reads one head. -/
def Head.scan (s : Bytes) : Scan Head :=
  (skipEmptyLines s).andThen fun _ s =>
    (version s).andThen fun isOld s =>
      (expect [0x20] s).andThen fun _ s =>
        (digits 3 0 s).andThen fun status s =>
          (reason s).andThen fun _ s =>
            (headerLines headerLimit s).andThen fun headers s =>
              if status < 100 then .broken else .done ⟨isOld, status, headers⟩ s

/-- Whether more heads follow for the same request. -/
def Head.isProvisional (h : Head) : Bool := h.status < 200 && h.status != 101

/-- Reads the head of the final answer; heads that only tell of progress are passed
over.  Each takes some octets, so `fuel` beyond the number of octets is never used
up. -/
def Head.scanFinal : (fuel : Nat) → Bytes → Scan Head
  | 0, _ => .unfinished
  | fuel + 1, s =>
      (Head.scan s).andThen fun h rest =>
        if h.isProvisional then Head.scanFinal fuel rest else .done h rest

/-- Reads the head of the final answer. -/
def Head.read (s : Bytes) : Scan Head := Head.scanFinal (s.length + 1) s

/-! ## §4. Headers. -/

/-- Header values by name. -/
abbrev Headers := List (String × Bytes)

/-- All values of a name, in order. -/
def Headers.all (hs : Headers) (name : String) : List Bytes :=
  (hs.filter (·.1 == name)).map (·.2)

/-- The first value of a name. -/
def Headers.first? (hs : Headers) (name : String) : Option Bytes :=
  (hs.find? (·.1 == name)).map (·.2)

/-- The headers with the values of one name together, at the place of the
first.  `fuel` is at least the number of headers. -/
def groupedFrom : (fuel : Nat) → Headers → Headers
  | 0, hs => hs
  | _ + 1, [] => []
  | fuel + 1, h :: r =>
      h :: r.filter (·.1 == h.1) ++ groupedFrom fuel (r.filter (·.1 != h.1))

/-- The headers with the values of one name together. -/
def Headers.grouped (hs : Headers) : Headers := groupedFrom hs.length hs

end FormUpload.Http
