import FormUpload.Failure
import FormUpload.Form
import FormUpload.MediaType
import FormUpload.Text.Percent

/-!
# Multipart bodies

A form is sent as blocks, one for each part in order.  A block has header lines, an
empty line and the content; the boundary stands before every block and after the
last.  A form without parts has an empty body.

`encodedLength` counts the octets of a body without building it.

Only the content types that parts name themselves can be wrong.  They are checked for
the whole form (`blocks`) before anything is encoded.
-/

namespace FormUpload.Multipart

open FormUpload.Text

/-! ## §1. Boundaries. -/

/-- A boundary: four random numbers. -/
structure Boundary where
  first : UInt64
  second : UInt64
  third : UInt64
  fourth : UInt64
deriving DecidableEq, Repr

/-- The lowest `places` hexadecimal digits of a number. -/
def hexPlaces : (places : Nat) → Nat → List Char
  | 0, _ => []
  | places + 1, n => hexPlaces places (n / 16) ++ [hexDigit (n % 16)]

/-- The text of a boundary: sixteen hexadecimal digits for each number, with a
hyphen between any two. -/
def Boundary.text (b : Boundary) : List Char :=
  joinWith ['-'] ([b.first, b.second, b.third, b.fourth].map fun n => hexPlaces 16 n.toNat)

/-! ## §2. Header lines. -/

/-- The characters of a name that are encoded, those beyond ASCII apart. -/
def inNameSet (c : Char) : Bool :=
  isControl c || [' ', '"', '<', '>', '\x60', '#', '?', '{', '}', '/', '%'].contains c

/-- Whether a name is written in quotes: it needs no encoding, or it is a single
octet. -/
def isQuotedName (name : List Char) : Bool :=
  percentEncode inNameSet name == name || (Utf8.encode name).length ≤ 1

/-- What stands before a name in quotes. -/
def quotedNameStart : List Char := "name=\"".toList

/-- What stands before a name that is not in quotes. -/
def encodedNameStart : List Char := "name*=utf-8''".toList

/-- The name of a part. -/
def nameParameter (name : List Char) : List Char :=
  if isQuotedName name then quotedNameStart ++ percentEncode inNameSet name ++ ['"']
  else encodedNameStart ++ percentEncode inNameSet name

/-- The characters that get a backslash in a file name. -/
def isEscapedInFileName (c : Char) : Bool := c == '\\' || c == '"' || c == '\r' || c == '\n'

/-- One character of a file name. -/
def fileNameChar (c : Char) : List Char := if isEscapedInFileName c then ['\\', c] else [c]

/-- What stands before a file name. -/
def fileNameStart : List Char := "filename=\"".toList

/-- The file name of a part, in quotes. -/
def fileNameParameter (fileName : List Char) : List Char :=
  fileNameStart ++ fileName.flatMap fileNameChar ++ ['"']

/-- A carriage return and a line feed. -/
def lineEnd : List Char := ['\r', '\n']

/-- What the first header line begins with. -/
def dispositionStart : List Char := "Content-Disposition: form-data; ".toList

/-- What the header line with the content type begins with. -/
def typeStart : List Char := "Content-Type: ".toList

/-! ## §3. Blocks. -/

/-- A part with its header lines put together. -/
structure Block where
  headers : List Char
  content : Bytes
deriving DecidableEq, Repr

/-- The content type of a file: its own, or the one its name stands for. -/
def typeText (fileName : String) (contentType : Option String) : String :=
  contentType.getD (MediaType.guess fileName)

/-- The block of a part.  Fails if the content type is none. -/
def blockOf : Part → Except Failure Block
  | .text name value => .ok ⟨dispositionStart ++ nameParameter name.toList, bytesOf value⟩
  | .file name fileName contentType content =>
      match MediaType.parse? (typeText fileName contentType) with
      | none => .error (.contentType name (typeText fileName contentType))
      | some mediaType =>
          .ok ⟨dispositionStart ++ nameParameter name.toList ++ [';', ' ']
              ++ fileNameParameter fileName.toList ++ lineEnd ++ typeStart
              ++ mediaType.essence ++ mediaType.parameters, content⟩

/-- The blocks of a form.  The first part with a wrong content type makes it
fail. -/
def blocks : List Part → Except Failure (List Block)
  | [] => .ok []
  | p :: r =>
      match blockOf p with
      | .error f => .error f
      | .ok b =>
          match blocks r with
          | .error f => .error f
          | .ok bs => .ok (b :: bs)

/-! ## §4. Bodies. -/

/-- Two hyphens. -/
def hyphens : List Char := ['-', '-']

/-- A block after its boundary. -/
def encodeBlock (boundary : List Char) (b : Block) : Bytes :=
  Utf8.encode (hyphens ++ boundary ++ lineEnd ++ b.headers ++ lineEnd ++ lineEnd) ++ b.content
    ++ Utf8.encode lineEnd

/-- The boundary after the last block. -/
def closing (boundary : List Char) : Bytes :=
  Utf8.encode (hyphens ++ boundary ++ hyphens ++ lineEnd)

/-- The body of a form. -/
def encode (boundary : List Char) (bs : List Block) : Bytes :=
  if bs.isEmpty then [] else bs.flatMap (encodeBlock boundary) ++ closing boundary

/-- The number of octets that a block takes. -/
def blockLength (boundary : List Char) (b : Block) : Nat :=
  2 + (Utf8.encode boundary).length + 2 + (Utf8.encode b.headers).length + 4 + b.content.length
    + 2

/-- The number of octets that the boundary takes after the last block. -/
def closingLength (boundary : List Char) : Nat := 2 + (Utf8.encode boundary).length + 4

/-- The number of octets that blocks and what follows them take. -/
def blocksLength (boundary : List Char) : List Block → Nat
  | [] => closingLength boundary
  | b :: r => blockLength boundary b + blocksLength boundary r

/-- The number of octets of a body. -/
def encodedLength (boundary : List Char) (bs : List Block) : Nat :=
  if bs.isEmpty then 0 else blocksLength boundary bs

/-- The content type of a body. -/
def bodyType (boundary : List Char) : String :=
  "multipart/form-data; boundary=" ++ String.ofList boundary

end FormUpload.Multipart
