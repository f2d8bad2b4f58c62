import FormUpload.MediaType.Registry
import FormUpload.Text.Ascii
import FormUpload.Text.PathName
import FormUpload.Text.Split

/-!
# Media types

`MediaType.parse?` reads a media type: a type and a subtype with a slash between
them, then parameters.  It is written out (`text`) with type, subtype, parameter
names and the value of `charset` in lower case and everything else as it was; a
semicolon that no parameter follows is dropped.

`MediaType.guess` is the media type that the extension of a file name stands for.
-/

namespace FormUpload

open FormUpload.Text

/-- A media type as it is written out. -/
structure MediaType where
  /-- Type, slash and subtype. -/
  essence : List Char
  /-- Everything from the first semicolon on. -/
  parameters : List Char
deriving DecidableEq, Repr

namespace MediaType

/-- The text of a media type. -/
def text (m : MediaType) : String := String.ofList (m.essence ++ m.parameters)

/-! ## §1. Tokens and values. -/

/-- The marks that a token may hold. -/
def tokenMarks : List Char :=
  ['!', '#', '$', '%', '&', '\'', '*', '+', '-', '.', '^', '_', '\x60', '|', '~']

/-- Whether the character may stand in a token. -/
def isTokenChar (c : Char) : Bool := isLetter c || isDigitChar c || tokenMarks.contains c

/-- The token that a text begins with, and the rest. -/
def token (cs : List Char) : List Char × List Char :=
  (cs.takeWhile isTokenChar, cs.dropWhile isTokenChar)

/-- Whether the character may stand in a quoted value. -/
def isQuotable (c : Char) : Bool := 31 < c.toNat && c.toNat != 127

/-- A value after its opening quote.  It has at least one character, and only the
first may be a quote. -/
def quotedValue? (cs : List Char) : Option (List Char × List Char) :=
  match cs with
  | [] => none
  | c :: r =>
      let inside := fun (c : Char) => isQuotable c && c != '"'
      match r.dropWhile inside with
      | '"' :: rest => if isQuotable c then some (c :: r.takeWhile inside, rest) else none
      | _ => none

/-! ## §2. Parameters. -/

/-- What follows a parameter: the end of the text, or a semicolon and more. -/
inductive Next where
  | finished
  | more (rest : List Char)

/-- Whether a parameter may end here. -/
def next? : List Char → Option Next
  | [] => some .finished
  | ';' :: r => some (.more r)
  | _ => none

/-- The value of a parameter, written out, and what follows.  Blanks may follow
a quoted value; a bare value may be empty only at the end of the text. -/
def parameterValue? (write : Char → Char) (cs : List Char) : Option (List Char × Next) :=
  match cs with
  | '"' :: r => do
      let (value, rest) ← quotedValue? r
      let next ← next? (rest.dropWhile (· == ' '))
      return ('"' :: value.map write ++ '"' :: rest.takeWhile (· == ' '), next)
  | _ => do
      let (value, rest) := token cs
      let next ← next? rest
      if value.isEmpty && !rest.isEmpty then none
      else some (value.map write, next)

/-- The parameter whose value is written in lower case. -/
def charsetName : List Char := ['c', 'h', 'a', 'r', 's', 'e', 't']

/-- One parameter, written out, and what follows. -/
def parameter? (cs : List Char) : Option (List Char × Next) :=
  match token cs with
  | (c :: name, '=' :: r) => do
      let name := (c :: name).map lowerChar
      let (value, next) ← parameterValue? (if name = charsetName then lowerChar else id) r
      return (name ++ '=' :: value, next)
  | _ => none

/-- Parameters written out; each takes at least one character, so `fuel` beyond
the number of characters is never used up.  Also says whether there is any. -/
def parametersFrom? : (fuel : Nat) → List Char → Option (Bool × List Char)
  | 0, _ => none
  | fuel + 1, cs =>
      let blanks := cs.takeWhile (· == ' ')
      match cs.dropWhile (· == ' ') with
      | [] => some (false, blanks)
      | c :: r =>
          match parameter? (c :: r) with
          | none => none
          | some (written, .finished) => some (true, blanks ++ written)
          | some (written, .more rest) =>
              (parametersFrom? fuel rest).map fun p => (true, blanks ++ written ++ ';' :: p.2)

/-- What follows the first semicolon, written out with it if it holds a
parameter. -/
def parameters? (cs : List Char) : Option (List Char) :=
  (parametersFrom? (cs.length + 1) cs).map fun p => if p.1 then ';' :: p.2 else []

/-! ## §3. Media types. -/

/-- Reads a media type.  The subtype may be empty if nothing follows. -/
def parseChars? (cs : List Char) : Option MediaType :=
  match token cs with
  | (c :: type, '/' :: r) =>
      let (subtype, rest) := token r
      let essence := (c :: type ++ '/' :: subtype).map lowerChar
      match rest with
      | [] => some ⟨essence, []⟩
      | ';' :: rest =>
          if subtype.isEmpty then none else (parameters? rest).map fun p => ⟨essence, p⟩
      | _ => none
  | _ => none

/-- Reads a media type. -/
def parse? (s : String) : Option MediaType := parseChars? s.toList

/-! ## §4. Guessing. -/

/-- The media type of contents about which nothing is known. -/
def anyContent : String := "application/octet-stream"

/-- Whether the extension is one of those in a row of the registry. -/
def inRow (extension : List Char) (row : String) : Bool :=
  (splitWhere (· == ' ') row.toList).contains extension

/-- The media type of an extension in lower case. -/
def ofExtension? (extension : List Char) : Option String :=
  (registry.find? fun row => inRow extension row.2).map (·.1)

/-- The characters that a character stands for when case does not count.  Beyond
ASCII, only characters that stand for ASCII letters are of interest. -/
def foldCase (c : Char) : List Char :=
  match c.toNat with
  | 0x212A => ['k']
  | 0x17F => ['s']
  | 0xDF => ['s', 's']
  | 0x1E9E => ['s', 's']
  | 0xFB00 => ['f', 'f']
  | 0xFB01 => ['f', 'i']
  | 0xFB02 => ['f', 'l']
  | 0xFB03 => ['f', 'f', 'i']
  | 0xFB04 => ['f', 'f', 'l']
  | 0xFB05 => ['s', 't']
  | 0xFB06 => ['s', 't']
  | _ => [lowerChar c]

/-- The media type that a file name stands for. -/
def guess (fileName : String) : String :=
  match extension? '/' '.' fileName.toList with
  | none => anyContent
  | some extension => (ofExtension? (extension.flatMap foldCase)).getD anyContent

end MediaType

end FormUpload
