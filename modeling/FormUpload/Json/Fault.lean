import FormUpload.Json.Printer
import FormUpload.Text.Quoted

/-!
# Faults of a JSON text

What is wrong with a text (`Problem`) and where (`Fault`).  A fault remembers how
many octets were left when it was found; `Fault.message` turns that into the line
and column of the text that was read.  Columns count octets, lines are ended by
the line feed, and the column just after a line feed is 0.
-/

namespace FormUpload.Json

open FormUpload.Text
open FormUpload.Number (Binary64)

/-! ## §1. Problems. -/

/-- What stood where something else was wanted. -/
inductive Found where
  | null
  | bool (b : Bool)
  | number (n : Number)
  | string (s : String)
  | array
  | object
deriving Repr

/-- Why a text is refused.  The last five concern a text that is JSON and does not
have the wanted shape. -/
inductive Problem where
  | endInValue
  | endInArray
  | endInObject
  | endInString
  | expectedColon
  | expectedCommaOrBracket
  | expectedCommaOrBrace
  | unknownWord
  | expectedValue
  | badEscape
  | badNumber
  | numberOutOfRange
  | notUnicode
  | controlCharacter
  | keyNotString
  | loneSurrogate
  | unfinishedSurrogatePair
  | trailingComma
  | trailingCharacters
  | tooDeep
  | wrongType (found : Found) (wanted : String)
  | wrongValue (found : Found) (wanted : String)
  | wrongLength (length : Nat) (wanted : String)
  | missingField (name : String)
  | duplicateField (name : String)
deriving Repr

/-- How a found thing is called. -/
def Found.text : Found → String
  | .null => "null"
  | .bool true => "boolean `true`"
  | .bool false => "boolean `false`"
  | .number (.whole i) => "integer `" ++ String.ofList (decimalInt i) ++ "`"
  | .number (.real x) => "floating point `" ++ String.ofList (realText x) ++ "`"
  | .string s => "string " ++ quotedText s
  | .array => "sequence"
  | .object => "map"

/-- The wording of a problem. -/
def Problem.text : Problem → String
  | .endInValue => "EOF while parsing a value"
  | .endInArray => "EOF while parsing a list"
  | .endInObject => "EOF while parsing an object"
  | .endInString => "EOF while parsing a string"
  | .expectedColon => "expected `:`"
  | .expectedCommaOrBracket => "expected `,` or `]`"
  | .expectedCommaOrBrace => "expected `,` or `\x7d`"
  | .unknownWord => "expected ident"
  | .expectedValue => "expected value"
  | .badEscape => "invalid escape"
  | .badNumber => "invalid number"
  | .numberOutOfRange => "number out of range"
  | .notUnicode => "invalid unicode code point"
  | .controlCharacter => "control character (\\u0000-\\u001F) found while parsing a string"
  | .keyNotString => "key must be a string"
  | .loneSurrogate => "lone leading surrogate in hex escape"
  | .unfinishedSurrogatePair => "unexpected end of hex escape"
  | .trailingComma => "trailing comma"
  | .trailingCharacters => "trailing characters"
  | .tooDeep => "recursion limit exceeded"
  | .wrongType f w => "invalid type: " ++ f.text ++ ", expected " ++ w
  | .wrongValue f w => "invalid value: " ++ f.text ++ ", expected " ++ w
  | .wrongLength n w =>
      "invalid length " ++ String.ofList (decimal n) ++ ", expected " ++ w
  | .missingField n => "missing field `" ++ n ++ "`"
  | .duplicateField n => "duplicate field `" ++ n ++ "`"

/-! ## §2. Places. -/

/-- A problem and the number of octets that were left when it was found. -/
structure Fault where
  problem : Problem
  left : Nat
deriving Repr

/-- A problem found just before the remaining octets. -/
def Fault.before (p : Problem) (s : Bytes) : Fault := ⟨p, s.length⟩

/-- A problem with the next of the remaining octets; at the end of the text, with
the end. -/
def Fault.with (p : Problem) (s : Bytes) : Fault := ⟨p, s.length - 1⟩

/-- The line and column after the given octets. -/
def placeAfter (s : Bytes) : Nat × Nat :=
  (s.count 0x0A + 1, (s.reverse.takeWhile (· ≠ 0x0A)).length)

/-- The message for a fault of the given text. -/
def Fault.message (f : Fault) (text : Bytes) : String :=
  let place := placeAfter (text.take (text.length - f.left))
  f.problem.text ++ " at line " ++ String.ofList (decimal place.1) ++ " column "
    ++ String.ofList (decimal place.2)

end FormUpload.Json
