import FormUpload.Json.Value
import FormUpload.Number.Shortest
import FormUpload.Text.Ascii

/-!
# Printing JSON

Two layouts of one document: `compact`, with no blank between tokens, and
`pretty`, with one item or member a line, two blanks of indentation a level and
empty arrays and objects closed at once.  In strings only the quote, the
backslash and the characters below `U+0020` are escaped.  Numbers print by
`Number.text`.
-/

namespace FormUpload.Json

open FormUpload.Number (Binary64 ShortDecimal)
open FormUpload.Text

/-! ## §1. Numbers. -/

/-- How a binary64 number is laid out: the least and the greatest place of its
leading digit at which it is written without an exponent. -/
structure RealLayout where
  leastPlain : Int
  greatestPlain : Int

/-- Documents write a number plainly from `1e-5` up to below `1e16`. -/
def realLayout : RealLayout := ⟨-5, 15⟩

/-- Decimal digits with the point before the last `places` of them. -/
def pointed (ds : List Char) (places : Nat) : List Char :=
  let padded := List.replicate (places + 1 - ds.length) '0' ++ ds
  padded.take (padded.length - places) ++ '.' :: padded.drop (padded.length - places)

/-- The text of a shortest decimal.  A plain number has a point and at least one
digit on each side; an exponent is written with its sign. -/
def decimalText (layout : RealLayout) (d : ShortDecimal) : List Char :=
  let ds := decimal d.digits
  let lead := d.exponent + (ds.length : Int) - 1
  if d.digits = 0 then ['0', '.', '0']
  else if layout.leastPlain ≤ lead ∧ lead ≤ layout.greatestPlain then
    if 0 ≤ d.exponent then ds ++ List.replicate d.exponent.toNat '0' ++ ['.', '0']
    else pointed ds d.exponent.natAbs
  else
    let mantissa := if ds.length ≤ 1 then ds else ds.take 1 ++ '.' :: ds.drop 1
    mantissa ++ 'e' :: (if lead < 0 then '-' else '+') :: decimal lead.natAbs

/-- The text of a binary64 number: the shortest digits that read back. -/
def realText (x : Binary64) : List Char :=
  (if x.negative then ['-'] else []) ++ decimalText realLayout x.shortest

/-- The text of a number. -/
def Number.text : Number → List Char
  | .whole i => decimalInt i
  | .real x => realText x

/-! ## §2. Strings. -/

/-- One character of a string. -/
def escapeChar (c : Char) : List Char :=
  if c = '"' then ['\\', '"']
  else if c = '\\' then ['\\', '\\']
  else if c = '\x08' then ['\\', 'b']
  else if c = '\t' then ['\\', 't']
  else if c = '\n' then ['\\', 'n']
  else if c = '\x0c' then ['\\', 'f']
  else if c = '\r' then ['\\', 'r']
  else if c.toNat < 0x20 then
    ['\\', 'u', '0', '0', hexDigit (c.toNat / 16), hexDigit (c.toNat % 16)]
  else [c]

/-- A string in quotes. -/
def quoted (s : String) : List Char := '"' :: s.toList.flatMap escapeChar ++ ['"']

/-! ## §3. The compact layout. -/

mutual

/-- The document with no blank between its tokens. -/
def compact : Value → List Char
  | .null => ['n', 'u', 'l', 'l']
  | .bool true => ['t', 'r', 'u', 'e']
  | .bool false => ['f', 'a', 'l', 's', 'e']
  | .number n => n.text
  | .string s => quoted s
  | .array items => '[' :: compactItems items ++ [']']
  | .object members => '{' :: compactMembers members ++ ['}']

/-- Items with a comma between any two. -/
def compactItems : List Value → List Char
  | [] => []
  | v :: r => compact v ++ compactMoreItems r

/-- Items each after a comma. -/
def compactMoreItems : List Value → List Char
  | [] => []
  | v :: r => ',' :: compact v ++ compactMoreItems r

/-- Members with a comma between any two. -/
def compactMembers : List (String × Value) → List Char
  | [] => []
  | (k, v) :: r => quoted k ++ ':' :: compact v ++ compactMoreMembers r

/-- Members each after a comma. -/
def compactMoreMembers : List (String × Value) → List Char
  | [] => []
  | (k, v) :: r => ',' :: quoted k ++ ':' :: compact v ++ compactMoreMembers r

end

/-! ## §4. The pretty layout. -/

/-- A line break and the indentation of a level. -/
def newLine (level : Nat) : List Char := '\n' :: List.replicate (2 * level) ' '

mutual

/-- The document with one item or member a line, inside the given level. -/
def prettyAt (level : Nat) : Value → List Char
  | .null => ['n', 'u', 'l', 'l']
  | .bool true => ['t', 'r', 'u', 'e']
  | .bool false => ['f', 'a', 'l', 's', 'e']
  | .number n => n.text
  | .string s => quoted s
  | .array [] => ['[', ']']
  | .array (v :: r) =>
      '[' :: newLine (level + 1) ++ prettyAt (level + 1) v ++ prettyMoreItems (level + 1) r
        ++ newLine level ++ [']']
  | .object [] => ['{', '}']
  | .object ((k, v) :: r) =>
      '{' :: newLine (level + 1) ++ quoted k ++ ':' :: ' ' :: prettyAt (level + 1) v
        ++ prettyMoreMembers (level + 1) r ++ newLine level ++ ['}']

/-- Items each after a comma and a line break. -/
def prettyMoreItems (level : Nat) : List Value → List Char
  | [] => []
  | v :: r => ',' :: newLine level ++ prettyAt level v ++ prettyMoreItems level r

/-- Members each after a comma and a line break. -/
def prettyMoreMembers (level : Nat) : List (String × Value) → List Char
  | [] => []
  | (k, v) :: r =>
      ',' :: newLine level ++ quoted k ++ ':' :: ' ' :: prettyAt level v
        ++ prettyMoreMembers level r

end

/-- The document with one item or member a line. -/
def pretty (v : Value) : List Char := prettyAt 0 v

/-- The compact text of a document. -/
def Value.text (v : Value) : String := String.ofList (compact v)

/-- The pretty text of a document. -/
def Value.prettyText (v : Value) : String := String.ofList (pretty v)

end FormUpload.Json
