import FormUpload.Text.Ascii
import FormUpload.Text.Split

/-!
# Values on the command line

A name and a value are written with an equals sign between them; the first one
counts, and the name is not empty.  Seconds are written as a whole number below
`2^64`.
-/

namespace FormUpload.CommandLine

open FormUpload.Text

/-- Reads a name and a value. -/
def keyValue? (s : String) : Option (String × String) :=
  match cutWhere (· == '=') s.toList with
  | some (c :: name, value) => some (String.ofList (c :: name), String.ofList value)
  | _ => none

/-- Why a text is no name and value. -/
def keyValueFault (s : String) : String := "expected name=value, got `" ++ s ++ "`"

/-- Why a text is no number of seconds. -/
inductive NumberFault where
  | empty
  | badDigit
  | tooLarge
deriving DecidableEq, Repr

/-- The wording of a number fault. -/
def NumberFault.message : NumberFault → String
  | .empty => "cannot parse integer from empty string"
  | .badDigit => "invalid digit found in string"
  | .tooLarge => "number too large to fit in target type"

/-- Reads digits; the first fault counts. -/
def secondsFrom (n : Nat) : List Char → Except NumberFault Nat
  | [] => .ok n
  | c :: r =>
      if isDigitChar c then
        let n := n * 10 + (c.toNat - 0x30)
        if n < 0x10000000000000000 then secondsFrom n r else .error .tooLarge
      else .error .badDigit

/-- Reads a number of seconds; a plus sign may stand before it. -/
def seconds (s : String) : Except NumberFault Nat :=
  match s.toList with
  | [] => .error .empty
  | ['+'] => .error .badDigit
  | '+' :: r => secondsFrom 0 r
  | cs => secondsFrom 0 cs

end FormUpload.CommandLine
