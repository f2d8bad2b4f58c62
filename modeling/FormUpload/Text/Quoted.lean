import FormUpload.Text.Ascii
import FormUpload.Text.Printable

/-!
# Texts in quotes for a reader of diagnostics

Double quotes around the text.  Inside, the quote and the backslash get a
backslash, tab, line feed, carriage return and NUL have short forms, and every
other character that would not show (`isPrintable`) is written by its scalar value
in lower-case hexadecimal digits between braces.
-/

namespace FormUpload.Text

/-- A number in lower-case hexadecimal digits. -/
def hexNumber (n : Nat) : List Char := Nat.toDigits 16 n

/-- One character between quotes. -/
def quotedChar (c : Char) : List Char :=
  if c = '"' then ['\\', '"']
  else if c = '\\' then ['\\', '\\']
  else if c = '\t' then ['\\', 't']
  else if c = '\n' then ['\\', 'n']
  else if c = '\r' then ['\\', 'r']
  else if c = '\x00' then ['\\', '0']
  else if isPrintable c then [c]
  else '\\' :: 'u' :: '{' :: hexNumber c.toNat ++ ['}']

/-- The text in quotes. -/
def quotedText (s : String) : String :=
  String.ofList ('"' :: s.toList.flatMap quotedChar ++ ['"'])

end FormUpload.Text
