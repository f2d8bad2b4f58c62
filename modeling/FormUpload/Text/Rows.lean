import FormUpload.Text.Ascii
import FormUpload.Text.Split

/-!
# Tables written as text

A table of numbers as one text: rows separated by blanks or line breaks, the
numbers of a row in hexadecimal digits separated by points.
-/

namespace FormUpload.Text

/-- The number that hexadecimal digits spell. -/
def ofHexDigits (cs : List Char) : Nat :=
  cs.foldl (fun n c => n * 16 + (hexValueChar? c).getD 0) 0

/-- The rows of a table. -/
def rowsOf (s : String) : List (List Nat) :=
  (splitWhere (fun c => c == ' ' || c == '\n') s.toList).map fun row =>
    (splitWhere (· == '.') row).map ofHexDigits

/-- Whether a number lies in one of the ranges that rows begin with. -/
def inRows (rows : List (List Nat)) (v : Nat) : Bool :=
  rows.any fun
    | a :: b :: _ => a ≤ v && v ≤ b
    | _ => false

/-- The third number of the row whose range holds the given one. -/
def classIn (rows : List (List Nat)) (v : Nat) : Option Nat :=
  rows.findSome? fun
    | a :: b :: k :: _ => if a ≤ v && v ≤ b then some k else none
    | _ => none

end FormUpload.Text
