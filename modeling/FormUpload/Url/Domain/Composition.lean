import FormUpload.Text.Rows
import FormUpload.Url.Domain.CompositionTable

/-!
# Composed characters

The composed normal form of a text: take characters apart into a base and its
marks, put neighbouring marks into the order of their combining classes, then put
together again what has a composed character.  Hangul syllables are taken apart
and put together by arithmetic.
-/

namespace FormUpload.Url.Domain

open FormUpload.Text

/-! ## §1. The tables. -/

def combiningClasses : List (List Nat) := rowsOf classRows
def combiningMarks : List (List Nat) := rowsOf markRows
def compositions : List (List Nat) := rowsOf compositionRows

/-- The combining class of a character. -/
def combiningClass (v : Nat) : Nat := if v < 0x300 then 0 else (classIn combiningClasses v).getD 0

/-- Whether the character is a combining mark. -/
def isMark (v : Nat) : Bool := 0x300 ≤ v && inRows combiningMarks v

/-! ## §2. Taking apart. -/

/-- The jamo of a Hangul syllable. -/
def syllableParts (v : Nat) : List Nat :=
  let s := v - 0xAC00
  let t := s % 28
  [0x1100 + s / 588, 0x1161 + s % 588 / 28] ++ if t = 0 then [] else [0x11A7 + t]

/-- A character taken apart.  Every step leaves a shorter composition, and none
has more than four parts. -/
def decomposeChar : (fuel : Nat) → Nat → List Nat
  | 0, v => [v]
  | fuel + 1, v =>
      if v < 0xC0 then [v]
      else if 0xAC00 ≤ v && v ≤ 0xD7A3 then syllableParts v
      else
        match compositions.find? (fun row => row.drop 2 == [v]) with
        | some (a :: b :: _) => decomposeChar fuel a ++ decomposeChar fuel b
        | _ => [v]

/-- Puts a mark before the marks of a higher class at the end of a text that is
held backwards. -/
def placeMark (v : Nat) : List Nat → List Nat
  | [] => [v]
  | w :: r => if combiningClass v < combiningClass w then w :: placeMark v r else v :: w :: r

/-- The text with neighbouring marks in the order of their classes; held
backwards while it is put together. -/
def orderMarks (vs : List Nat) : List Nat :=
  (vs.foldl (fun out v => if combiningClass v = 0 then v :: out else placeMark v out) []).reverse

/-! ## §3. Putting together. -/

/-- The character composed of two. -/
def compose? (a b : Nat) : Option Nat :=
  if 0x1100 ≤ a && a ≤ 0x1112 && 0x1161 ≤ b && b ≤ 0x1175 then
    some (0xAC00 + ((a - 0x1100) * 21 + (b - 0x1161)) * 28)
  else if 0xAC00 ≤ a && a ≤ 0xD7A3 && (a - 0xAC00) % 28 = 0 && 0x11A8 ≤ b && b ≤ 0x11C2 then
    some (a + (b - 0x11A7))
  else
    match compositions.find? (fun row => row.take 2 == [a, b]) with
    | some (_ :: _ :: c :: _) => some c
    | _ => none

/-- Composes characters with the base before them, unless another mark of the
same or a higher class stands between.  `marks` are those after the base that
stayed, held backwards. -/
def composeFrom (base : Nat) (marks : List Nat) : List Nat → List Nat
  | [] => base :: marks.reverse
  | v :: r =>
      let k := combiningClass v
      let blocked := match marks with
        | [] => false
        | m :: _ => k ≤ combiningClass m
      match if blocked then none else compose? base v with
      | some c => composeFrom c marks r
      | none =>
          if k = 0 then (base :: marks.reverse) ++ composeFrom v [] r
          else composeFrom base (v :: marks) r

/-- The composed normal form. -/
def normalize (cs : List Char) : List Char :=
  if cs.all (·.toNat < 0xC0) then cs
  else
    match orderMarks (cs.flatMap fun c => decomposeChar 8 c.toNat) with
    | [] => []
    | v :: r => (composeFrom v [] r).map Char.ofNat

end FormUpload.Url.Domain
