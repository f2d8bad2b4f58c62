import FormUpload.Url.Domain.Composition
import FormUpload.Url.Domain.MappingTable
import FormUpload.Url.Domain.DirectionTable

/-!
# Labels of domain names

Which characters a label may hold, and in which order: the compatibility mapping
of characters, the conditions on joiners, and the rule for labels in names that
are partly written from right to left.
-/

namespace FormUpload.Url.Domain

open FormUpload.Text

/-! ## §1. The mapping. -/

def mappingRuns : List (List Nat) := rowsOf runRows
def mappingTexts : List (List Nat) := rowsOf textRows
def ignoredRanges : List (List Nat) := rowsOf ignoredRows
def refusedRanges : List (List Nat) := rowsOf refusedRows

/-- The replacement by a row of `mappingRuns`. -/
def runTarget? (v : Nat) : List Nat → Option Nat
  | [first, count, step, target, targetStep] =>
      let i := (v - first) / step
      if first ≤ v && i < count && (v - first) % step = 0 then some (target + i * targetStep)
      else none
  | _ => none

/-- The replacement of a character; `none` if no name may hold it. -/
def mapChar (c : Char) : Option (List Char) :=
  let v := c.toNat
  if v < 0x80 then some [lowerChar c]
  else if inRows refusedRanges v then none
  else if inRows ignoredRanges v then some []
  else match mappingRuns.findSome? (runTarget? v) with
    | some w => some [Char.ofNat w]
    | none => match mappingTexts.find? (fun row => row.head? == some v) with
      | some row => some (row.tail.map Char.ofNat)
      | none => some [c]

/-- The replacement of a text. -/
def mapText (cs : List Char) : Option (List Char) := (cs.mapM mapChar).map List.flatten

/-- Whether the mapping keeps the character. -/
def isKept (c : Char) : Bool := mapChar c == some [c]

/-! ## §2. Joiners. -/

/-- How a character joins its neighbours. -/
inductive Joining where
  | dual | left | right | causing | transparent | none
deriving DecidableEq

def joiningRanges : List (List Nat) := rowsOf joiningRows

/-- How the character joins its neighbours. -/
def joiningOf (v : Nat) : Joining :=
  match classIn joiningRanges v with
  | some 1 => .dual
  | some 2 => .left
  | some 3 => .right
  | some 4 => .causing
  | some 5 => .transparent
  | _ => .none

/-- The combining class of the signs that join consonants. -/
def viramaClass : Nat := 9

/-- Whether the joiner at the head of `after` may stand after `before` (held
backwards): after a virama, or, for the non-joiner, between characters that would
join. -/
def joinerAllowed (nonJoiner : Bool) (before after : List Char) : Bool :=
  match before with
  | [] => false
  | p :: _ =>
      if combiningClass p.toNat = viramaClass then true
      else if !nonJoiner then false
      else
        let skip := List.dropWhile (fun c : Char => joiningOf c.toNat == .transparent)
        match skip before, skip after with
        | l :: _, r :: _ =>
            (joiningOf l.toNat == .left || joiningOf l.toNat == .dual)
              && (joiningOf r.toNat == .right || joiningOf r.toNat == .dual)
        | _, _ => false

/-- Whether every joiner of the label is allowed where it stands. -/
def joinersAllowed : (before : List Char) → List Char → Bool
  | _, [] => true
  | before, c :: r =>
      (if c.toNat = 0x200C then joinerAllowed true before r
        else if c.toNat = 0x200D then joinerAllowed false before r
        else true)
      && joinersAllowed (c :: before) r

/-! ## §3. Writing directions. -/

/-- The writing direction of a character. -/
inductive Direction where
  | leftToRight | rightToLeft | arabicLetter | arabicNumber | europeanNumber
  | separator | commonSeparator | terminator | neutral | boundary | mark
deriving DecidableEq

def directionRanges : List (List Nat) := rowsOf directionRows

/-- The writing direction of a character. -/
def directionOf (v : Nat) : Direction :=
  match classIn directionRanges v with
  | some 1 => .rightToLeft
  | some 2 => .arabicLetter
  | some 3 => .arabicNumber
  | some 4 => .europeanNumber
  | some 5 => .separator
  | some 6 => .commonSeparator
  | some 7 => .terminator
  | some 8 => .neutral
  | some 9 => .boundary
  | some 10 => .mark
  | _ => .leftToRight

/-- Whether the character makes its name one that is partly written from right
to left. -/
def turnsDirection (c : Char) : Bool :=
  c.toNat ≥ 0x590 && [Direction.rightToLeft, .arabicLetter, .arabicNumber].contains
    (directionOf c.toNat)

/-- Whether a label keeps its direction throughout: it begins with a letter, holds
only characters of its direction and weak ones, and ends in a letter or number. -/
def keepsDirection (cs : List Char) : Bool :=
  let ds := cs.map fun c => directionOf c.toNat
  let body := (ds.reverse.dropWhile (· == .mark))
  let weak : List Direction :=
    [.europeanNumber, .separator, .commonSeparator, .terminator, .neutral, .boundary, .mark]
  match ds.head?, body.head? with
  | none, _ => true
  | some first, last? =>
      if first = .rightToLeft ∨ first = .arabicLetter then
        ds.all (fun d => weak.contains d
          || [Direction.rightToLeft, .arabicLetter, .arabicNumber].contains d)
        && (match last? with
            | some d => [Direction.rightToLeft, .arabicLetter, .arabicNumber,
                .europeanNumber].contains d
            | none => false)
        && !(ds.contains .arabicNumber && ds.contains .europeanNumber)
      else if first = .leftToRight then
        ds.all (fun d => weak.contains d || d == .leftToRight)
        && (match last? with
            | some d => d == .leftToRight || d == .europeanNumber
            | none => false)
      else false

end FormUpload.Url.Domain
