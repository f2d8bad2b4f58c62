/-!
# Cutting lists at a separator

`splitWhere p s` are the pieces between the separators, always at least one;
`joinWith sep` puts pieces together again.  `cutAt` and `occurs` look for a whole
pattern.
-/

namespace FormUpload.Text

/-- The pieces between the elements that satisfy `p`. -/
def splitWhere {α : Type} (p : α → Bool) : List α → List (List α)
  | [] => [[]]
  | c :: r =>
      if p c then [] :: splitWhere p r
      else match splitWhere p r with
        | [] => [[c]]
        | piece :: pieces => (c :: piece) :: pieces

/-- The pieces with the separator between any two. -/
def joinWith {α : Type} (sep : List α) : List (List α) → List α
  | [] => []
  | [p] => p
  | p :: q :: r => p ++ sep ++ joinWith sep (q :: r)

/-- What stands before and after the first element that satisfies `p`. -/
def cutWhere {α : Type} (p : α → Bool) : List α → Option (List α × List α)
  | [] => none
  | c :: r => if p c then some ([], r) else (cutWhere p r).map fun (a, b) => (c :: a, b)

/-- What stands after a beginning. -/
def afterStart? {α : Type} [DecidableEq α] : List α → List α → Option (List α)
  | [], s => some s
  | _ :: _, [] => none
  | p :: ps, c :: s => if p = c then afterStart? ps s else none

/-- What stands before and after the first occurrence of a pattern. -/
def cutAt {α : Type} [DecidableEq α] (pattern : List α) : List α → Option (List α × List α)
  | [] => if pattern.isEmpty then some ([], []) else none
  | c :: s =>
      match afterStart? pattern (c :: s) with
      | some rest => some ([], rest)
      | none => (cutAt pattern s).map fun (a, b) => (c :: a, b)

/-- Whether a pattern occurs. -/
def occurs {α : Type} [DecidableEq α] (pattern s : List α) : Bool := (cutAt pattern s).isSome

end FormUpload.Text
