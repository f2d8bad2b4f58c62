/-!
# Similar words

How similar two words are: the mean of three ratios, the share of letters that match in
either word, and the share of matches that stand in the same order.  Letters match
if they are equal and not far apart.  Everything is computed exactly, as a fraction.
-/

namespace FormUpload.CommandLine

/-- Letters of a word that have found no match yet, with their places. -/
abbrev Free := List (Nat × Char)

/-- Takes the first free letter equal to `c` between two places. -/
def takeMatch (c : Char) (low high : Nat) : Free → Option (Nat × Free)
  | [] => none
  | (j, d) :: r =>
      if low ≤ j ∧ j < high ∧ c = d then some (j, r)
      else (takeMatch c low high r).map fun (k, rest) => (k, (j, d) :: rest)

/-- The places of the letters that match, in the first word's order. -/
def matchPlaces (range : Nat) : (place : Nat) → List Char → Free → List (Char × Nat)
  | _, [], _ => []
  | i, c :: r, free =>
      match takeMatch c (i - range) (i + range + 1) free with
      | some (j, rest) => (c, j) :: matchPlaces range (i + 1) r rest
      | none => matchPlaces range (i + 1) r free

/-- A similarity as a fraction, from 0 to 1. -/
structure Similarity where
  numerator : Nat
  denominator : Nat
deriving DecidableEq, Repr

/-- Whether one similarity is less than another. -/
def Similarity.lt (x y : Similarity) : Bool :=
  x.numerator * y.denominator < y.numerator * x.denominator

/-- How similar two words are. -/
def similarity (a b : List Char) : Similarity :=
  let n := a.length
  let k := b.length
  if n = 0 ∧ k = 0 then ⟨1, 1⟩
  else
    let found := matchPlaces (max n k / 2 - 1) 0 a ((List.range k).zip b)
    let m := found.length
    if m = 0 then ⟨0, 1⟩
    else
      let inOther := ((List.range k).zip b).filter fun (j, _) => found.any (·.2 == j)
      let swaps := ((found.zip inOther).filter fun (x, y) => x.1 != y.2).length / 2
      ⟨m * m * k + m * m * n + (m - swaps) * n * k, 3 * n * k * m⟩

/-- Words less similar than this are not suggested. -/
def similarityLimit : Similarity := ⟨7, 10⟩

/-- Puts a word at its place, the most similar last. -/
def insertSimilar (x : Similarity × String) :
    List (Similarity × String) → List (Similarity × String)
  | [] => [x]
  | y :: r => if x.1.lt y.1 then x :: y :: r else y :: insertSimilar x r

/-- The candidates that a word may stand for, the most similar last. -/
def similarTo (word : String) (candidates : List String) : List String :=
  let scored := candidates.map fun c => (similarity word.toList c.toList, c)
  ((scored.filter fun x => similarityLimit.lt x.1).foldl (fun acc x => insertSimilar x acc)
    []).map (·.2)

end FormUpload.CommandLine
