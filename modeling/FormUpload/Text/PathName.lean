/-!
# Names in paths

A path is a list of elements in which `slash` separates components.  Empty
components and those of one `dot` do not count.  The last component names the file,
unless it is a double dot; an extension is what follows the last dot of the file
name, unless only that dot begins the name.

The functions take octets and characters alike.
-/

namespace FormUpload.Text

variable {α : Type} [DecidableEq α]

/-- The elements between slashes. -/
def betweenSlashes (slash : α) : List α → List (List α)
  | [] => [[]]
  | c :: r =>
      if c = slash then [] :: betweenSlashes slash r
      else match betweenSlashes slash r with
        | [] => [[c]]
        | piece :: pieces => (c :: piece) :: pieces

/-- The components that count. -/
def pathComponents (slash dot : α) (path : List α) : List (List α) :=
  (betweenSlashes slash path).filter fun c => c ≠ [] ∧ c ≠ [dot]

/-- The file name of a path. -/
def fileName? (slash dot : α) (path : List α) : Option (List α) :=
  match (pathComponents slash dot path).getLast? with
  | some c => if c = [dot, dot] then none else some c
  | none => none

/-- The extension of a path's file name. -/
def extension? (slash dot : α) (path : List α) : Option (List α) :=
  match fileName? slash dot path with
  | none => none
  | some name =>
      let back := name.reverse.takeWhile (· ≠ dot)
      if back.length + 1 < name.length then some back.reverse else none

end FormUpload.Text
