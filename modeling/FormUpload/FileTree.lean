import FormUpload.Failure
import FormUpload.Form
import FormUpload.MediaType

/-!
# Files

A tree of directories and files, and reading a file by a path.  A path that begins with a
slash is walked from the root, any other from the directory that the program works in
(`FileSystem`).  It is walked component by component, keeping the directories passed
through on a stack; a double dot goes back one, and at the root it stays there.

`FileTree.read` reads a tree by relative paths alone: nothing is known of what is around it.

`FileTree.part` makes a part of a form from a file of a tree.  `FileTree.partFrom` does so
however files are read.
-/

namespace FormUpload

open FormUpload.Text

/-- A file, or a directory with its entries. -/
inductive FileTree where
  | file (content : Bytes)
  | directory (entries : List (Bytes × FileTree))
deriving Inhabited

namespace FileTree

/-! ## §1. Paths. -/

/-- The octet between components. -/
def slash : UInt8 := 0x2F

/-- The octet that makes the components with a meaning of their own. -/
def dot : UInt8 := 0x2E

/-- The longest component. -/
def componentLimit : Nat := 255

/-- No path is as long as this. -/
def pathLimit : Nat := 4096

/-- The entry of a directory with the given name. -/
def child? (name : Bytes) : List (Bytes × FileTree) → Option FileTree
  | [] => none
  | (n, t) :: r => if n = name then some t else child? name r

/-- One component further.  The stack holds where the walk is and above that the
directories it came through, the root last.  An empty component is a single dot. -/
def step (stack : List FileTree) (component : Bytes) : Except Int (List FileTree) :=
  match stack with
  | .directory entries :: above =>
      if component = [] ∨ component = [dot] then .ok stack
      else if component = [dot, dot] then .ok (if above.isEmpty then stack else above)
      else if componentLimit < component.length then .error nameTooLong
      else match child? component entries with
        | some t => .ok (t :: stack)
        | none => .error missing
  | _ => .error notDirectory

/-- Walks components from a stack. -/
def walk : List FileTree → List Bytes → Except Int (List FileTree)
  | stack, [] => .ok stack
  | stack, c :: r => do walk (← step stack c) r

end FileTree

/-! ## §2. What a program sees. -/

/-- The files that a program sees, and the names that lead from their root to the directory
it works in. -/
structure FileSystem where
  root : FileTree
  workplace : List Bytes

namespace FileSystem

open FileTree

variable (s : FileSystem)

/-- The components from the root on that a path stands for. -/
def components (path : Bytes) : List Bytes :=
  (if path.head? = some slash then [] else s.workplace) ++ betweenSlashes slash path

/-- Where a path leads. -/
def resolve (path : Bytes) : Except Int (List FileTree) :=
  if path = [] then .error missing
  else if pathLimit ≤ path.length then .error nameTooLong
  else walk [s.root] (s.components path)

/-- The content of the file that a path leads to. -/
def read (path : Bytes) : Except FileFault Bytes :=
  if path.contains 0 then .error .nulInPath
  else match s.resolve path with
    | .error code => .error (.system code)
    | .ok (.file content :: _) => .ok content
    | .ok _ => .error (.system isDirectory)

end FileSystem

namespace FileTree

/-- A name that no path can spell, since it is a NUL octet. -/
def unspelled : Bytes := [0]

/-- A directory with nothing but the tree, under that name. -/
def around (t : FileTree) : FileTree := .directory [(unspelled, t)]

/-- A file system of which nothing is known but the tree that the program works in. -/
def alone (t : FileTree) : FileSystem := ⟨t.around, [unspelled]⟩

/-- The content of the file that a path leads to in the tree. -/
def read (t : FileTree) : (path : Bytes) → Except FileFault Bytes := t.alone.read

/-! ## §3. Parts from files. -/

/-- The part with the content of a file, which `read` finds by the path.  Its content
type is the one that the file name stands for. -/
def partFrom (read : Bytes → Except FileFault Bytes) (name : String) (path : Bytes) :
    Except Failure Part :=
  match read path with
  | .error fault => .error (.unreadable path fault)
  | .ok content =>
      match fileName? slash dot path with
      | none => .error (.custom ("`" ++ stringLossy path ++ "` has no file name"))
      | some fileName =>
          let fileName := stringLossy fileName
          .ok (.file name fileName (some (MediaType.guess fileName)) content)

/-- The part with the content of a file in a tree. -/
def part (root : FileTree) : (name : String) → (path : Bytes) → Except Failure Part :=
  partFrom root.read

/-! ## §4. Building trees. -/

/-- The tree without files. -/
def empty : FileTree := .directory []

/-- Puts an entry into a list of entries, in place of one with that name. -/
def setEntry (name : Bytes) (t : FileTree) : List (Bytes × FileTree) → List (Bytes × FileTree)
  | [] => [(name, t)]
  | (n, u) :: r => if n = name then (n, t) :: r else (n, u) :: setEntry name t r

/-- The tree with `leaf` at the given place; directories on the way are made
where they are missing. -/
def insert (leaf : FileTree) : List Bytes → FileTree → FileTree
  | [], _ => leaf
  | c :: r, .directory entries =>
      .directory (setEntry c (insert leaf r ((child? c entries).getD empty)) entries)
  | _, t => t

/-- The tree with a directory at the given path. -/
def addDirectory (t : FileTree) (path : Bytes) : FileTree :=
  let place := pathComponents slash dot path
  match t.alone.resolve path with
  | .ok _ => t
  | .error _ => insert empty place t

/-- The tree with a file at the given path. -/
def addFile (t : FileTree) (path content : Bytes) : FileTree :=
  insert (.file content) (pathComponents slash dot path) t

end FileTree

end FormUpload
