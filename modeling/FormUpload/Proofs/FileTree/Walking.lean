import FormUpload.FileTree
import Mathlib.Data.List.Induction

/-!
# Where paths lead

A walk goes on from directories only, and a component that is no name leads to a directory
it came through.  So what a path reads is named by its last component:

    step_cases          all that one step can do
    passable_walk       below the top of the stack there are directories
    isName_of_walk      the last step to a file is by a name
    fileName?_of_read   what can be read has a file name

The last is all that a part needs of how its file is read (`Named`).
-/

namespace FormUpload

open FormUpload.Text

namespace FileTree

/-! ## §1. Steps. -/

/-- A component that is looked up: neither empty nor made of one dot or two. -/
def IsName (component : Bytes) : Prop :=
  component ≠ [] ∧ component ≠ [dot] ∧ component ≠ [dot, dot]

/-- A walk goes on from directories. -/
def Passable : FileTree → Prop
  | .file _ => False
  | .directory _ => True

/-- A stack of nothing but directories. -/
def AllPassable (stack : List FileTree) : Prop := ∀ t ∈ stack, Passable t

/-- **A step** goes on from a directory.  It stays, or goes back if there is something to go back
to, or enters what the directory has by that name. -/
theorem step_cases (stack next : List FileTree) (component : Bytes)
    (h : step stack component = .ok next) :
    ∃ entries above, stack = .directory entries :: above
      ∧ ((¬ IsName component ∧ (next = stack ∨ (above ≠ [] ∧ next = above)))
        ∨ (IsName component ∧ component.length ≤ componentLimit
          ∧ ∃ t, child? component entries = some t ∧ next = t :: stack)) := by
  match stack, h with
  | [], h => cases h
  | .file _ :: _, h => cases h
  | .directory entries :: above, h =>
      refine ⟨entries, above, rfl, ?_⟩
      rw [step] at h
      split at h
      · next hstays =>
        cases h
        exact Or.inl ⟨fun hname => hstays.elim hname.1 hname.2.1, Or.inl rfl⟩
      · next hstays =>
        obtain ⟨hempty, hdot⟩ := not_or.mp hstays
        split at h
        · next hback =>
          refine Or.inl ⟨fun hname => hname.2.2 hback, ?_⟩
          split at h
          · cases h
            exact Or.inl rfl
          · next habove =>
            cases h
            exact Or.inr ⟨fun hnil => habove (List.isEmpty_iff.mpr hnil), rfl⟩
        · next hback =>
          split at h
          · cases h
          · next hlength =>
            split at h
            · next t ht =>
              cases h
              exact Or.inr ⟨⟨hempty, hdot, hback⟩, Nat.le_of_not_lt hlength, t, ht, rfl⟩
            · cases h

/-- **A step keeps directories below the top**, and on top too unless it enters something. -/
theorem passable_step (stack next : List FileTree) (component : Bytes)
    (hstack : AllPassable stack.tail) (h : step stack component = .ok next) :
    AllPassable next.tail ∧ (¬ IsName component → AllPassable next) := by
  obtain ⟨entries, above, rfl, hcases⟩ := step_cases stack next component h
  have hall : AllPassable (.directory entries :: above) :=
    List.forall_mem_cons.mpr ⟨trivial, hstack⟩
  rcases hcases with ⟨-, rfl | ⟨-, rfl⟩⟩ | ⟨hname, -, t, -, rfl⟩
  · exact ⟨hstack, fun _ => hall⟩
  · exact ⟨fun t ht => hstack t (List.mem_of_mem_tail ht), fun _ => hstack⟩
  · exact ⟨hall, fun hno => absurd hname hno⟩

/-! ## §2. Walks. -/

/-- A walk in two parts. -/
theorem walk_append (stack : List FileTree) (cs ds : List Bytes) :
    walk stack (cs ++ ds) = (walk stack cs).bind fun next => walk next ds := by
  induction cs generalizing stack with
  | nil => rfl
  | cons c cs ih =>
      rw [List.cons_append, walk, walk]
      cases step stack c with
      | error code => rfl
      | ok next => exact ih next

/-- **Below the top of the stack there are directories**, after any walk. -/
theorem passable_walk (stack next : List FileTree) (cs : List Bytes)
    (hstack : AllPassable stack.tail) (h : walk stack cs = .ok next) : AllPassable next.tail := by
  induction cs generalizing stack with
  | nil =>
      cases h
      exact hstack
  | cons c cs ih =>
      rw [walk] at h
      cases hstep : step stack c with
      | error code =>
          rw [hstep] at h
          cases h
      | ok between =>
          rw [hstep] at h
          exact ih between (passable_step stack between c hstack hstep).1 h

/-- **The last step to a file is by a name.** -/
theorem isName_of_walk (stack above : List FileTree) (cs : List Bytes) (c : Bytes)
    (content : Bytes) (hstack : AllPassable stack.tail)
    (h : walk stack (cs ++ [c]) = .ok (.file content :: above)) : IsName c := by
  rw [walk_append] at h
  cases hbefore : walk stack cs with
  | error code =>
      rw [hbefore] at h
      cases h
  | ok before =>
      rw [hbefore] at h
      change walk before [c] = _ at h
      rw [walk] at h
      cases hstep : step before c with
      | error code =>
          rw [hstep] at h
          cases h
      | ok after =>
          rw [hstep] at h
          have hafter : after = .file content :: above := Except.ok.inj h
          by_contra hno
          exact (passable_step before after c (passable_walk stack before cs hstack hbefore)
            hstep).2 hno (.file content) (hafter ▸ List.mem_cons_self)

/-! ## §3. Paths. -/

theorem betweenSlashes_ne_nil (path : Bytes) : betweenSlashes slash path ≠ [] := by
  cases path with
  | nil => exact List.cons_ne_nil _ _
  | cons b path =>
      rw [betweenSlashes]
      split
      · exact List.cons_ne_nil _ _
      · split <;> exact List.cons_ne_nil _ _

/-- A path that ends with a name has it as its file name. -/
theorem fileName?_of_isName (path c : Bytes) (cs : List Bytes)
    (hpath : betweenSlashes slash path = cs ++ [c]) (hc : IsName c) :
    fileName? slash dot path = some c := by
  have hlast : (pathComponents slash dot path).getLast? = some c := by
    unfold pathComponents
    rw [hpath, List.filter_append, List.filter_cons_of_pos (by simp [hc.1, hc.2.1]),
      List.filter_nil, List.getLast?_concat]
  unfold fileName?
  rw [hlast]
  exact if_neg hc.2.2

/-- Every path that can be read has a file name. -/
def Named (read : Bytes → Except FileFault Bytes) : Prop :=
  ∀ path content, read path = .ok content → ∃ name, fileName? slash dot path = some name

end FileTree

namespace FileSystem

open FileTree

variable (s : FileSystem)

/-- What is read is what the path leads to. -/
theorem resolve_of_read (path content : Bytes) (h : s.read path = .ok content) :
    ∃ above, s.resolve path = .ok (.file content :: above) := by
  unfold read at h
  split at h
  · cases h
  · split at h
    · cases h
    · next content' above hresolve =>
      cases h
      exact ⟨above, hresolve⟩
    · cases h

/-- **What can be read has a file name**: the last component of the path. -/
theorem fileName?_of_read (path content : Bytes) (h : s.read path = .ok content) :
    ∃ name cs, betweenSlashes slash path = cs ++ [name]
      ∧ fileName? slash dot path = some name := by
  obtain ⟨above, hresolve⟩ := s.resolve_of_read path content h
  unfold resolve at hresolve
  split at hresolve
  · cases hresolve
  · split at hresolve
    · cases hresolve
    · obtain ⟨cs, c, hpath⟩ : ∃ cs c, betweenSlashes slash path = cs ++ [c] :=
        ⟨_, _, (List.dropLast_concat_getLast (betweenSlashes_ne_nil path)).symm⟩
      have hstart : AllPassable [s.root].tail := List.forall_mem_nil _
      -- the walk may come through the workplace first, but its last step is the path's
      rw [components, hpath, ← List.append_assoc] at hresolve
      exact ⟨c, cs, hpath, fileName?_of_isName path c cs hpath
        (isName_of_walk _ above _ c content hstart hresolve)⟩

/-- **A file system names what it reads**, whether the path is relative or not. -/
theorem named_read : Named s.read := by
  intro path content h
  obtain ⟨name, -, -, hname⟩ := s.fileName?_of_read path content h
  exact ⟨name, hname⟩

/-- The files of a program that works in `/work`, where a jar is in `/tmp`. -/
def workshop : FileSystem :=
  ⟨.directory [(bytesOf "tmp", .directory [(bytesOf "a.jar", .file [0x50, 0x4B])]),
    (bytesOf "work", .directory [])], [bytesOf "work"]⟩

example : workshop.read (bytesOf "/tmp/a.jar") = .ok [0x50, 0x4B] := by rfl

example : workshop.read (bytesOf "../../tmp/a.jar") = .ok [0x50, 0x4B] := by rfl

end FileSystem

namespace FileTree

/-! ## §4. Parts. -/

section Parts

variable {read : Bytes → Except FileFault Bytes} (hread : Named read) (name : String)
  (path : Bytes)

/-- A file that can not be read makes no part. -/
theorem partFrom_of_unreadable (fault : FileFault) (h : read path = .error fault) :
    partFrom read name path = .error (.unreadable path fault) := by
  unfold partFrom
  simp only [h]

/-- A part has been read. -/
theorem read_of_partFrom (p : Part) (h : partFrom read name path = .ok p) :
    ∃ content, read path = .ok content := by
  cases hcontent : read path with
  | ok content => exact ⟨content, rfl⟩
  | error fault =>
      rw [partFrom_of_unreadable name path fault hcontent] at h
      cases h

include hread

/-- **The part of a file that can be read.** -/
theorem partFrom_of_read (content : Bytes) (h : read path = .ok content) :
    ∃ fileName, fileName? slash dot path = some fileName
      ∧ partFrom read name path = .ok (.file name (stringLossy fileName)
        (some (MediaType.guess (stringLossy fileName))) content) := by
  obtain ⟨fileName, hname⟩ := hread path content h
  refine ⟨fileName, hname, ?_⟩
  unfold partFrom
  simp only [h, hname]

/-- **No part is made only where nothing can be read.** -/
theorem partFrom_eq_error_iff (f : Failure) : partFrom read name path = .error f
    ↔ ∃ fault, read path = .error fault ∧ f = .unreadable path fault := by
  cases hcontent : read path with
  | ok content =>
      obtain ⟨fileName, -, hpart⟩ := partFrom_of_read hread name path content hcontent
      simp [hpart]
  | error fault =>
      simp [partFrom_of_unreadable name path fault hcontent, eq_comm]

end Parts

end FileTree

end FormUpload
