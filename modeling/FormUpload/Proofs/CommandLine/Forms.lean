import FormUpload.CommandLine.Run
import FormUpload.Proofs.FileTree.Walking
import Mathlib.Data.List.Forall2

/-!
# The form of a command line

The files of a command line are read in order, each into its part (`fileParts_eq_ok_iff`).
The first one that makes no part is what the reading fails with (`fileParts_eq_error_iff`).
However files are read, that is the first one that can not be read, as long as all others have
file names.
-/

namespace FormUpload.CommandLine

open FormUpload.Text

/-! ## §1. Parts of files. -/

variable (read : FileReader)

/-- **Files are read one by one**, each into its part. -/
theorem fileParts_eq_ok_iff (files : List (String × String)) (ps : List Part) :
    fileParts read files = .ok ps
      ↔ List.Forall₂ (fun file p => FileTree.partFrom read file.1 (bytesOf file.2) = .ok p)
          files ps := by
  induction files generalizing ps with
  | nil =>
      rw [fileParts, List.forall₂_nil_left_iff, Except.ok.injEq, eq_comm]
  | cons file files ih =>
      obtain ⟨name, path⟩ := file
      rw [fileParts, List.forall₂_cons_left_iff]
      cases hp : FileTree.partFrom read name (bytesOf path) with
      | error f => simp
      | ok p =>
          cases hps : fileParts read files with
          | error f => simp [← ih, hps]
          | ok rest =>
              constructor
              · intro h
                cases h
                exact ⟨p, rest, rfl, (ih rest).mp hps, rfl⟩
              · rintro ⟨q, qs, hq, hqs, rfl⟩
                cases hq
                rw [(ih qs).mpr hqs] at hps
                cases hps
                rfl

/-- **The first file that makes no part is the one that is told of.** -/
theorem fileParts_eq_error_iff (files : List (String × String)) (f : Failure) :
    fileParts read files = .error f
      ↔ ∃ before name path after, files = before ++ (name, path) :: after
        ∧ (∀ file ∈ before, ∃ p, FileTree.partFrom read file.1 (bytesOf file.2) = .ok p)
        ∧ FileTree.partFrom read name (bytesOf path) = .error f := by
  induction files with
  | nil => simp [fileParts]
  | cons file files ih =>
      obtain ⟨name, path⟩ := file
      rw [fileParts]
      constructor
      · intro h
        cases hp : FileTree.partFrom read name (bytesOf path) with
        | error f' =>
            rw [hp] at h
            cases h
            exact ⟨[], name, path, files, rfl, by simp, hp⟩
        | ok p =>
            rw [hp] at h
            cases hps : fileParts read files with
            | ok ps =>
                rw [hps] at h
                cases h
            | error f' =>
                rw [hps] at h
                cases h
                obtain ⟨before, name', path', after, rfl, hbefore, hf⟩ := ih.mp hps
                exact ⟨(name, path) :: before, name', path', after, rfl,
                  List.forall_mem_cons.mpr ⟨⟨p, hp⟩, hbefore⟩, hf⟩
      · rintro ⟨before, name', path', after, hfiles, hbefore, hf⟩
        cases before with
        | nil =>
            cases hfiles
            rw [hf]
        | cons first before =>
            cases hfiles
            obtain ⟨⟨p, hp⟩, hbefore⟩ := List.forall_mem_cons.mp hbefore
            rw [hp, ih.mpr ⟨before, name', path', after, rfl, hbefore, hf⟩]

/-! ## §2. The form. -/

/-- Every file can be read. -/
def Readable (files : List (String × String)) : Prop :=
  ∀ file ∈ files, ∃ content, read (bytesOf file.2) = .ok content

variable {read} (hnamed : FileTree.Named read) (a : UploadArguments)

include hnamed

/-- A form is put together if every file can be read. -/
theorem form_of_readable (h : Readable read a.files) : ∃ f, form read a = .ok f := by
  unfold form
  cases hparts : fileParts read a.files with
  | ok ps => exact ⟨_, rfl⟩
  | error f =>
      obtain ⟨before, name, path, after, hfiles, -, hpart⟩ :=
        (fileParts_eq_error_iff _ _ _).mp hparts
      obtain ⟨fault, hfault, -⟩ := (FileTree.partFrom_eq_error_iff hnamed name _ f).mp hpart
      obtain ⟨content, hcontent⟩ := h (name, path) (hfiles ▸ by simp)
      rw [hfault] at hcontent
      cases hcontent

/-- **The first file that can not be read** comes before everything else. -/
theorem form_of_unreadable (h : ¬ Readable read a.files) :
    ∃ before name path after fault, a.files = before ++ (name, path) :: after
      ∧ Readable read before ∧ read (bytesOf path) = .error fault
      ∧ form read a = .error (.unreadable (bytesOf path) fault) := by
  cases hparts : fileParts read a.files with
  | ok ps =>
      -- every file has a part, so every file was read
      have hread := ((fileParts_eq_ok_iff _ _ _).mp hparts).imp fun file p hp =>
        And.intro (FileTree.read_of_partFrom file.1 (bytesOf file.2) p hp) hp
      exact absurd ((List.forall₂_and_left _ _).mp hread).1 h
  | error f =>
      obtain ⟨before, name, path, after, hfiles, hbefore, hpart⟩ :=
        (fileParts_eq_error_iff _ _ _).mp hparts
      obtain ⟨fault, hfault, rfl⟩ := (FileTree.partFrom_eq_error_iff hnamed name _ f).mp hpart
      refine ⟨before, name, path, after, fault, hfiles, fun file hfile => ?_, hfault, ?_⟩
      · obtain ⟨p, hp⟩ := hbefore file hfile
        exact FileTree.read_of_partFrom file.1 (bytesOf file.2) p hp
      · unfold form
        rw [hparts]

end FormUpload.CommandLine
