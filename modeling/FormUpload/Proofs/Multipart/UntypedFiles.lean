import FormUpload.Proofs.FileTree.Places
import FormUpload.Proofs.Multipart.ContentTypes

/-!
# Files whose type nobody names

A file can be attached without saying what it is in three ways (`Untyped`): with no content
type, with the one that its name stands for, or by reading it from where it is stored.  The type
is then guessed in three different places: when the form is put together, before that by
whoever attaches the file, or when the file is read.  It is the same guess, so the three ways
write the same octets, and none of them can be refused (`untyped_files_agree`):

    Untyped.eq_file        all that the three ways can make
    blockOf_untyped        their block is that of the guess
    leadsToFile_ownName    a file is found under its own name
-/

namespace FormUpload.Multipart

open FormUpload.Text
open FormUpload.FileTree (Nameable slash dot pathLimit componentLimit)

/-! ## §1. Three ways to attach a file. -/

/-- The octets that a part takes in a body. -/
def partOctets (boundary : Boundary) (p : Part) : Except Failure Bytes :=
  (blockOf p).map (encodeBlock boundary.text)

/-- **A part that is a file whose type nobody names**, with the given name, file name and
content. -/
inductive Untyped (name fileName : String) (content : Bytes) (p : Part) : Prop where
  /-- It was added to a form without a content type. -/
  | added (form : Form) (h : (form.addFile name fileName content).get? form.size = some p)
  /-- It was added to a form with the content type that the file name stands for. -/
  | guessed (form : Form)
      (h : (form.addTypedFile name fileName (MediaType.guess fileName) content).get? form.size
        = some p)
  /-- It was read by a path that ends in that name, however files are read. -/
  | read (reading : Bytes → Except FileFault Bytes) (path octets : Bytes)
      (hcontent : reading path = .ok content) (hlast : fileName? slash dot path = some octets)
      (hname : stringLossy octets = fileName)
      (hpart : FileTree.partFrom reading name path = .ok p)

section Parts

variable {name fileName : String} {content : Bytes} {p : Part}

/-- The part of a file that can be read. -/
theorem partFrom_of_read {reading : Bytes → Except FileFault Bytes} {path octets : Bytes}
    (hcontent : reading path = .ok content) (hlast : fileName? slash dot path = some octets) :
    FileTree.partFrom reading name path = .ok (.file name (stringLossy octets)
      (some (MediaType.guess (stringLossy octets))) content) := by
  unfold FileTree.partFrom
  simp only [hcontent, hlast]

/-- The part that is put at the end of a form. -/
theorem get?_push (form : Form) (q : Part) : (form.push q).get? form.size = some q := by
  unfold Form.push Form.get? Form.size
  simp

/-- **All that the three ways can make**: the content type is missing, or it is the guess. -/
theorem Untyped.eq_file (h : Untyped name fileName content p) :
    ∃ contentType, p = .file name fileName contentType content
      ∧ typeText fileName contentType = MediaType.guess fileName := by
  cases h with
  | added form h =>
      have hp := (get?_push form _).symm.trans h
      exact ⟨none, (Option.some.inj hp).symm, rfl⟩
  | guessed form h =>
      have hp := (get?_push form _).symm.trans h
      exact ⟨some (MediaType.guess fileName), (Option.some.inj hp).symm, rfl⟩
  | read reading path octets hcontent hlast hname hpart =>
      rw [partFrom_of_read hcontent hlast, hname] at hpart
      exact ⟨some (MediaType.guess fileName), (Except.ok.inj hpart).symm, rfl⟩

/-- **Whichever way it was attached, its block is that of the guess.** -/
theorem blockOf_untyped (h : Untyped name fileName content p) :
    blockOf p = .ok (blockFor (.file name fileName none content)) := by
  obtain ⟨contentType, rfl, htype⟩ := h.eq_file
  -- the content type shows in the block only through what is sent as the type
  have htext : typeText fileName none = MediaType.guess fileName := rfl
  have hsame : blockOf (.file name fileName contentType content)
      = blockOf (.file name fileName none content) := by
    unfold blockOf
    simp only [htype, htext]
  rw [hsame]
  apply (blockOf_eq_ok _ _).mpr
  refine ⟨(accepted_iff _).mpr ?_, rfl⟩
  intro hmistyped
  obtain ⟨text, hown, -⟩ := hmistyped
  cases hown

end Parts

/-! ## §2. Files under their own names. -/

/-- Octets without a slash are one component. -/
theorem betweenSlashes_of_not_mem (path : Bytes) (h : slash ∉ path) :
    betweenSlashes slash path = [path] := by
  induction path with
  | nil => rfl
  | cons b path ih =>
      have hb : b ≠ slash := fun hb => h (hb ▸ List.mem_cons_self)
      have hpath : slash ∉ path := fun hpath => h (List.mem_cons_of_mem b hpath)
      rw [betweenSlashes, if_neg hb, ih hpath]

/-- A text that a file can have as its name. -/
def Storable (fileName : String) : Prop :=
  Nameable (bytesOf fileName) ∧ slash ∉ bytesOf fileName

instance : DecidablePred Storable := fun fileName =>
  inferInstanceAs (Decidable (Nameable (bytesOf fileName) ∧ slash ∉ bytesOf fileName))

/-- The name of a file is a path that can be read. -/
theorem Storable.path {fileName : String} (h : Storable fileName) :
    (bytesOf fileName).head? ≠ some slash ∧ (bytesOf fileName).length < pathLimit := by
  obtain ⟨⟨-, hlength, -⟩, hslash⟩ := h
  constructor
  · intro hhead
    exact hslash (List.mem_of_mem_head? hhead)
  · have hlimit : componentLimit < pathLimit := by decide
    omega

/-- **A file is found under its own name**, in the directory that it is in. -/
theorem leadsToFile_ownName {fileName : String} {content : Bytes}
    {entries : List (Bytes × FileTree)} (h : Storable fileName)
    (hentry : FileTree.child? (bytesOf fileName) entries = some (.file content)) :
    (FileTree.directory entries).LeadsToFile (bytesOf fileName) [bytesOf fileName] content := by
  have hat : (FileTree.directory entries).at? [bytesOf fileName] = some (.file content) := by
    show FileTree.child? (bytesOf fileName) entries = some (.file content)
    exact hentry
  refine ⟨?_, hat⟩
  rw [betweenSlashes_of_not_mem _ h.2]
  refine .enter h.1 ?_ (.done _)
  rw [hat]
  rfl

/-! ## §3. Agreement. -/

/-- **The three ways to attach a file without a type agree, and cannot fail.**  Whatever the
file is called and whatever it holds, all parts that attach it write the same octets.  Reading
it by any path that ends in its name makes such a part, and under its own name a file is read
in the directory that it is in.  A form all of whose files are attached so is never refused. -/
theorem untyped_files_agree (boundary : Boundary) (name fileName : String) (content : Bytes) :
    (∃ octets, ∀ p, Untyped name fileName content p → partOctets boundary p = .ok octets)
      ∧ (∀ (reading : Bytes → Except FileFault Bytes) (path : Bytes),
        reading path = .ok content → fileName? slash dot path = some (bytesOf fileName) →
        ∃ p, FileTree.partFrom reading name path = .ok p ∧ Untyped name fileName content p)
      ∧ (Storable fileName → ∀ entries : List (Bytes × FileTree),
        FileTree.child? (bytesOf fileName) entries = some (.file content) →
        ∃ p, (FileTree.directory entries).part name (bytesOf fileName) = .ok p
          ∧ Untyped name fileName content p)
      ∧ ∀ form : Form, (∀ p ∈ form.parts, p.isFile = true → ∃ n f c, Untyped n f c p) →
        ∃ bs, blocks form.parts = .ok bs := by
  have hread : ∀ (reading : Bytes → Except FileFault Bytes) (path : Bytes),
      reading path = .ok content → fileName? slash dot path = some (bytesOf fileName) →
      ∃ p, FileTree.partFrom reading name path = .ok p ∧ Untyped name fileName content p := by
    intro reading path hcontent hlast
    have hpart : FileTree.partFrom reading name path = .ok (.file name
        (stringLossy (bytesOf fileName)) _ content) := partFrom_of_read hcontent hlast
    exact ⟨_, hpart, .read reading path _ hcontent hlast (stringLossy_bytesOf fileName) hpart⟩
  refine ⟨?_, hread, ?_, ?_⟩
  · refine ⟨encodeBlock boundary.text (blockFor (.file name fileName none content)), ?_⟩
    intro p hp
    unfold partOctets
    rw [blockOf_untyped hp]
    rfl
  · intro hstorable entries hentry
    obtain ⟨hrelative, hshort⟩ := hstorable.path
    have hcontent := (FileTree.read_eq_ok_iff hrelative hshort).mpr
      ⟨_, leadsToFile_ownName hstorable hentry⟩
    have hlast := FileTree.fileName?_of_isName (bytesOf fileName) (bytesOf fileName) []
      (betweenSlashes_of_not_mem _ hstorable.2) hstorable.1.1
    exact hread (FileTree.directory entries).read (bytesOf fileName) hcontent hlast
  · intro form hform
    refine ⟨form.parts.map blockFor, (blocks_eq_ok form.parts _).mpr ⟨?_, rfl⟩⟩
    intro p hp
    cases hfile : p.isFile with
    | false =>
        -- a text names no type that could be wrong
        cases p with
        | text name value => rfl
        | file name fileName contentType content => cases hfile
    | true =>
        obtain ⟨n, f, c, huntyped⟩ := hform p hp hfile
        exact ((blockOf_eq_ok p _).mp (blockOf_untyped huntyped)).1

/-- A file with a capital extension and letters beyond ASCII in its name. -/
def reportName : String := "Übersicht.v2.JSON"

/-- A directory with that file. -/
def reportEntries : List (Bytes × FileTree) :=
  [(bytesOf "a", .directory []), (bytesOf reportName, .file [0x7B, 0xFF])]

/-- A file read from its directory, one read by an absolute path, and the same file added
without a type and with the guess: the octets are the same four times, and a form of the four
parts and a text is accepted. -/
theorem untyped_reports_agree :
    ∃ octets found read,
      (FileTree.directory reportEntries).part "f" (bytesOf reportName) = .ok found
      ∧ FileTree.partFrom (fun _ => .ok [0x7B, 0xFF]) "f" (bytesOf ("/tmp//" ++ reportName ++ "/."))
        = .ok read
      ∧ (∀ p ∈ [found, read, .file "f" reportName none [0x7B, 0xFF],
          .file "f" reportName (some (MediaType.guess reportName)) [0x7B, 0xFF]],
        partOctets ⟨1, 2, 3, 4⟩ p = .ok octets)
      ∧ ∃ bs, blocks [found, .text "t" "", read, .file "f" reportName none [0x7B, 0xFF],
          .file "f" reportName (some (MediaType.guess reportName)) [0x7B, 0xFF]] = .ok bs := by
  obtain ⟨⟨octets, hoctets⟩, hread, hown, hform⟩ :=
    untyped_files_agree ⟨1, 2, 3, 4⟩ "f" reportName [0x7B, 0xFF]
  obtain ⟨found, hfound, huntypedFound⟩ := hown (by decide) reportEntries rfl
  obtain ⟨read, hreadPart, huntypedRead⟩ :=
    hread (fun _ => .ok [0x7B, 0xFF]) (bytesOf ("/tmp//" ++ reportName ++ "/.")) rfl
      (by decide +kernel)
  have hall : ∀ p ∈ [found, read, .file "f" reportName none [0x7B, 0xFF],
      .file "f" reportName (some (MediaType.guess reportName)) [0x7B, 0xFF]],
      Untyped "f" reportName [0x7B, 0xFF] p := by
    intro p hp
    simp only [List.mem_cons, List.not_mem_nil, or_false] at hp
    rcases hp with rfl | rfl | rfl | rfl
    · exact huntypedFound
    · exact huntypedRead
    · exact .added .empty rfl
    · exact .guessed .empty rfl
  refine ⟨octets, found, read, hfound, hreadPart, fun p hp => hoctets p (hall p hp), ?_⟩
  apply hform ⟨_⟩
  intro p hp hfile
  simp only [List.mem_cons, List.not_mem_nil, or_false] at hp
  refine ⟨"f", reportName, [0x7B, 0xFF], hall p ?_⟩
  rcases hp with rfl | rfl | rfl | rfl | rfl
  · simp
  · cases hfile
  · simp
  · simp
  · simp

end FormUpload.Multipart
