import FormUpload.Proofs.MediaType.Guessing
import FormUpload.Proofs.Multipart.Layout

/-!
# Content types that are none

Only a part that names its content type itself can be wrong about it: what a file name stands
for is always a media type.  A form is refused for the first part that is wrong, whatever
stands around it:

    accepted_iff          a part is accepted unless it is mistyped
    blocks_of_first       the first mistyped part refuses the form
    blocks_eq_error_iff   nothing else does
-/

namespace FormUpload

open FormUpload.Text

namespace Part

/-- The content type that a part names itself. -/
def ownType? : Part → Option String
  | .text _ _ => none
  | .file _ _ contentType _ => contentType

/-- The part names a content type that is none. -/
def Mistyped (p : Part) : Prop :=
  ∃ text, p.ownType? = some text ∧ MediaType.parse? text = none

end Part

namespace Multipart

/-! ## §1. One part. -/

/-- **A part is accepted unless it is mistyped.** -/
theorem accepted_iff (p : Part) : Accepted p ↔ ¬ p.Mistyped := by
  unfold Accepted Part.Mistyped
  cases p with
  | text name value => simp [Part.mediaType?, Part.isFile, Part.ownType?]
  | file name fileName contentType content =>
      cases contentType with
      | none =>
          -- what the file name stands for is a media type
          have hguess := MediaType.parse?_guess fileName
          simp [Part.mediaType?, Part.isFile, Part.ownType?, typeText, hguess]
      | some text =>
          simp [Part.mediaType?, Part.isFile, Part.ownType?, typeText, Option.isSome_iff_ne_none]

/-- A file of the type that its name stands for is accepted. -/
theorem accepted_guessed (name fileName : String) (content : Bytes) :
    Accepted (.file name fileName (some (MediaType.guess fileName)) content) := by
  rw [accepted_iff]
  rintro ⟨type, htype, hwrong⟩
  cases htype
  rw [MediaType.parse?_guess] at hwrong
  cases hwrong

/-- A mistyped part is refused, and the fault names its field and its content type. -/
theorem blockOf_of_mistyped (p : Part) (text : String) (hown : p.ownType? = some text)
    (hwrong : MediaType.parse? text = none) : blockOf p = .error (.contentType p.name text) := by
  cases p with
  | text name value => cases hown
  | file name fileName contentType content =>
      have htype : contentType = some text := hown
      have htext : typeText fileName contentType = text := by
        rw [htype]
        rfl
      unfold blockOf
      simp only [htext, hwrong]
      rfl

/-! ## §2. Forms. -/

/-- **The first mistyped part refuses the form**, whatever comes after it. -/
theorem blocks_of_first (before after : List Part) (p : Part) (text : String)
    (hbefore : ∀ q ∈ before, ¬ q.Mistyped) (hown : p.ownType? = some text)
    (hwrong : MediaType.parse? text = none) :
    blocks (before ++ p :: after) = .error (.contentType p.name text) := by
  induction before with
  | nil =>
      rw [List.nil_append, blocks, blockOf_of_mistyped p text hown hwrong]
  | cons q before ih =>
      obtain ⟨hq, hrest⟩ := List.forall_mem_cons.mp hbefore
      have hblock : blockOf q = .ok (blockFor q) :=
        (blockOf_eq_ok q _).mpr ⟨(accepted_iff q).mpr hq, rfl⟩
      rw [List.cons_append, blocks, hblock, ih hrest]

/-- A form with a mistyped part has a first one. -/
theorem exists_first_mistyped (ps : List Part) (h : ∃ p ∈ ps, p.Mistyped) :
    ∃ before p after, ps = before ++ p :: after ∧ (∀ q ∈ before, ¬ q.Mistyped) ∧ p.Mistyped := by
  induction ps with
  | nil =>
      obtain ⟨p, hp, -⟩ := h
      cases hp
  | cons q ps ih =>
      by_cases hq : q.Mistyped
      · exact ⟨[], q, ps, rfl, List.forall_mem_nil _, hq⟩
      · have hrest : ∃ p ∈ ps, p.Mistyped := by
          obtain ⟨p, hp, hwrong⟩ := h
          rcases List.mem_cons.mp hp with rfl | hp
          · exact absurd hwrong hq
          · exact ⟨p, hp, hwrong⟩
        obtain ⟨before, p, after, rfl, hbefore, hp⟩ := ih hrest
        exact ⟨q :: before, p, after, rfl, List.forall_mem_cons.mpr ⟨hq, hbefore⟩, hp⟩

/-- **A form is refused only for a mistyped part**: the first one. -/
theorem blocks_eq_error_iff (ps : List Part) (f : Failure) :
    blocks ps = .error f
      ↔ ∃ before p after text, ps = before ++ p :: after ∧ (∀ q ∈ before, ¬ q.Mistyped)
        ∧ p.ownType? = some text ∧ MediaType.parse? text = none
        ∧ f = .contentType p.name text := by
  constructor
  · intro h
    have hwrong : ∃ p ∈ ps, p.Mistyped := by
      by_contra hno
      have hall : ∀ p ∈ ps, Accepted p := by
        intro p hp
        exact (accepted_iff p).mpr fun hp' => hno ⟨p, hp, hp'⟩
      rw [(blocks_eq_ok ps _).mpr ⟨hall, rfl⟩] at h
      cases h
    obtain ⟨before, p, after, rfl, hbefore, text, hown, htext⟩ := exists_first_mistyped ps hwrong
    rw [blocks_of_first before after p text hbefore hown htext] at h
    exact ⟨before, p, after, text, rfl, hbefore, hown, htext, (Except.error.inj h).symm⟩
  · rintro ⟨before, p, after, text, rfl, hbefore, hown, htext, rfl⟩
    exact blocks_of_first before after p text hbefore hown htext

end Multipart

end FormUpload
