import FormUpload.Lifecycle
import FormUpload.Proofs.Text.Trimming

/-!
# Endpoints that are refused

A text is no endpoint if it is blank, or if it is no URL without the blanks around it
(`readEndpoint_eq_error`).
-/

namespace FormUpload

open FormUpload.Text

/-- Why a text is no endpoint. -/
inductive Refused (endpoint : String) : Failure → Prop where
  | blank (h : ∀ c ∈ endpoint.toList, isBlank c = true) : Refused endpoint .emptyEndpoint
  | noUrl (h : ∃ c ∈ endpoint.toList, isBlank c = false) (fault : Url.Fault)
      (hfault : Url.parseChars (trimBlank endpoint.toList) = .error fault) :
      Refused endpoint (.invalidEndpoint endpoint fault)

/-- **An endpoint is read unless it is refused.** -/
theorem readEndpoint_eq_error (endpoint : String) (f : Failure) :
    readEndpoint endpoint = .error f ↔ Refused endpoint f := by
  have hblank := trimBlank_eq_nil_iff endpoint.toList
  constructor
  · intro h
    unfold readEndpoint at h
    split at h
    · next htrim =>
      cases h
      exact .blank (hblank.mp htrim)
    · next trimmed htrim =>
      split at h
      · cases h
      · next fault hfault =>
        cases h
        refine .noUrl ?_ fault hfault
        by_contra hall
        refine htrim (hblank.mpr fun c hc => ?_)
        by_contra hno
        exact hall ⟨c, hc, Bool.eq_false_iff.mpr hno⟩
  · rintro (hall | ⟨⟨c, hc, hno⟩, fault, hfault⟩)
    · unfold readEndpoint
      rw [hblank.mpr hall]
    · unfold readEndpoint
      cases htrim : trimBlank endpoint.toList with
      | nil =>
          rw [hblank.mp htrim c hc] at hno
          cases hno
      | cons d r =>
          rw [htrim] at hfault
          simp only [hfault]

end FormUpload
