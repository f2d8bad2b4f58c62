import FormUpload.Proofs.Text.Cutting
import FormUpload.Text.Blank

/-!
# What trimming leaves

`Trimmed cs core` says what `trimBlank` leaves of a text without saying how: the text is blanks,
the core and blanks again, and the core neither begins nor ends with one.  There is exactly one
core (`trimBlank_eq_iff`), and more blanks around a text do not change it (`Trimmed.pad`).
-/

namespace FormUpload.Text

/-- Nothing but blanks. -/
def AllBlank (cs : List Char) : Prop := ∀ c ∈ cs, isBlank c = true

instance (cs : List Char) : Decidable (AllBlank cs) :=
  decidable_of_iff (cs.all isBlank = true) List.all_eq_true

/-- **What is left of a text** when the blanks around it are gone. -/
structure Trimmed (cs core : List Char) : Prop where
  around : ∃ before after, AllBlank before ∧ AllBlank after ∧ cs = before ++ (core ++ after)
  first : Stops isBlank core
  last : Stops isBlank core.reverse

/-- The end of a text goes the same way as its beginning. -/
theorem trimBlank_eq (cs : List Char) :
    trimBlank cs = (cs.dropWhile isBlank).rdropWhile isBlank := rfl

/-- Trimming leaves what is left. -/
theorem trimmed_trimBlank (cs : List Char) : Trimmed cs (trimBlank cs) := by
  have hstops := stops_dropWhile isBlank cs
  have hbefore : cs = cs.takeWhile isBlank ++ cs.dropWhile isBlank :=
    List.takeWhile_append_dropWhile.symm
  rw [trimBlank_eq]
  generalize cs.dropWhile isBlank = rest at hstops hbefore
  have hafter : rest = rest.rdropWhile isBlank ++ rest.rtakeWhile isBlank := by
    rw [List.rdropWhile, List.rtakeWhile, ← List.reverse_append, List.takeWhile_append_dropWhile,
      List.reverse_reverse]
  refine ⟨⟨cs.takeWhile isBlank, rest.rtakeWhile isBlank, ?_, ?_, by rw [← hafter, ← hbefore]⟩,
    ?_, ?_⟩
  · intro c hc
    exact List.mem_takeWhile_imp hc
  · intro c hc
    exact List.mem_rtakeWhile_imp hc
  · intro c hc
    apply hstops
    rw [hafter, List.head?_append, hc, Option.some_or]
  · rw [List.rdropWhile, List.reverse_reverse]
    exact stops_dropWhile isBlank rest.reverse

/-- Blanks alone leave nothing. -/
theorem trimBlank_of_allBlank (cs : List Char) (h : AllBlank cs) : trimBlank cs = [] := by
  rw [trimBlank_eq, List.dropWhile_eq_nil_iff.mpr h, List.rdropWhile_nil]

/-- **What is left is what trimming leaves**, and nothing else. -/
theorem trimBlank_eq_iff (cs core : List Char) : trimBlank cs = core ↔ Trimmed cs core := by
  constructor
  · intro h
    exact h ▸ trimmed_trimBlank cs
  · intro h
    obtain ⟨⟨before, after, hbefore, hafter, rfl⟩, hfirst, hlast⟩ := h
    cases core with
    | nil =>
        apply trimBlank_of_allBlank
        intro c hc
        rcases List.mem_append.mp hc with hc | hc
        · exact hbefore c hc
        · exact hafter c hc
    | cons c core =>
        have hstops : Stops isBlank (c :: core ++ after) :=
          (stops_cons _ _ _).mpr ((stops_cons _ _ _).mp hfirst)
        have hreverse : ∀ d ∈ after.reverse, isBlank d = true :=
          fun d hd => hafter d (List.mem_reverse.mp hd)
        rw [trimBlank_eq, dropWhile_run isBlank before _ hbefore hstops, List.rdropWhile,
          List.reverse_append, dropWhile_run isBlank _ _ hreverse hlast, List.reverse_reverse]

/-- Nothing is left of a text that is blank, and of no other. -/
theorem trimBlank_eq_nil_iff (cs : List Char) :
    trimBlank cs = [] ↔ ∀ c ∈ cs, isBlank c = true := by
  constructor
  · intro h
    obtain ⟨⟨before, after, hbefore, hafter, rfl⟩, -, -⟩ := (trimBlank_eq_iff cs []).mp h
    intro c hc
    rcases List.mem_append.mp hc with hc | hc
    · exact hbefore c hc
    · exact hafter c hc
  · exact trimBlank_of_allBlank cs

/-- **More blanks around a text leave the same.** -/
theorem Trimmed.pad {cs core : List Char} (h : Trimmed cs core) {before after : List Char}
    (hbefore : AllBlank before) (hafter : AllBlank after) :
    Trimmed (before ++ cs ++ after) core := by
  obtain ⟨⟨before', after', hbefore', hafter', rfl⟩, hfirst, hlast⟩ := h
  refine ⟨⟨before ++ before', after' ++ after, ?_, ?_, by simp⟩, hfirst, hlast⟩
  · intro c hc
    exact (List.mem_append.mp hc).elim (hbefore c) (hbefore' c)
  · intro c hc
    exact (List.mem_append.mp hc).elim (hafter' c) (hafter c)

end FormUpload.Text
