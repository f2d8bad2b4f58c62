import FormUpload.Http.Exchange
import FormUpload.Proofs.Http.HeadText
import FormUpload.Proofs.Text.Ascii
import FormUpload.Response

/-!
# The headers of a response

The headers of a response are the header lines of its head, put together by name.  That
changes the order of the lines, but not of those that have one name (`filter_grouped`), so
nothing that asks for a name can tell.  `Response.Keeps` says what a response tells of the
lines that were sent, and `keeps_of_headers` that it tells this.
-/

namespace FormUpload

open FormUpload.Text

namespace Http

/-! ## §1. Names. -/

/-- Whether a header line has a name, in whatever letter case. -/
def HeaderLine.hasName (l : HeaderLine) (name : String) : Bool :=
  sameIgnoringCase (stringLossy l.name) name

/-- The value of a header line without the blanks around it, as text. -/
def HeaderLine.text (l : HeaderLine) : String := stringLossy (trimLine l.value)

/-- Names are ASCII. -/
theorem lt_of_isNameOctet (b : UInt8) (h : isNameOctet b = true) : b.toNat < 0x80 := by
  have hall : ∀ n, n < 0x100 → isNameOctet (UInt8.ofNat n) = true → n < 0x80 := by decide +kernel
  have hb := b.toNat_lt
  exact hall b.toNat hb (by rw [UInt8.ofNat_toNat]; exact h)

/-- **The name of a header line is kept in lower case.** -/
theorem HeaderLine.kept_name (l : HeaderLine) : l.kept.1 = lower (stringLossy l.name) :=
  stringLossy_lowerByte l.name fun b hb => lt_of_isNameOctet b (l.isName.2 b hb)

/-- A header line is kept under a name if it has it. -/
theorem HeaderLine.kept_beq (l : HeaderLine) (name : String) :
    (l.kept.1 == lower name) = l.hasName name := by
  rw [kept_name]
  rfl

/-! ## §2. Headers that are put together. -/

/-- **Putting headers together leaves those of one name in order**, and loses none. -/
theorem filter_groupedFrom (fuel : Nat) (hs : Headers) (name : String) :
    (groupedFrom fuel hs).filter (·.1 == name) = hs.filter (·.1 == name) := by
  -- the first header takes those of its name along, and the rest holds none of these
  induction fuel generalizing hs with
  | zero => rfl
  | succ fuel ih =>
      cases hs with
      | nil => rfl
      | cons h r =>
          rw [groupedFrom, List.cons_append, List.filter_cons, List.filter_cons,
            List.filter_append, ih, List.filter_filter, List.filter_filter]
          by_cases hname : h.1 = name
          · subst hname
            simp
          · have hnone : r.filter (fun l => l.1 == name && l.1 == h.1) = [] := by
              rw [List.filter_eq_nil_iff]
              intro l _ hl
              rw [Bool.and_eq_true, beq_iff_eq, beq_iff_eq] at hl
              exact hname (hl.2.symm.trans hl.1)
            have hall : r.filter (fun l => l.1 == name && l.1 != h.1)
                = r.filter (·.1 == name) := by
              apply List.filter_congr
              intro l _
              by_cases hl : l.1 = name
              · simp [hl, Ne.symm hname]
              · simp [hl]
            rw [hnone, hall, beq_eq_false_iff_ne.mpr hname]
            rfl

theorem filter_grouped (hs : Headers) (name : String) :
    hs.grouped.filter (·.1 == name) = hs.filter (·.1 == name) :=
  filter_groupedFrom hs.length hs name

/-- Headers that are put together are those that came. -/
theorem mem_grouped_iff (hs : Headers) (h : String × Bytes) : h ∈ hs.grouped ↔ h ∈ hs := by
  have hmem := congrArg (h ∈ ·) (filter_grouped hs h.1)
  simpa [List.mem_filter] using hmem

/-- What is kept under a name comes from the lines that have it. -/
theorem filter_kept (lines : List HeaderLine) (name : String) :
    (lines.map HeaderLine.kept).filter (·.1 == lower name)
      = (lines.filter (·.hasName name)).map HeaderLine.kept := by
  rw [List.filter_map]
  congr 1
  apply List.filter_congr
  intro l _
  exact l.kept_beq name

/-- **A body that is not packed is taken as it is**, and so are the headers. -/
theorem finalAnswer?_of_unpacked (head : Head) (body : Bytes)
    (h : Headers.all head.headers "content-encoding" = []) :
    finalAnswer? head body = some ⟨UInt16.ofNat head.status,
      (Headers.grouped head.headers).map fun h => (h.1, stringLossy h.2), body⟩ := by
  have hpacked : isPacked (Headers.grouped head.headers) = false := by
    unfold Headers.all at h
    unfold isPacked Headers.all
    rw [filter_grouped, h]
    rfl
  unfold finalAnswer?
  simp only [hpacked, Bool.false_eq_true, if_false]

end Http

/-! ## §3. What a response tells. -/

open Http (HeaderLine)

/-- **A response keeps the header lines of its head**: under every name the values of the lines
that have it, in the order in which they were sent, and nothing else.  Asked for a name, it
gives the value of the first of them. -/
structure Response.Keeps (r : Response) (lines : List HeaderLine) : Prop where
  values : ∀ name, (r.headers.filter (·.1 == lower name)).map (·.2)
    = (lines.filter (·.hasName name)).map (·.text)
  sent : ∀ h ∈ r.headers, ∃ l ∈ lines, h = (lower (stringLossy l.name), l.text)
  first : ∀ name, r.header? name = (lines.find? (·.hasName name)).map (·.text)
  missing : ∀ name, r.header? name = none ↔ ∀ l ∈ lines, l.hasName name = false

variable {r : Response} {lines : List HeaderLine}

/-- What is kept under a name. -/
theorem filter_headers
    (h : r.headers = (Http.Headers.grouped (lines.map HeaderLine.kept)).map
      fun h => (h.1, stringLossy h.2)) (name : String) :
    r.headers.filter (·.1 == lower name)
      = (lines.filter (·.hasName name)).map fun l => (lower (stringLossy l.name), l.text) := by
  rw [h, List.filter_map]
  show ((Http.Headers.grouped (lines.map HeaderLine.kept)).filter (·.1 == lower name)).map _ = _
  rw [Http.filter_grouped, Http.filter_kept, List.map_map]
  apply List.map_congr_left
  intro l _
  show (l.kept.1, l.text) = _
  rw [l.kept_name]

/-- **Headers that are put together from lines keep them.** -/
theorem keeps_of_headers
    (h : r.headers = (Http.Headers.grouped (lines.map HeaderLine.kept)).map
      fun h => (h.1, stringLossy h.2)) : r.Keeps lines := by
  have hsent : ∀ k ∈ r.headers, ∃ l ∈ lines, k = (lower (stringLossy l.name), l.text) := by
    intro k hk
    rw [h, List.mem_map] at hk
    obtain ⟨g, hg, rfl⟩ := hk
    rw [Http.mem_grouped_iff, List.mem_map] at hg
    obtain ⟨l, hl, rfl⟩ := hg
    exact ⟨l, hl, by rw [l.kept_name]; rfl⟩
  -- the names that are kept are in lower case, so it is the asked name that is put so
  have hfirst : ∀ name, r.header? name = (lines.find? (·.hasName name)).map (·.text) := by
    intro name
    have hfind : r.headers.filter (fun k => sameIgnoringCase k.1 name)
        = r.headers.filter (·.1 == lower name) := by
      apply List.filter_congr
      intro k hk
      obtain ⟨l, -, rfl⟩ := hsent k hk
      show (lower (lower (stringLossy l.name)) == lower name) = _
      rw [lower_lower]
    unfold Response.header?
    rw [← List.head?_filter, hfind, filter_headers h, List.head?_map, Option.map_map,
      List.head?_filter]
    rfl
  refine ⟨fun name => ?_, hsent, hfirst, fun name => ?_⟩
  · rw [filter_headers h, List.map_map]
    rfl
  · rw [hfirst, Option.map_eq_none_iff, List.find?_eq_none]
    simp only [Bool.not_eq_true]

end FormUpload
