import FormUpload.Echo.Server
import FormUpload.Proofs.Echo.Fields
import FormUpload.Proofs.Json.Compact

/-!
# What the server says of fields

The envelope around some fields is a regular document (`regular_envelope`), so a client
reads it from its text as it is.  It is not much longer than the body it tells of:
nothing that is read from octets has more characters than there are octets
(`length_parameter?_le`), and every field takes its share of the body
(`length_envelope_le`).
-/

namespace FormUpload.Echo

open FormUpload.Text
open FormUpload.Json (Value compact quoted)
open FormUpload.Multipart (dispositionLine typeLine headerText)

/-! ## §1. Documents. -/

/-- The members of a field in the order of their keys. -/
theorem sorted_field (name fileName contentType size text : Value) :
    Json.sortMembers [("name", name), ("fileName", fileName), ("contentType", contentType),
        ("size", size), ("text", text)]
      = [("contentType", contentType), ("fileName", fileName), ("name", name), ("size", size),
          ("text", text)] := by
  -- one member after the other is put where its key belongs
  have hname : Json.insertMember "name" name [] = [("name", name)] := rfl
  have hfile : Json.insertMember "fileName" fileName [("name", name)]
      = [("fileName", fileName), ("name", name)] :=
    Json.insertMember_first _ _ _ _ _ (by decide)
  have htype : Json.insertMember "contentType" contentType
      [("fileName", fileName), ("name", name)]
      = [("contentType", contentType), ("fileName", fileName), ("name", name)] :=
    Json.insertMember_first _ _ _ _ _ (by decide)
  have hsizeKeys : ∀ k ∈ ["contentType", "fileName", "name"], k < "size" := by decide
  have hsize : Json.insertMember "size" size
      [("contentType", contentType), ("fileName", fileName), ("name", name)]
      = [("contentType", contentType), ("fileName", fileName), ("name", name), ("size", size)] :=
    Json.insertMember_last _ _ _ hsizeKeys
  have htextKeys : ∀ k ∈ ["contentType", "fileName", "name", "size"], k < "text" := by decide
  have htext : Json.insertMember "text" text
      [("contentType", contentType), ("fileName", fileName), ("name", name), ("size", size)]
      = [("contentType", contentType), ("fileName", fileName), ("name", name), ("size", size),
          ("text", text)] :=
    Json.insertMember_last _ _ _ htextKeys
  unfold Json.sortMembers
  simp only [List.foldl_cons, List.foldl_nil]
  rw [hname, hfile, htype, hsize, htext]

theorem document_eq (f : Field) : f.document = .object [
    ("contentType", textOrNull f.contentType), ("fileName", textOrNull f.fileName),
    ("name", textOrNull f.name), ("size", .number (.whole f.content.length)),
    ("text", .string (stringLossy f.content))] := by
  unfold Field.document Value.ofMembers
  rw [sorted_field]

theorem sorted_result (v : Value) : Json.sortMembers [("isSuccess", .bool true), ("result", v)]
    = [("isSuccess", .bool true), ("result", v)] := by
  have hkeys : ["isSuccess", "result"].Pairwise (· < ·) := by decide
  exact Json.sortMembers_of_sorted _ hkeys

theorem sorted_parts (t : String) (v : Value) :
    Json.sortMembers [("contentType", .string t), ("parts", v)]
      = [("contentType", .string t), ("parts", v)] := by
  have hkeys : ["contentType", "parts"].Pairwise (· < ·) := by decide
  exact Json.sortMembers_of_sorted _ hkeys

theorem envelope_eq (t : String) (fs : List Field) : successEnvelope (echoOf t fs) = .object [
    ("isSuccess", .bool true),
    ("result", .object [("contentType", .string t),
      ("parts", .array (fs.map Field.document))])] := by
  unfold successEnvelope echoOf Value.ofMembers
  rw [sorted_result, sorted_parts]

theorem regular_textOrNull (s : Option String) : Json.Regular (textOrNull s) := by
  cases s <;> exact trivial

theorem regular_document (f : Field) (h : f.content.length < 0x10000000000000000) :
    Json.Regular f.document := by
  have hsize := Json.regular_natural f.content.length h
  have hkeys : ["contentType", "fileName", "name", "size", "text"].Pairwise (· < ·) := by decide
  rw [document_eq]
  exact ⟨Json.sortMembers_of_sorted _ hkeys, regular_textOrNull _, regular_textOrNull _,
    regular_textOrNull _, hsize, trivial, trivial⟩

/-- **The envelope around some fields is printed exactly.** -/
theorem regular_envelope (t : String) (fs : List Field)
    (h : ∀ f ∈ fs, f.content.length < 0x10000000000000000) :
    Json.Regular (successEnvelope (echoOf t fs)) := by
  have hitems : Json.RegularItems (fs.map Field.document) := by
    induction fs with
    | nil => trivial
    | cons f fs ih =>
        obtain ⟨hf, hfs⟩ := List.forall_mem_cons.mp h
        exact ⟨regular_document f hf, ih hfs⟩
  rw [envelope_eq]
  exact ⟨sorted_result _, trivial, ⟨sorted_parts t _, trivial, hitems, trivial⟩, trivial⟩

theorem depth_document (f : Field) : f.document.depth = 1 := by
  have htext : ∀ s, (textOrNull s).depth = 0 := by
    intro s
    cases s <;> rfl
  rw [document_eq]
  simp [Value.depth, Value.depthOfMembers, htext]

theorem depth_envelope_le (t : String) (fs : List Field) :
    (successEnvelope (echoOf t fs)).depth ≤ Json.nestingLimit := by
  have hitems : Value.depthOfItems (fs.map Field.document) ≤ 1 := by
    induction fs with
    | nil => exact Nat.zero_le _
    | cons f fs ih =>
        rw [List.map_cons, Value.depthOfItems, depth_document]
        omega
  rw [envelope_eq]
  simp only [Value.depth, Value.depthOfMembers, Json.nestingLimit]
  omega

/-! ## §2. Parameters of disposition lines. -/

theorem length_upToQuote?_le (read s v : Bytes) (h : upToQuote? read s = some v) :
    v.length ≤ read.length + s.length := by
  induction s generalizing read with
  | nil => cases h
  | cons b s ih =>
      rw [upToQuote?] at h
      split at h
      · cases h
        rw [List.length_reverse]
        omega
      · have := ih (b :: read) h
        rw [List.length_cons] at this ⊢
        omega

theorem length_unescapeQuotes_le (s : Bytes) : (unescapeQuotes s).length ≤ s.length := by
  fun_induction unescapeQuotes s with
  | case1 r ih =>
      simp only [List.length_cons]
      omega
  | case2 b r _ ih =>
      simp only [List.length_cons]
      omega
  | case3 => exact Nat.le_refl _

theorem length_percentDecode_le (s : Bytes) : (percentDecode s).length ≤ s.length := by
  fun_induction percentDecode s with
  | case1 => exact Nat.le_refl _
  | case2 a b r h l _ _ ih =>
      simp only [List.length_cons]
      omega
  | case3 a b r _ ih =>
      simp only [List.length_cons] at ih ⊢
      omega
  | case4 b r _ ih =>
      simp only [List.length_cons]
      omega

theorem length_parameterValue?_le (s : Bytes) (t : String) (h : parameterValue? s = some t) :
    t.toList.length ≤ s.length := by
  unfold parameterValue? at h
  split at h
  · next r =>
    obtain ⟨v, hv, h⟩ := Option.bind_eq_some_iff.mp h
    have htext := length_string?_le _ t h
    -- in quotes: cut at the closing one, then without backslashes
    have hunescaped := length_unescapeQuotes_le v
    have hquoted := length_upToQuote?_le [] r v hv
    simp only [List.length_cons, List.length_nil] at hquoted ⊢
    omega
  · have htext := length_string?_le _ t h
    -- bare: cut at the semicolon, trimmed, then decoded
    have hdecoded := length_percentDecode_le
      (((s.takeWhile (· != 0x3B)).dropWhile isAsciiBlank).reverse.dropWhile isAsciiBlank).reverse
    have hbare : (((s.takeWhile (· != 0x3B)).dropWhile isAsciiBlank).reverse.dropWhile
        isAsciiBlank).reverse.length ≤ s.length := by
      rw [List.length_reverse]
      apply (List.length_dropWhile_le _ _).trans
      rw [List.length_reverse]
      exact (List.length_dropWhile_le _ _).trans (List.takeWhile_prefix _).length_le
    omega

theorem length_cutAt_le (pattern s before after : Bytes)
    (h : cutAt pattern s = some (before, after)) : after.length ≤ s.length := by
  rw [cutAt_eq_some pattern s before after h, List.length_append, List.length_append]
  omega

theorem length_parameterFrom?_le (key : Bytes) (fuel : Nat) (s : Bytes) (t : String)
    (h : parameterFrom? key fuel s = some t) : t.toList.length ≤ s.length := by
  induction fuel generalizing s with
  | zero => cases h
  | succ fuel ih =>
      rw [parameterFrom?] at h
      split at h
      · cases h
      · next before after hcut =>
        have hafter := length_cutAt_le _ _ _ _ hcut
        split at h
        · exact (length_parameterValue?_le _ _ h).trans hafter
        · split at h
          · exact (length_parameterValue?_le _ _ h).trans hafter
          · -- the key is the end of another one: the search goes on behind it
            exact (ih _ h).trans hafter

/-- **No parameter has more characters than its line has octets.** -/
theorem length_parameter?_le (key : String) (line : Bytes) (t : String)
    (h : parameter? key line = some t) : t.toList.length ≤ line.length :=
  length_parameterFrom?_le _ _ line t h

/-! ## §3. Lengths of documents. -/

/-- Whether the texts and the content of a field have at most `n` characters or octets
each. -/
structure Field.Within (f : Field) (n : Nat) : Prop where
  name : ∀ t, f.name = some t → t.toList.length ≤ n
  fileName : ∀ t, f.fileName = some t → t.toList.length ≤ n
  contentType : ∀ t, f.contentType = some t → t.toList.length ≤ n
  content : f.content.length ≤ n

theorem length_textOrNull_le (s : Option String) (n : Nat)
    (h : ∀ t, s = some t → t.toList.length ≤ n) : (compact (textOrNull s)).length ≤ 6 * n + 4 := by
  cases s with
  | none =>
      show 4 ≤ _
      omega
  | some t =>
      have := h t rfl
      have := Json.length_quoted_le t
      show (quoted t).length ≤ _
      omega

theorem length_size_le (n : Nat) :
    (compact (.number (.whole (n : Int)))).length ≤ n + 1 := by
  have hdigits : compact (.number (.whole (n : Int))) = decimal n := rfl
  rw [hdigits]
  exact length_decimal_le n (n + 1) (Nat.succ_pos n)
    ((Nat.lt_pow_self (by decide)).trans_le (Nat.pow_le_pow_right (by decide) (Nat.le_succ n)))

theorem length_document_le (f : Field) (n : Nat) (h : f.Within n) :
    (compact f.document).length ≤ 25 * n + 100 := by
  have hname := length_textOrNull_le f.name n h.name
  have hfileName := length_textOrNull_le f.fileName n h.fileName
  have htype := length_textOrNull_le f.contentType n h.contentType
  have hsize := length_size_le f.content.length
  have htext : (compact (.string (stringLossy f.content))).length ≤ 6 * n + 2 := by
    have := Json.length_quoted_le (stringLossy f.content)
    have := length_stringLossy_le f.content
    have := h.content
    show (quoted (stringLossy f.content)).length ≤ _
    omega
  have hcontent := h.content
  have hkeys : (quoted "contentType").length = 13 ∧ (quoted "fileName").length = 10
      ∧ (quoted "name").length = 6 ∧ (quoted "size").length = 6 ∧ (quoted "text").length = 6 := by
    decide
  obtain ⟨hk₁, hk₂, hk₃, hk₄, hk₅⟩ := hkeys
  rw [document_eq]
  simp only [compact, Json.compactMembers, Json.compactMoreMembers, List.length_append,
    List.length_cons, List.length_nil] at *
  omega

/-- **The envelope around some fields is not much longer than they are.** -/
theorem length_envelope_le (t : String) (fs : List Field) (n : Nat) (ht : t.toList.length ≤ n)
    (h : ∀ f ∈ fs, f.Within n) :
    (bytesOf (successEnvelope (echoOf t fs)).text).length
      ≤ 4 * (fs.length * (25 * n + 101) + (6 * n + 100)) := by
  have htype := Json.length_quoted_le t
  have hitems : (Json.compactItems (fs.map Field.document)).length
      ≤ fs.length * (25 * n + 101) := by
    have h := Json.length_compactItems_le (25 * n + 100) (fs.map Field.document) (by
      intro v hv
      obtain ⟨f, hf, rfl⟩ := List.mem_map.mp hv
      exact length_document_le f n (h f hf))
    rw [List.length_map] at h
    exact h
  have hkeys : (quoted "isSuccess").length = 11 ∧ (quoted "result").length = 8
      ∧ (quoted "contentType").length = 13 ∧ (quoted "parts").length = 7 := by
    decide
  obtain ⟨hk₁, hk₂, hk₃, hk₄⟩ := hkeys
  have hoctets := Utf8.length_encode_le (compact (successEnvelope (echoOf t fs)))
  have htext : bytesOf (successEnvelope (echoOf t fs)).text
      = Utf8.encode (compact (successEnvelope (echoOf t fs))) := bytesOf_ofList _
  have hcompact : (compact (successEnvelope (echoOf t fs))).length
      ≤ fs.length * (25 * n + 101) + (6 * n + 100) := by
    rw [envelope_eq]
    simp only [compact, Json.compactMembers, Json.compactMoreMembers, List.length_append,
      List.length_cons, List.length_nil] at *
    omega
  rw [htext]
  omega

/-! ## §4. The fields of a form. -/

theorem length_rdropWhile_encode_le (cs : List Char) :
    ((Utf8.encode cs).rdropWhile Http.isLineBlank).length ≤ (Utf8.encode cs).length :=
  (List.rdropWhile_prefix _ _).length_le

theorem length_le_encode (cs : List Char) : cs.length ≤ (Utf8.encode cs).length :=
  Utf8.length_decode?_le _ cs (Utf8.decode?_encode cs)

theorem length_dispositionText_le (p : Part) :
    (Utf8.encode (dispositionText p)).length ≤ (Utf8.encode (headerText p)).length := by
  have hstart : (Utf8.encode "form-data; ".toList).length
      ≤ (Utf8.encode Multipart.dispositionStart).length := by decide
  have hline : (Utf8.encode (dispositionText p)).length
      ≤ (Utf8.encode (dispositionLine p)).length := by
    unfold dispositionText dispositionLine
    rw [Utf8.encode_append, Utf8.encode_append, List.length_append, List.length_append]
    omega
  unfold headerText
  split
  · exact hline
  · rw [Utf8.encode_append, Utf8.encode_append, List.length_append, List.length_append]
    omega

theorem length_mediaType_le (p : Part) (m : MediaType) (h : p.mediaType? = some m) :
    (Utf8.encode (m.essence ++ m.parameters)).length ≤ (Utf8.encode (headerText p)).length := by
  unfold headerText typeLine
  rw [h]
  simp only [Utf8.encode_append, List.length_append]
  omega

/-- **What is read for a part is no longer than its share of the body.** -/
theorem within_fieldOf (p : Part) (n : Nat)
    (h : (Utf8.encode (headerText p)).length + p.content.length ≤ n) : (fieldOf p).Within n := by
  have hline : ((fieldHeaders p).first? "content-disposition").getD []
      = (Utf8.encode (dispositionText p)).rdropWhile Http.isLineBlank := rfl
  have hparameter : ∀ key t,
      parameter? key (((fieldHeaders p).first? "content-disposition").getD []) = some t →
        t.toList.length ≤ n := by
    intro key t ht
    rw [hline] at ht
    have := length_parameter?_le _ _ t ht
    have := length_rdropWhile_encode_le (dispositionText p)
    have := length_dispositionText_le p
    omega
  refine ⟨hparameter "name=", hparameter "filename=", ?_, ?_⟩
  · intro t ht
    cases hm : p.mediaType? with
    | none =>
        have hnone : (fieldOf p).contentType = none := by
          show ((fieldHeaders p).first? "content-type").bind _ = _
          rw [first?_contentType, hm]
          rfl
        rw [hnone] at ht
        cases ht
    | some m =>
        -- a type that is not visible ASCII is not reported at all
        by_cases hall : ∀ c ∈ m.essence ++ m.parameters, isVisible c = true
        · have htype := contentType_fieldOf p fun m' hm' => by
            rw [hm] at hm'
            cases hm'
            exact hall
          rw [htype, hm, Option.map_some, Option.some.injEq] at ht
          have hshort : (MediaType.unpadded (m.essence ++ m.parameters)).length
              ≤ (m.essence ++ m.parameters).length := (List.rdropWhile_prefix _ _).length_le
          have := length_le_encode (m.essence ++ m.parameters)
          have := length_mediaType_le p m hm
          rw [← ht, String.toList_ofList]
          omega
        · push Not at hall
          obtain ⟨c, hc, hnot⟩ := hall
          rw [contentType_fieldOf_of_invisible p m hm c hc (Bool.not_eq_true _ ▸ hnot)] at ht
          cases ht
  · show p.content.length ≤ n
    omega

end FormUpload.Echo
