import FormUpload.Echo.Field
import FormUpload.Proofs.Http.HeaderLines
import FormUpload.Proofs.Multipart.Layout

/-!
# The fields of a form

The reader of multipart bodies finds one field for each part of a form, in order, with the
octets of its content (`readBody_encode`), as long as no file name holds a control
character and no content the boundary.
-/

namespace FormUpload.Echo

open FormUpload.Text
open FormUpload.Multipart
  (Boundary Accepted parameters dispositionLine typeLine headerText sectionOf dashes delimiter
    closingMark lineEnd hyphens blockFor)

/-! ## §1. Texts without control characters. -/

/-- Whether a text holds no control character. -/
def Clean (cs : List Char) : Prop := ∀ c ∈ cs, isControl c = false

/-- Whether the file name of a part, if it has one, holds no control character. -/
def PlainName : Part → Prop
  | .text _ _ => True
  | .file _ fileName _ _ => Clean fileName.toList

instance (cs : List Char) : Decidable (Clean cs) :=
  decidable_of_iff ((cs.all fun c => !isControl c) = true) (by simp [Clean])

instance : DecidablePred PlainName
  | .text _ _ => isTrue trivial
  | .file _ fileName _ _ => inferInstanceAs (Decidable (Clean fileName.toList))

theorem clean_of_all (cs : List Char) (h : (cs.all fun c => !isControl c) = true) : Clean cs := by
  intro c hc
  have h := List.all_eq_true.mp h c hc
  rw [Bool.not_eq_true'] at h
  exact h

theorem Clean.append {cs ds : List Char} (hcs : Clean cs) (hds : Clean ds) :
    Clean (cs ++ ds) := by
  intro c hc
  rcases List.mem_append.mp hc with hc | hc
  · exact hcs c hc
  · exact hds c hc

theorem isControl_of_quotable (c : Char) (h : MediaType.isQuotable c = true) :
    isControl c = false := by
  unfold MediaType.isQuotable at h
  unfold isControl
  simp only [Bool.and_eq_true, decide_eq_true_eq, bne_iff_ne] at h
  simp only [Bool.or_eq_false_iff, decide_eq_false_iff_not, beq_eq_false_iff_ne]
  omega

/-- Characters that are no controls are written with octets that may stand in a header
value. -/
theorem Clean.isTextOctet {cs : List Char} (hcs : Clean cs) (b : UInt8)
    (hb : b ∈ Utf8.encode cs) : Http.isTextOctet b = true := by
  obtain ⟨c, hc, hbc⟩ := List.mem_flatMap.mp hb
  have hc := hcs c hc
  unfold isControl at hc
  simp only [Bool.or_eq_false_iff, decide_eq_false_iff_not, beq_eq_false_iff_ne] at hc
  have hnumber : 0x20 ≤ b.toNat ∧ b.toNat ≠ 0x7F := by
    by_cases hlt : c.toNat < 0x80
    · rw [Utf8.encodeChar_ascii c hlt, List.mem_singleton] at hbc
      rw [hbc, Utf8.toNat_ofNat _ (by omega)]
      omega
    -- octets beyond ASCII are never controls
    · have := Utf8.le_of_mem_encodeChar c (by omega) b hbc
      omega
  unfold Http.isTextOctet
  simp only [Bool.or_eq_true, Bool.and_eq_true, decide_eq_true_eq, bne_iff_ne]
  refine Or.inr ⟨UInt8.le_iff_toNat_le.mpr hnumber.1, ?_⟩
  rintro rfl
  exact hnumber.2 rfl

theorem clean_nameParameter (name : List Char) : Clean (Multipart.nameParameter name) := by
  have hencoded : Clean (percentEncode Multipart.inNameSet name) := by
    intro c hc
    rcases (mem_percentEncode _ _ _ hc).2 with hc | hc
    · exact clean_of_all percentMarks (by decide) c hc
    · unfold Multipart.inNameSet at hc
      exact (Bool.or_eq_false_iff.mp hc).1
  unfold Multipart.nameParameter
  split
  · exact ((clean_of_all _ (by decide)).append hencoded).append (clean_of_all _ (by decide))
  · exact (clean_of_all _ (by decide)).append hencoded

theorem clean_fileNameParameter (fileName : List Char) (h : Clean fileName) :
    Clean (Multipart.fileNameParameter fileName) := by
  have hescaped : Clean (fileName.flatMap Multipart.fileNameChar) := by
    intro c hc
    obtain ⟨d, hd, hc⟩ := List.mem_flatMap.mp hc
    unfold Multipart.fileNameChar at hc
    split at hc
    · simp only [List.mem_cons, List.not_mem_nil, or_false] at hc
      rcases hc with rfl | rfl
      · rfl
      · exact h _ hd
    · rw [List.mem_singleton] at hc
      rw [hc]
      exact h d hd
  exact ((clean_of_all _ (by decide)).append hescaped).append (clean_of_all _ (by decide))

/-! ## §2. Header lines of parts. -/

/-- The value of the disposition line. -/
def dispositionText (p : Part) : List Char := "form-data; ".toList ++ parameters p

theorem clean_dispositionText (p : Part) (hp : PlainName p) : Clean (dispositionText p) := by
  have hstart : Clean "form-data; ".toList := clean_of_all _ (by decide)
  cases p with
  | text name value => exact hstart.append (clean_nameParameter name.toList)
  | file name fileName contentType content =>
      have hmark : Clean [';', ' '] := clean_of_all _ (by decide)
      exact hstart.append ((clean_nameParameter name.toList).append
        (hmark.append (clean_fileNameParameter fileName.toList hp)))

theorem clean_mediaType (p : Part) (m : MediaType) (h : p.mediaType? = some m) :
    Clean (m.essence ++ m.parameters) := by
  cases p with
  | text name value => cases h
  | file name fileName contentType content =>
      intro c hc
      exact isControl_of_quotable c (MediaType.written_of_parse _ m h c hc).1

/-- A text that begins with no blank is written with octets that begin with none. -/
theorem stops_isLineBlank (c : Char) (cs : List Char) (hc : isControl c = false)
    (hblank : c ≠ ' ') : Stops Http.isLineBlank (Utf8.encode (c :: cs)) := by
  intro b hb
  -- the first octet belongs to the first character
  have hmem : b ∈ Utf8.encode [c] := by
    obtain ⟨d, r, hdr⟩ := List.exists_cons_of_ne_nil (Utf8.encodeChar_ne_nil c)
    rw [Utf8.encode_cons, hdr, List.cons_append, List.head?_cons, Option.some.injEq] at hb
    rw [Utf8.encode_cons, hdr, ← hb]
    exact List.mem_cons_self
  unfold Http.isLineBlank
  rw [Bool.or_eq_false_iff, beq_eq_false_iff_ne, beq_eq_false_iff_ne]
  constructor
  · rintro rfl
    have h := Utf8.mem_encode_ascii [c] 0x20 (by decide) hmem
    exact hblank (List.mem_singleton.mp h).symm
  · rintro rfl
    have h := Utf8.mem_encode_ascii [c] 0x09 (by decide) hmem
    rw [← List.mem_singleton.mp h] at hc
    exact absurd hc (by decide)

/-- What a part says of itself may stand in a header line. -/
theorem isValue_dispositionText (p : Part) (hp : PlainName p) :
    Http.IsValue (Utf8.encode (dispositionText p)) :=
  ⟨(clean_dispositionText p hp).isTextOctet, stops_isLineBlank 'f' _ (by decide) (by decide)⟩

/-- The media type of a part may stand in a header line. -/
theorem isValue_mediaType (p : Part) (m : MediaType) (h : p.mediaType? = some m) :
    Http.IsValue (Utf8.encode (m.essence ++ m.parameters)) := by
  have hclean := clean_mediaType p m h
  refine ⟨hclean.isTextOctet, ?_⟩
  cases p with
  | text name value => cases h
  | file name fileName contentType content =>
      obtain ⟨c, type, subtype, s, htype, -, -, he, -⟩ := MediaType.parseChars?_eq_some _ m h
      have hc := MediaType.plain_lowerChar.token c (htype c List.mem_cons_self)
      have hblank := MediaType.not_blank_of_token _ hc
      rw [he, List.cons_append, List.map_cons, List.cons_append] at hclean ⊢
      exact stops_isLineBlank _ _ (hclean _ List.mem_cons_self) (beq_eq_false_iff_ne.mp hblank)

/-- The headers that are read for a part. -/
def fieldHeaders (p : Part) : Http.Headers :=
  ("content-disposition", (Utf8.encode (dispositionText p)).rdropWhile Http.isLineBlank)
    :: p.mediaType?.toList.map fun m =>
      ("content-type", (Utf8.encode (m.essence ++ m.parameters)).rdropWhile Http.isLineBlank)

/-- **The header lines of a part are read as they were written**, but for blanks at their
ends. -/
theorem headerLines_headerText (p : Part) (hp : PlainName p) :
    Http.headerLines headerRoom (Utf8.encode (headerText p) ++ lineBreak ++ lineBreak)
      = .done (fieldHeaders p) [] := by
  have hdname : Http.IsName (bytesOf "Content-Disposition") :=
    Http.isName_of_all _ (by decide) (by decide)
  have htname : Http.IsName (bytesOf "Content-Type") :=
    Http.isName_of_all _ (by decide) (by decide)
  have hdlower : stringLossy ((bytesOf "Content-Disposition").map lowerByte)
      = "content-disposition" := by decide
  have htlower : stringLossy ((bytesOf "Content-Type").map lowerByte) = "content-type" := by decide
  have hd := isValue_dispositionText p hp
  have hdstart : Utf8.encode Multipart.dispositionStart
      = bytesOf "Content-Disposition" ++ 0x3A :: 0x20 :: Utf8.encode "form-data; ".toList := by
    decide
  have htstart : Utf8.encode Multipart.typeStart = bytesOf "Content-Type" ++ [0x3A, 0x20] := by
    decide
  -- each line is a header line: a name, a colon, a blank and a value
  have hdline : ∀ s, Utf8.encode (dispositionLine p) ++ (lineBreak ++ s)
      = Http.headerLine (bytesOf "Content-Disposition") (Utf8.encode (dispositionText p)) ++ s := by
    intro s
    unfold dispositionLine dispositionText Http.headerLine
    rw [Utf8.encode_append, Utf8.encode_append, hdstart]
    simp [lineBreak]
  have htline : ∀ m s, Utf8.encode (typeLine m) ++ (lineBreak ++ s)
      = Http.headerLine (bytesOf "Content-Type") (Utf8.encode (m.essence ++ m.parameters))
        ++ s := by
    intro m s
    unfold typeLine Http.headerLine
    rw [Utf8.encode_append, htstart]
    simp [lineBreak]
  have hend : ∀ room, Http.headerLines room lineBreak = .done [] [] :=
    fun room => Http.headerLines_end room []
  unfold headerText fieldHeaders
  split
  · next hm =>
    rw [hm, List.append_assoc, hdline, headerRoom, Http.headerLines_cons _ _ _ _ hdname hd,
      hdlower, hend]
    rfl
  · next m hm =>
    have ht := isValue_mediaType p m hm
    have hlineEnd : Utf8.encode lineEnd = lineBreak := rfl
    rw [hm, Utf8.encode_append, Utf8.encode_append, hlineEnd, List.append_assoc,
      List.append_assoc, List.append_assoc, hdline, htline, headerRoom,
      Http.headerLines_cons _ _ _ _ hdname hd, Http.headerLines_cons _ _ _ _ htname ht, hdlower,
      htlower, hend]
    rfl

/-! ## §3. Fields. -/

/-- The field that is read for a part. -/
def fieldOf (p : Part) : Field := .ofHeaders (fieldHeaders p) p.content

theorem readField_sectionOf (b : Boundary) (p : Part) (hp : PlainName p)
    (hfree : ¬ dashes b <:+: p.content) (t : Bytes) :
    readField (dashes b) (sectionOf p ++ (delimiter b ++ t)) = some (fieldOf p, dashes b ++ t) := by
  have hcut := Multipart.cut_section p (p.content ++ (delimiter b ++ t))
  have hcontent := cutAt_of_skips _ _ _ (Multipart.skips_content b p.content t hfree)
  have hbreaks : Utf8.encode (lineEnd ++ lineEnd) = lineBreak ++ lineBreak := rfl
  have hdelimiter : lineBreak ++ dashes b = delimiter b := rfl
  have hsection : sectionOf p ++ (delimiter b ++ t) = Utf8.encode (headerText p)
      ++ (lineBreak ++ lineBreak ++ (p.content ++ (delimiter b ++ t))) := by
    unfold sectionOf
    simp [lineBreak, Multipart.encode_lineEnd]
  rw [hbreaks] at hcut
  unfold readField
  rw [hsection, hcut, hdelimiter]
  simp only [Option.bind_eq_bind, Option.bind_some, hcontent, headerLines_headerText p hp]
  rfl

/-- **Fields are read one after the other**, up to what closes the body. -/
theorem readFields_sections (b : Boundary) (ps : List Part) (hps : ∀ p ∈ ps, PlainName p)
    (hfree : ∀ p ∈ ps, ¬ dashes b <:+: p.content) (fuel : Nat) (hfuel : ps.length < fuel)
    (t : Bytes)
    (ht : ps.flatMap (fun p => delimiter b ++ (Utf8.encode lineEnd ++ sectionOf p))
      ++ (delimiter b ++ closingMark) = delimiter b ++ t) :
    readFields (dashes b) fuel (dashes b ++ t) = some (ps.map fieldOf) := by
  induction ps generalizing fuel t with
  | nil =>
      obtain ⟨fuel, rfl⟩ : ∃ n, fuel = n + 1 := ⟨fuel - 1, by omega⟩
      have ht : closingMark = t := List.append_cancel_left ht
      rw [← ht, readFields, afterStart?_append]
      rfl
  | cons p ps ih =>
      obtain ⟨fuel, rfl⟩ : ∃ n, fuel = n + 1 := ⟨fuel - 1, by omega⟩
      obtain ⟨hp, hps⟩ := List.forall_mem_cons.mp hps
      obtain ⟨hpfree, hfree⟩ := List.forall_mem_cons.mp hfree
      rw [List.length_cons] at hfuel
      -- another delimiter follows, whether it is the last or not
      have hnext : ∃ u, ps.flatMap (fun p => delimiter b ++ (Utf8.encode lineEnd ++ sectionOf p))
          ++ (delimiter b ++ closingMark) = delimiter b ++ u := by
        cases ps with
        | nil => exact ⟨closingMark, rfl⟩
        | cons q ps =>
            rw [List.flatMap_cons, List.append_assoc, List.append_assoc]
            exact ⟨_, rfl⟩
      obtain ⟨u, hu⟩ := hnext
      rw [List.flatMap_cons, List.append_assoc, List.append_assoc, hu, List.append_assoc] at ht
      have ht := List.append_cancel_left ht
      have hread := readField_sectionOf b p hp hpfree u
      have hrest := ih hps hfree fuel (by omega) u hu
      have hbreak : lineBreak ++ (sectionOf p ++ (delimiter b ++ u)) = t := ht
      rw [← hbreak, readFields, afterStart?_append]
      show (afterStart? lineBreak (lineBreak ++ (sectionOf p ++ (delimiter b ++ u)))).bind
        (fun s => (readField (dashes b) s).bind fun field =>
          (readFields (dashes b) fuel field.2).bind fun fields => some (field.1 :: fields)) = _
      rw [afterStart?_append]
      simp only [Option.bind_some, hread, hrest]
      rfl

theorem bytesOf_dashes (b : Boundary) :
    bytesOf ("--" ++ String.ofList b.text) = dashes b := by
  have hhyphens : bytesOf "--" = Utf8.encode hyphens := rfl
  unfold dashes
  rw [bytesOf_append, hhyphens, bytesOf_ofList, Utf8.encode_append]

/-- **The body of a form is read as one field for each part, in order.** -/
theorem readBody_encode (b : Boundary) (ps : List Part) (hne : ps ≠ [])
    (hps : ∀ p ∈ ps, PlainName p) (hfree : ∀ p ∈ ps, ¬ dashes b <:+: p.content) :
    readBody (String.ofList b.text) (Multipart.encode b.text (ps.map blockFor))
      = some (ps.map fieldOf) := by
  -- the layout has a line end in front, which the body itself begins without
  have hlayout := Multipart.encode_eq b ps hne
  obtain ⟨t, ht⟩ : ∃ t, ps.flatMap (fun p => delimiter b ++ (Utf8.encode lineEnd ++ sectionOf p))
      ++ (delimiter b ++ closingMark) = delimiter b ++ t := by
    obtain ⟨p, ps, rfl⟩ := List.exists_cons_of_ne_nil hne
    rw [List.flatMap_cons, List.append_assoc, List.append_assoc]
    exact ⟨_, rfl⟩
  have hbody : Multipart.encode b.text (ps.map blockFor) = dashes b ++ t := by
    rw [ht] at hlayout
    exact List.append_cancel_left (hlayout.trans (List.append_assoc _ _ _))
  have hfuel := (Multipart.length_parts_lt b ps hne).trans (Nat.lt_succ_self _)
  unfold readBody
  simp only [bytesOf_dashes, hbody, cutAt_self, Option.bind_eq_bind, Option.bind_some]
  rw [hbody] at hfuel
  exact readFields_sections b ps hps hfree _ hfuel t ht

/-! ## §4. Content types. -/

/-- Whether a character is a visible one of ASCII, or a space. -/
def isVisible (c : Char) : Bool := 0x20 ≤ c.toNat && c.toNat < 0x7F

/-- Whether the content type that a part names, if it names one, is visible ASCII. -/
def VisibleType : Part → Prop
  | .text _ _ => True
  | .file _ _ none _ => True
  | .file _ _ (some contentType) _ => ∀ c ∈ contentType.toList, isVisible c = true

instance : DecidablePred VisibleType
  | .text _ _ => isTrue trivial
  | .file _ _ none _ => isTrue trivial
  | .file _ _ (some contentType) _ =>
      decidable_of_iff (contentType.toList.all isVisible = true) List.all_eq_true

theorem isVisible_lowerChar (c : Char) (h : isVisible c = true) :
    isVisible (lowerChar c) = true :=
  lowerChar_cases (fun c d => isVisible c = true → isVisible d = true) (by decide)
    (fun _ h => h) c h

theorem visible_iff (c : Char) : isVisible c = true ↔ 0x20 ≤ c.toNat ∧ c.toNat < 0x7F := by
  unfold isVisible
  simp only [Bool.and_eq_true, decide_eq_true_eq]

/-- A media type read from visible ASCII is written in visible ASCII. -/
theorem visible_of_parse (cs : List Char) (m : MediaType) (h : MediaType.parseChars? cs = some m)
    (hcs : ∀ c ∈ cs, isVisible c = true) :
    ∀ c ∈ m.essence ++ m.parameters, isVisible c = true := by
  intro d hd
  obtain ⟨-, c, hc, rfl | rfl⟩ := MediaType.written_of_parse cs m h d hd
  · exact hcs d hc
  · exact isVisible_lowerChar c (hcs c hc)

/-- Blanks at the end of a visible text go away alike as octets. -/
theorem rdropWhile_encode (cs : List Char) (hcs : ∀ c ∈ cs, isVisible c = true) :
    (Utf8.encode cs).rdropWhile Http.isLineBlank = Utf8.encode (MediaType.unpadded cs) := by
  unfold MediaType.unpadded
  induction cs using List.reverseRecOn with
  | nil => rfl
  | append_singleton cs c ih =>
      have hc := (visible_iff c).mp (hcs c (by simp))
      have hcs : ∀ d ∈ cs, isVisible d = true := fun d hd => hcs d (by simp [hd])
      have hoctet : Utf8.encode (cs ++ [c]) = Utf8.encode cs ++ [UInt8.ofNat c.toNat] := by
        rw [Utf8.encode_append, Utf8.encode_cons, Utf8.encodeChar_ascii c (by omega)]
        rfl
      have hn := Utf8.toNat_ofNat c.toNat (by omega)
      rw [hoctet, List.rdropWhile_concat, List.rdropWhile_concat]
      -- the last character is a blank, or the text ends with it
      by_cases hblank : c = ' '
      · rw [hblank, if_pos (by decide), if_pos (by decide), ih hcs]
      · have hnot : Http.isLineBlank (UInt8.ofNat c.toNat) = false := by
          unfold Http.isLineBlank
          rw [Bool.or_eq_false_iff, beq_eq_false_iff_ne, beq_eq_false_iff_ne]
          constructor
          · intro h
            rw [h] at hn
            exact hblank (Char.toNat_inj.mp hn.symm)
          · intro h
            rw [h] at hn
            have : c.toNat = 9 := hn.symm
            omega
        rw [hnot, if_neg Bool.false_ne_true, if_neg (by simp [hblank]), hoctet]

theorem isPlainText_encode (cs : List Char) (hcs : ∀ c ∈ cs, isVisible c = true) :
    isPlainText (Utf8.encode cs) = true := by
  unfold isPlainText
  rw [List.all_eq_true]
  intro b hb
  obtain ⟨c, hc, hbc⟩ := List.mem_flatMap.mp hb
  have hc := (visible_iff c).mp (hcs c hc)
  rw [Utf8.encodeChar_ascii c (by omega), List.mem_singleton] at hbc
  have hn := Utf8.toNat_ofNat c.toNat (by omega)
  rw [← hbc] at hn
  simp only [Bool.or_eq_true, Bool.and_eq_true, decide_eq_true_eq]
  refine Or.inr ⟨?_, ?_⟩
  · rw [UInt8.le_iff_toNat_le, hn]
    exact hc.1
  · rw [UInt8.lt_iff_toNat_lt, hn]
    exact hc.2

theorem first?_contentType (p : Part) :
    (fieldHeaders p).first? "content-type" = p.mediaType?.map fun m =>
      (Utf8.encode (m.essence ++ m.parameters)).rdropWhile Http.isLineBlank := by
  unfold fieldHeaders Http.Headers.first?
  cases p.mediaType? with
  | none => simp
  | some m => simp

theorem exists_parse (p : Part) (m : MediaType) (h : p.mediaType? = some m) :
    ∃ cs, MediaType.parseChars? cs = some m := by
  cases p with
  | text name value => cases h
  | file name fileName contentType content => exact ⟨_, h⟩

/-- **The content type of a field is the media type of its part**, blanks at its end
apart. -/
theorem contentType_fieldOf (p : Part)
    (hp : ∀ m, p.mediaType? = some m → ∀ c ∈ m.essence ++ m.parameters, isVisible c = true) :
    (fieldOf p).contentType
      = p.mediaType?.map fun m =>
          String.ofList (MediaType.unpadded (m.essence ++ m.parameters)) := by
  show ((fieldHeaders p).first? "content-type").bind _ = _
  rw [first?_contentType]
  cases hm : p.mediaType? with
  | none => rfl
  | some m =>
      obtain ⟨cs, hcs⟩ := exists_parse p m hm
      obtain ⟨hparse, hunpadded⟩ := MediaType.parse_unpadded cs m hcs
      have hvisible := hp m hm
      have hshort : ∀ c ∈ MediaType.unpadded (m.essence ++ m.parameters), isVisible c = true :=
        fun c hc => hvisible c ((List.rdropWhile_prefix _ _).subset hc)
      have hread : MediaType.parse? (String.ofList (MediaType.unpadded (m.essence ++ m.parameters)))
          = some ⟨m.essence, MediaType.unpadded m.parameters⟩ := by
        unfold MediaType.parse?
        rw [String.toList_ofList, hparse]
      rw [Option.map_some, Option.bind_some, rdropWhile_encode _ hvisible,
        if_pos (isPlainText_encode _ hshort), string?_encode, Option.bind_some, hread,
        Option.map_some, Option.map_some, hunpadded]
      rfl

/-- **The content type of a field goes without saying** if the media type of its part is
written with other characters. -/
theorem contentType_fieldOf_of_invisible (p : Part) (m : MediaType) (hm : p.mediaType? = some m)
    (c : Char) (hc : c ∈ m.essence ++ m.parameters) (hnot : isVisible c = false) :
    (fieldOf p).contentType = none := by
  obtain ⟨cs, hcs⟩ := exists_parse p m hm
  have hquotable := (MediaType.written_of_parse cs m hcs c hc).1
  -- it is no control, so it lies beyond ASCII
  have hhigh : 0x80 ≤ c.toNat := by
    unfold MediaType.isQuotable at hquotable
    unfold isVisible at hnot
    simp only [Bool.and_eq_true, Bool.and_eq_false_iff, decide_eq_true_eq, decide_eq_false_iff_not,
      bne_iff_ne] at hquotable hnot
    omega
  obtain ⟨b, bs, hb⟩ := List.exists_cons_of_ne_nil (Utf8.encodeChar_ne_nil c)
  have hmem : b ∈ Utf8.encodeChar c := by
    rw [hb]
    exact List.mem_cons_self
  have hle := Utf8.le_of_mem_encodeChar c hhigh b hmem
  have hoctets : b ∈ Utf8.encode (m.essence ++ m.parameters) := List.mem_flatMap.mpr ⟨c, hc, hmem⟩
  -- no octet beyond ASCII goes away with the blanks
  have hstays : Http.isLineBlank b = false := by
    unfold Http.isLineBlank
    rw [Bool.or_eq_false_iff, beq_eq_false_iff_ne, beq_eq_false_iff_ne]
    constructor
    · rintro rfl
      exact absurd hle (by decide)
    · rintro rfl
      exact absurd hle (by decide)
  have hkept := mem_rdropWhile Http.isLineBlank _ b hstays hoctets
  have hplain : isPlainText ((Utf8.encode (m.essence ++ m.parameters)).rdropWhile
      Http.isLineBlank) = false := by
    unfold isPlainText
    rw [List.all_eq_false]
    refine ⟨b, hkept, ?_⟩
    simp only [Bool.or_eq_true, Bool.and_eq_true, decide_eq_true_eq, beq_iff_eq, not_or, not_and,
      UInt8.lt_iff_toNat_lt]
    refine ⟨?_, fun _ => ?_⟩
    · rintro rfl
      exact absurd hle (by decide)
    · show ¬ b.toNat < 0x7F
      omega
  show ((fieldHeaders p).first? "content-type").bind _ = _
  rw [first?_contentType, hm, Option.map_some, Option.bind_some, hplain, if_neg Bool.false_ne_true]

end FormUpload.Echo
