import FormUpload.Multipart
import FormUpload.Proofs.MediaType.Reading
import FormUpload.Proofs.Text.Percent

/-!
# How a multipart body is laid out

With a line end put before it, a body is made of sections, each behind a delimiter, and
what closes it:

    lineEnd ++ body = delimiter ++ section₁ ++ … ++ delimiter ++ sectionₙ
      ++ delimiter ++ "--" ++ lineEnd
    section = lineEnd ++ header lines ++ lineEnd ++ lineEnd ++ content

The names, file names and content types of a form hold no line end when they are
written, whatever they are (`skips_dispositionLine`, `cr_notMem_typeLine`).  So the header
lines of a section end at its first empty line (`cut_section`), and no delimiter is in a
section if its content has none (`skips_section`).
-/

namespace FormUpload

open FormUpload.Text

/-- The media type that a part is sent with.  A text has none. -/
def Part.mediaType? : Part → Option MediaType
  | .text _ _ => none
  | .file _ fileName contentType _ => MediaType.parse? (Multipart.typeText fileName contentType)

end FormUpload

namespace FormUpload.Multipart

open FormUpload.Text

/-! ## §1. Boundaries. -/

/-- The characters of boundaries. -/
def boundaryMarks : List Char := "-0123456789abcdef".toList

theorem hexDigit_mem (n : Nat) (h : n < 16) : hexDigit n ∈ boundaryMarks := by
  interval_cases n <;> decide

theorem mem_hexPlaces (places n : Nat) (c : Char) (h : c ∈ hexPlaces places n) :
    c ∈ boundaryMarks := by
  induction places generalizing n with
  | zero => cases h
  | succ places ih =>
      rw [hexPlaces, List.mem_append, List.mem_singleton] at h
      rcases h with h | rfl
      · exact ih _ h
      · exact hexDigit_mem _ (Nat.mod_lt _ (by decide))

theorem mem_boundary (b : Boundary) (c : Char) (h : c ∈ b.text) : c ∈ boundaryMarks := by
  have hmarks : ∀ n : UInt64, ∀ d ∈ hexPlaces 16 n.toNat, d ∈ boundaryMarks :=
    fun n d hd => mem_hexPlaces 16 n.toNat d hd
  have htext : b.text = hexPlaces 16 b.first.toNat ++ ['-'] ++ (hexPlaces 16 b.second.toNat
      ++ ['-'] ++ (hexPlaces 16 b.third.toNat ++ ['-'] ++ hexPlaces 16 b.fourth.toNat)) := rfl
  rw [htext] at h
  simp only [List.mem_append, List.mem_singleton] at h
  rcases h with (h | rfl) | (h | rfl) | (h | rfl) | h
  · exact hmarks _ c h
  · decide
  · exact hmarks _ c h
  · decide
  · exact hmarks _ c h
  · decide
  · exact hmarks _ c h

theorem length_hexPlaces (places n : Nat) : (hexPlaces places n).length = places := by
  induction places generalizing n with
  | zero => rfl
  | succ places ih =>
      rw [hexPlaces, List.length_append, ih, List.length_singleton]

/-- A boundary has 67 characters. -/
theorem length_boundary (b : Boundary) : b.text.length = 67 := by
  show (hexPlaces 16 b.first.toNat ++ ['-'] ++ (hexPlaces 16 b.second.toNat
    ++ ['-'] ++ (hexPlaces 16 b.third.toNat ++ ['-'] ++ hexPlaces 16 b.fourth.toNat))).length = 67
  simp only [List.length_append, length_hexPlaces, List.length_singleton]

/-- Two hyphens and a boundary. -/
def dashes (b : Boundary) : Bytes := Utf8.encode (hyphens ++ b.text)

/-- A boundary at the beginning of a line. -/
def delimiter (b : Boundary) : Bytes := Utf8.encode lineEnd ++ dashes b

theorem cr_notMem_dashes (b : Boundary) : 0x0D ∉ dashes b := by
  intro h
  have hc := Utf8.mem_encode_ascii _ _ (by decide) h
  rw [List.mem_append] at hc
  rcases hc with hc | hc
  · revert hc
    decide
  · have := mem_boundary b _ hc
    revert this
    decide

/-! ## §2. Header lines. -/

/-- The name of a part, and its file name if it has one. -/
def parameters : Part → List Char
  | .text name _ => nameParameter name.toList
  | .file name fileName _ _ =>
      nameParameter name.toList ++ ([';', ' '] ++ fileNameParameter fileName.toList)

/-- The header line that says what a part is. -/
def dispositionLine (p : Part) : List Char := dispositionStart ++ parameters p

/-- The header line with a media type. -/
def typeLine (m : MediaType) : List Char := typeStart ++ (m.essence ++ m.parameters)

/-- The header lines of a part. -/
def headerText (p : Part) : List Char :=
  match p.mediaType? with
  | none => dispositionLine p
  | some m => dispositionLine p ++ lineEnd ++ typeLine m

/-- The block of a part whose content type is one. -/
def blockFor (p : Part) : Block := ⟨headerText p, p.content⟩

/-- Whether the content type of a part is one. -/
def Accepted (p : Part) : Prop := p.mediaType?.isSome = p.isFile

instance : DecidablePred Accepted := fun p =>
  inferInstanceAs (Decidable (p.mediaType?.isSome = p.isFile))

/-- What a block is made of. -/
theorem blockOf_eq_ok (p : Part) (b : Block) :
    blockOf p = .ok b ↔ Accepted p ∧ b = blockFor p := by
  cases p with
  | text name value =>
      have h : blockOf (.text name value) = .ok (blockFor (.text name value)) := rfl
      rw [h, Except.ok.injEq]
      exact ⟨fun h => ⟨rfl, h.symm⟩, fun h => h.2.symm⟩
  | file name fileName contentType content =>
      unfold blockOf Accepted blockFor headerText Part.mediaType?
      simp only
      cases MediaType.parse? (typeText fileName contentType) with
      | none => simp [Part.isFile]
      | some m =>
          simp only [Except.ok.injEq, Option.isSome_some, Part.isFile, true_and]
          rw [eq_comm]
          simp [dispositionLine, parameters, typeLine, Part.content]

theorem blocks_eq_ok (ps : List Part) (bs : List Block) :
    blocks ps = .ok bs
      ↔ (∀ p ∈ ps, Accepted p) ∧ bs = ps.map blockFor := by
  induction ps generalizing bs with
  | nil => simp [blocks, eq_comm]
  | cons p ps ih =>
      rw [blocks]
      cases hp : blockOf p with
      | error f =>
          have hno : ¬ Accepted p := by
            intro hp'
            have h := (blockOf_eq_ok p _).mpr ⟨hp', rfl⟩
            rw [hp] at h
            cases h
          -- the whole form is refused with its first part that is
          simp [hno]
      | ok b =>
          obtain ⟨hp', rfl⟩ := (blockOf_eq_ok p b).mp hp
          cases hps : blocks ps with
          | error f =>
              have hno : ¬ ∀ q ∈ ps, Accepted q := by
                intro h
                have h := (ih _).mpr ⟨h, rfl⟩
                rw [hps] at h
                cases h
              simp only [List.forall_mem_cons]
              constructor
              · intro h
                cases h
              · rintro ⟨⟨_, h⟩, _⟩
                exact absurd h hno
          | ok bs' =>
              obtain ⟨hall, rfl⟩ := (ih bs').mp hps
              have hall' : ∀ q ∈ p :: ps, Accepted q := List.forall_mem_cons.mpr ⟨hp', hall⟩
              constructor
              · intro h
                cases h
                exact ⟨hall', rfl⟩
              · rintro ⟨_, rfl⟩
                rfl

/-! ## §3. Line ends. -/

/-- A carriage return is in a text only where its character is. -/
theorem cr_notMem_encode (cs : List Char) (h : '\r' ∉ cs) : 0x0D ∉ Utf8.encode cs := by
  intro hb
  exact h (Utf8.mem_encode_ascii cs 0x0D (by decide) hb)

theorem encode_lineEnd : Utf8.encode lineEnd = [0x0D, 0x0A] := rfl

/-- What begins with no line feed. -/
def NoFeed (s : Bytes) : Prop := s.head? ≠ some 0x0A

theorem noFeed_cons (b : UInt8) (s : Bytes) : NoFeed (b :: s) ↔ b ≠ 0x0A := by
  unfold NoFeed
  rw [List.head?_cons, Ne, Option.some.injEq]

theorem skips_single (b : UInt8) (t : Bytes) (h : b ≠ 0x0D ∨ NoFeed t) :
    Skips (Utf8.encode lineEnd) [b] t := by
  rw [skips_cons]
  refine ⟨?_, skips_nil _ _⟩
  rintro ⟨r, hr⟩
  have hr : 0x0D :: 0x0A :: r = b :: t := hr
  rw [List.cons.injEq] at hr
  rcases h with h | h
  · exact h hr.1.symm
  · rw [← hr.2, noFeed_cons] at h
    exact h rfl

/-- A character that is no line feed is not written with one. -/
theorem noFeed_encodeChar (c : Char) (h : c ≠ '\n') (t : Bytes) :
    NoFeed (Utf8.encodeChar c ++ t) := by
  cases hc : Utf8.encodeChar c with
  | nil => exact absurd hc (Utf8.encodeChar_ne_nil c)
  | cons b r =>
      rw [List.cons_append, noFeed_cons]
      rintro rfl
      have hmem : 0x0A ∈ Utf8.encode [c] := by
        rw [Utf8.encode_cons, hc]
        exact List.mem_cons_self
      have hn := Utf8.mem_encode_ascii [c] 0x0A (by decide) hmem
      exact h (List.mem_singleton.mp hn).symm

/-- A character of a file name is written with no line feed first. -/
theorem noFeed_fileName (cs : List Char) (t : Bytes) (ht : NoFeed t) :
    NoFeed (Utf8.encode (cs.flatMap fileNameChar) ++ t) := by
  cases cs with
  | nil => exact ht
  | cons c cs =>
      rw [List.flatMap_cons, Utf8.encode_append, List.append_assoc]
      unfold fileNameChar
      split
      · rw [Utf8.encode_cons, List.append_assoc]
        exact noFeed_encodeChar '\\' (by decide) _
      · next hc =>
        rw [Utf8.encode_cons, List.append_assoc]
        apply noFeed_encodeChar
        rintro rfl
        exact hc rfl

/-- **No line end is in a file name that is written**: what could be one gets a
backslash. -/
theorem skips_fileName (cs : List Char) (t : Bytes) (ht : NoFeed t) :
    Skips (Utf8.encode lineEnd) (Utf8.encode (cs.flatMap fileNameChar)) t := by
  induction cs with
  | nil => exact skips_nil _ _
  | cons c cs ih =>
      rw [List.flatMap_cons, Utf8.encode_append, skips_append]
      refine ⟨?_, ih⟩
      have hrest := noFeed_fileName cs t ht
      unfold fileNameChar
      split
      · next hc =>
        -- a backslash is put before what could be a line end
        rw [Utf8.encode_cons, skips_append]
        refine ⟨skips_single 0x5C _ (Or.inl (by decide)), ?_⟩
        have hascii : c.toNat < 0x80 := by
          unfold isEscapedInFileName at hc
          simp only [Bool.or_eq_true, beq_iff_eq] at hc
          rcases hc with ((rfl | rfl) | rfl) | rfl <;> decide
        rw [Utf8.encode_cons, Utf8.encodeChar_ascii c hascii]
        exact skips_single _ _ (Or.inr hrest)
      · next hc =>
        -- what is written bare is no carriage return
        apply skips_of_not_mem
        apply cr_notMem_encode
        rw [List.mem_singleton]
        rintro rfl
        exact hc rfl

theorem cr_notMem_nameParameter (name : List Char) : '\r' ∉ nameParameter name := by
  have henc : '\r' ∉ percentEncode inNameSet name := by
    intro h
    rcases (mem_percentEncode _ _ _ h).2 with h | h
    · revert h
      decide
    · revert h
      decide
  unfold nameParameter
  split
  · simp only [List.mem_append, not_or]
    exact ⟨⟨by decide, henc⟩, by decide⟩
  · rw [List.mem_append, not_or]
    exact ⟨by decide, henc⟩

/-- **No line end is in the line that says what a part is.** -/
theorem skips_dispositionLine (p : Part) (t : Bytes) :
    Skips (Utf8.encode lineEnd) (Utf8.encode (dispositionLine p)) t := by
  have hplain : ∀ cs t, '\r' ∉ cs → Skips (Utf8.encode lineEnd) (Utf8.encode cs) t :=
    fun cs t h => skips_of_not_mem 0x0D [0x0A] _ t (cr_notMem_encode cs h)
  have hname : ∀ name, '\r' ∉ dispositionStart ++ nameParameter name := by
    intro name
    rw [List.mem_append, not_or]
    exact ⟨by decide, cr_notMem_nameParameter name⟩
  cases p with
  | text name value => exact hplain _ t (hname _)
  | file name fileName contentType content =>
      have hline : dispositionLine (.file name fileName contentType content)
          = dispositionStart ++ nameParameter name.toList ++ [';', ' '] ++ fileNameStart
            ++ fileName.toList.flatMap fileNameChar ++ ['"'] := by
        unfold dispositionLine parameters fileNameParameter
        simp only [List.append_assoc]
      have hstart : '\r' ∉ dispositionStart ++ nameParameter name.toList ++ [';', ' ']
          ++ fileNameStart := by
        rw [List.mem_append, List.mem_append, not_or, not_or]
        exact ⟨⟨hname _, by decide⟩, by decide⟩
      rw [hline, Utf8.encode_append, Utf8.encode_append, skips_append, skips_append]
      have hquote : Skips (Utf8.encode lineEnd) (Utf8.encode ['"']) t := hplain _ t (by decide)
      refine ⟨⟨hplain _ _ hstart, ?_⟩, hquote⟩
      apply skips_fileName
      exact (noFeed_cons _ _).mpr (by decide)

/-- What is written of a media type that was read holds no line end. -/
theorem cr_notMem_typeLine (p : Part) (m : MediaType) (h : p.mediaType? = some m) :
    '\r' ∉ typeLine m := by
  cases p with
  | text name value => cases h
  | file name fileName contentType content =>
      have hw := MediaType.written_of_parse _ m h
      unfold typeLine
      rw [List.mem_append, not_or]
      refine ⟨by decide, ?_⟩
      intro hr
      have := (hw _ hr).1
      revert this
      decide

/-! ## §4. Sections. -/

/-- What a delimiter is followed by: header lines, an empty line and the content. -/
def sectionOf (p : Part) : Bytes :=
  Utf8.encode (headerText p) ++ (Utf8.encode lineEnd ++ (Utf8.encode lineEnd ++ p.content))

/-- What follows the last delimiter. -/
def closingMark : Bytes := Utf8.encode (hyphens ++ lineEnd)

/-- A line end, if what is looked for goes on otherwise than the text. -/
theorem skips_lineEnd (x y : UInt8) (q t : Bytes) (h : x ≠ y) :
    Skips (Utf8.encode lineEnd ++ x :: q) (Utf8.encode lineEnd) (y :: t) := by
  show Skips (0x0D :: 0x0A :: x :: q) [0x0D, 0x0A] (y :: t)
  rw [skips_cons, skips_cons]
  refine ⟨?_, ?_, skips_nil _ _⟩
  · rintro ⟨r, hr⟩
    simp only [List.cons_append, List.nil_append, List.cons.injEq] at hr
    exact h hr.2.2.1
  · rintro ⟨r, hr⟩
    simp at hr

/-- Every header line begins with the same letter. -/
theorem headerText_eq (p : Part) : ∃ s, Utf8.encode (headerText p) = 0x43 :: s := by
  have hline : ∀ q cs, Utf8.encode (dispositionLine q ++ cs) = 0x43 :: Utf8.encode
      ((dispositionLine q).tail ++ cs) := by
    intro q cs
    rfl
  unfold headerText
  split
  · exact ⟨_, by rw [← List.append_nil (dispositionLine p)]; exact hline p []⟩
  · rw [List.append_assoc]
    exact ⟨_, hline p _⟩

/-- **Nothing that begins with a line end is found in header lines**, unless it goes on
like a header line. -/
theorem skips_headerText (p : Part) (x : UInt8) (q t : Bytes) (hx : x ≠ 0x43) :
    Skips (Utf8.encode lineEnd ++ x :: q) (Utf8.encode (headerText p)) t := by
  have hpre : Utf8.encode lineEnd <+: Utf8.encode lineEnd ++ x :: q := List.prefix_append _ _
  unfold headerText
  split
  · exact (skips_dispositionLine p t).longer hpre
  · next m hm =>
    have htype : Skips (Utf8.encode lineEnd ++ x :: q) (Utf8.encode (typeLine m)) t :=
      skips_of_not_mem 0x0D _ _ t (cr_notMem_encode _ (cr_notMem_typeLine p m hm))
    rw [Utf8.encode_append, Utf8.encode_append, skips_append, skips_append]
    -- the line end between the two lines is followed by a letter, and `x` is another octet
    exact ⟨⟨(skips_dispositionLine p _).longer hpre, skips_lineEnd x 0x43 q _ hx⟩, htype⟩

/-- **The header lines end at the first empty line.** -/
theorem cut_section (p : Part) (s : Bytes) :
    cutAt (Utf8.encode (lineEnd ++ lineEnd))
        (Utf8.encode (headerText p) ++ (Utf8.encode (lineEnd ++ lineEnd) ++ s))
      = some (Utf8.encode (headerText p), s) := by
  have hs := skips_headerText p 0x0D [0x0A] (Utf8.encode (lineEnd ++ lineEnd) ++ s) (by decide)
  exact cutAt_of_skips _ _ _ hs

theorem delimiter_eq (b : Boundary) : ∃ q, delimiter b = Utf8.encode lineEnd ++ 0x2D :: q := by
  have hhyphen : Utf8.encodeChar '-' = [0x2D] := rfl
  refine ⟨Utf8.encode ('-' :: b.text), ?_⟩
  unfold delimiter dashes hyphens
  rw [List.cons_append, Utf8.encode_cons, hhyphen, List.singleton_append, List.singleton_append]

theorem delimiter_ne_nil (b : Boundary) : delimiter b ≠ [] := by
  obtain ⟨q, hq⟩ := delimiter_eq b
  rw [hq]
  exact List.cons_ne_nil _ _

/-- A content without a boundary does not begin with one, whatever line end follows. -/
theorem not_dashes_prefix (b : Boundary) (content t : Bytes) (h : ¬ dashes b <:+: content) :
    ¬ dashes b <+: content ++ (delimiter b ++ t) := by
  rintro ⟨r, hr⟩
  rcases List.append_eq_append_iff.mp hr with ⟨s, hs, _⟩ | ⟨s, hs, hst⟩
  · rw [hs] at h
    exact h (List.prefix_append _ _).isInfix
  · cases s with
    | nil =>
        rw [List.append_nil] at hs
        rw [hs] at h
        exact h List.infix_rfl
    | cons d s =>
        -- it would reach into the delimiter, whose first octet no boundary holds
        have hd : 0x0D = d := (List.cons.inj hst).1
        apply cr_notMem_dashes b
        rw [hs, ← hd]
        simp

/-- **No delimiter is in a content that holds no boundary.** -/
theorem skips_content (b : Boundary) (content t : Bytes) (h : ¬ dashes b <:+: content) :
    Skips (delimiter b) content (delimiter b ++ t) := by
  have hcontent : ¬ delimiter b <:+: content := by
    intro hd
    exact h ((List.suffix_append (Utf8.encode lineEnd) (dashes b)).isInfix.trans hd)
  have hcr : 0x0D ∉ 0x0A :: dashes b := by
    rw [List.mem_cons, not_or]
    exact ⟨by decide, cr_notMem_dashes b⟩
  exact skips_of_not_infix 0x0D (0x0A :: dashes b) content t hcr hcontent

/-- **No delimiter is in a section whose content holds no boundary.** -/
theorem skips_section (b : Boundary) (p : Part) (t : Bytes)
    (h : ¬ dashes b <:+: p.content) :
    Skips (delimiter b) (Utf8.encode lineEnd ++ sectionOf p) (delimiter b ++ t) := by
  obtain ⟨s, hs⟩ := headerText_eq p
  obtain ⟨q, hq⟩ := delimiter_eq b
  -- only the line end before the content needs that the content does not begin with `dashes b`
  have hlast : Skips (delimiter b) (Utf8.encode lineEnd) (p.content ++ (delimiter b ++ t)) := by
    show Skips (0x0D :: 0x0A :: dashes b) [0x0D, 0x0A] _
    rw [skips_cons, skips_cons]
    refine ⟨?_, ?_, skips_nil _ _⟩
    · rw [List.cons_append, List.prefix_cons_inj, List.nil_append, List.prefix_cons_inj]
      exact not_dashes_prefix b p.content t h
    -- a line feed does not begin a delimiter
    · rintro ⟨r, hr⟩
      simp at hr
  unfold sectionOf
  -- line end, header lines, line end, line end and content, each with what follows it
  rw [skips_append, skips_append, skips_append, skips_append]
  refine ⟨?_, ?_, ?_, hlast, ?_⟩
  · rw [hs, hq]
    exact skips_lineEnd 0x2D 0x43 _ _ (by decide)
  · rw [hq]
    exact skips_headerText p 0x2D _ _ (by decide)
  · rw [hq]
    exact skips_lineEnd 0x2D 0x0D _ _ (by decide)
  · exact skips_content b p.content t h

/-! ## §5. Bodies. -/

theorem encodeBlock_eq (b : Boundary) (p : Part) (t : Bytes) :
    Utf8.encode lineEnd ++ (encodeBlock b.text (blockFor p) ++ t)
      = delimiter b ++ (Utf8.encode lineEnd ++ sectionOf p) ++ (Utf8.encode lineEnd ++ t) := by
  unfold encodeBlock delimiter dashes sectionOf blockFor
  simp only [Utf8.encode_append, List.append_assoc]

theorem encodeBlocks_eq (b : Boundary) (ps : List Part) :
    Utf8.encode lineEnd ++ ((ps.map blockFor).flatMap (encodeBlock b.text) ++ closing b.text)
      = ps.flatMap (fun p => delimiter b ++ (Utf8.encode lineEnd ++ sectionOf p))
        ++ (delimiter b ++ closingMark) := by
  induction ps with
  | nil =>
      unfold closing delimiter dashes closingMark
      simp only [List.map_nil, List.flatMap_nil, List.nil_append, Utf8.encode_append,
        List.append_assoc]
  | cons p ps ih =>
      rw [List.map_cons, List.flatMap_cons, List.flatMap_cons, List.append_assoc,
        encodeBlock_eq, ih, List.append_assoc _ _ (delimiter b ++ closingMark)]

/-- **A body is its sections, each behind a delimiter, and what closes it.** -/
theorem encode_eq (b : Boundary) (ps : List Part) (hne : ps ≠ []) :
    Utf8.encode lineEnd ++ encode b.text (ps.map blockFor)
      = ps.flatMap (fun p => delimiter b ++ (Utf8.encode lineEnd ++ sectionOf p))
        ++ (delimiter b ++ closingMark) := by
  unfold encode
  rw [List.isEmpty_map, List.isEmpty_eq_false_iff.mpr hne]
  exact encodeBlocks_eq b ps

/-- There are fewer sections than octets. -/
theorem length_sections (b : Boundary) (ps : List Part) :
    ps.length + 4 < (ps.flatMap (fun p => delimiter b ++ (Utf8.encode lineEnd ++ sectionOf p))
      ++ (delimiter b ++ closingMark)).length := by
  have hd := List.length_pos_iff.mpr (delimiter_ne_nil b)
  have hclosing : closingMark.length = 4 := rfl
  induction ps with
  | nil =>
      rw [List.flatMap_nil, List.nil_append, List.length_append, List.length_nil]
      omega
  | cons p ps ih =>
      rw [List.flatMap_cons, List.append_assoc, List.append_assoc, List.length_append,
        List.length_append, List.length_cons]
      omega

/-- A form has fewer parts than its body has octets. -/
theorem length_parts_lt (b : Boundary) (ps : List Part) (hne : ps ≠ []) :
    ps.length < (encode b.text (ps.map blockFor)).length := by
  have hlength := congrArg List.length (encode_eq b ps hne)
  have hsections := length_sections b ps
  have hbreak : (Utf8.encode lineEnd).length = 2 := rfl
  rw [List.length_append] at hlength
  omega

/-- Header lines and content of a part find room in the body. -/
theorem length_part_le (b : Boundary) (ps : List Part) (p : Part) (hp : p ∈ ps) :
    (Utf8.encode (headerText p)).length + p.content.length
      ≤ (encode b.text (ps.map blockFor)).length := by
  obtain ⟨before, after, rfl⟩ := List.append_of_mem hp
  unfold encode
  rw [List.isEmpty_map, List.isEmpty_eq_false_iff.mpr (by simp), if_neg Bool.false_ne_true]
  simp only [List.map_append, List.map_cons, List.flatMap_append, List.flatMap_cons,
    List.length_append, encodeBlock, blockFor, Utf8.encode_append]
  omega

end FormUpload.Multipart
