import FormUpload.Proofs.Multipart.Layout

/-!
# How long a multipart body is

The length of a body is announced before the body is written, and is counted on its own.  What
a character takes is counted here by the rules of its place, without writing it:

    length_encodeChar   in UTF-8
    length_name         in a name: one octet, or three for each octet that is encoded
    length_fileName     in a file name: one octet more if it gets a backslash

From these the header lines of a part (`length_headerText`) and the whole form (`formLength`)
are counted.  Both the announced length (`encodedLength_eq`) and the length of the body
(`length_encode`) are this number.
-/

namespace FormUpload

open FormUpload.Text

namespace Text

/-- The number of octets that a text takes. -/
def octetCount (cs : List Char) : Nat := (cs.map Char.utf8Size).sum

/-- **What a character takes in UTF-8.** -/
theorem Utf8.length_encodeChar (c : Char) : (encodeChar c).length = c.utf8Size := by
  have hval : c.val.toNat = c.toNat := rfl
  have hone : (127 : UInt32).toNat = 127 := rfl
  have htwo : (2047 : UInt32).toNat = 2047 := rfl
  have hthree : (65535 : UInt32).toNat = 65535 := rfl
  unfold encodeChar
  simp only
  symm
  by_cases h1 : c.toNat < 0x80
  · rw [if_pos h1]
    show c.utf8Size = 1
    rw [Char.utf8Size_eq_one_iff, UInt32.le_iff_toNat_le]
    omega
  · rw [if_neg h1]
    by_cases h2 : c.toNat < 0x800
    · rw [if_pos h2]
      show c.utf8Size = 2
      rw [Char.utf8Size_eq_two_iff, UInt32.le_iff_toNat_le, UInt32.lt_iff_toNat_lt]
      omega
    · rw [if_neg h2]
      by_cases h3 : c.toNat < 0x10000
      · rw [if_pos h3]
        show c.utf8Size = 3
        rw [Char.utf8Size_eq_three_iff, UInt32.le_iff_toNat_le, UInt32.lt_iff_toNat_lt]
        omega
      · rw [if_neg h3]
        show c.utf8Size = 4
        rw [Char.utf8Size_eq_four_iff, UInt32.lt_iff_toNat_lt]
        omega

theorem Utf8.length_encode (cs : List Char) : (encode cs).length = octetCount cs := by
  induction cs with
  | nil => rfl
  | cons c cs ih =>
      show _ = c.utf8Size + octetCount cs
      rw [encode_cons, List.length_append, length_encodeChar, ih]

theorem octetCount_append (cs ds : List Char) :
    octetCount (cs ++ ds) = octetCount cs + octetCount ds := by
  unfold octetCount
  rw [List.map_append, List.sum_append_nat]

end Text

namespace Multipart

/-! ## §1. Boundaries. -/

/-- A character of a boundary takes one octet. -/
theorem octetCount_boundary (b : Boundary) : octetCount b.text = 67 := by
  have hascii : ∀ c ∈ b.text, c.utf8Size = 1 := by
    intro c hc
    have hmarks : (boundaryMarks.all fun c => c.utf8Size == 1) = true := by decide
    exact eq_of_beq (List.all_eq_true.mp hmarks c (mem_boundary b c hc))
  have hone : b.text.map Char.utf8Size = List.replicate 67 1 := by
    rw [List.eq_replicate_iff, List.length_map]
    refine ⟨length_boundary b, ?_⟩
    intro n hn
    obtain ⟨c, hc, rfl⟩ := List.mem_map.mp hn
    exact hascii c hc
  unfold octetCount
  rw [hone]
  rfl

/-! ## §2. Names. -/

/-- The number of octets that a character takes in a name. -/
def nameCharCount (c : Char) : Nat :=
  if c.toNat < 0x80 && !inNameSet c then 1 else 3 * c.utf8Size

/-- The number of octets that the name of a part takes, with what stands around it. -/
def nameCount (name : List Char) : Nat :=
  (if isQuotedName name then 7 else 13) + (name.map nameCharCount).sum

/-- The number of octets that a character takes in a file name. -/
def fileNameCharCount (c : Char) : Nat :=
  if isEscapedInFileName c then c.utf8Size + 1 else c.utf8Size

/-- The number of octets that a file name takes, with what stands around it. -/
def fileNameCount (fileName : List Char) : Nat := 11 + (fileName.map fileNameCharCount).sum

/-- An octet that is encoded takes three. -/
theorem octetCount_percentOctets (bs : Bytes) :
    octetCount (bs.flatMap percentOctet) = 3 * bs.length := by
  induction bs with
  | nil => rfl
  | cons b bs ih =>
      have hascii : (percentMarks.all fun c => c.utf8Size == 1) = true := by decide
      have hmarks : ∀ c ∈ percentOctet b, c.utf8Size = 1 := fun c hc =>
        eq_of_beq (List.all_eq_true.mp hascii c (mem_percentOctet b c hc))
      have hthree : octetCount (percentOctet b) = 3 := by
        unfold percentOctet at hmarks ⊢
        simp only [List.forall_mem_cons] at hmarks
        simp only [octetCount, List.map_cons, List.map_nil, List.sum_cons, List.sum_nil]
        omega
      rw [List.flatMap_cons, octetCount_append, hthree, ih, List.length_cons]
      omega

theorem octetCount_percentChar (c : Char) :
    octetCount (percentChar inNameSet c) = nameCharCount c := by
  unfold percentChar nameCharCount
  split
  · next hbare =>
    -- what is written bare is ASCII
    have hascii : c.toNat < 0x80 := by
      simp only [Bool.and_eq_true, decide_eq_true_eq] at hbare
      exact hbare.1
    rw [← Utf8.length_encode, Utf8.encode_cons, Utf8.encodeChar_ascii c hascii]
    rfl
  · rw [octetCount_percentOctets, Utf8.length_encodeChar]

/-- **What a name takes.** -/
theorem length_name (name : List Char) : octetCount (nameParameter name) = nameCount name := by
  have hencoded : octetCount (percentEncode inNameSet name) = (name.map nameCharCount).sum := by
    induction name with
    | nil => rfl
    | cons c name ih =>
        rw [percentEncode_cons, octetCount_append, octetCount_percentChar, ih, List.map_cons,
          List.sum_cons]
  have hquoted : octetCount quotedNameStart = 6 := by decide
  have hstart : octetCount encodedNameStart = 13 := by decide
  have hquote : octetCount ['"'] = 1 := by decide
  unfold nameParameter nameCount
  split
  · rw [octetCount_append, octetCount_append, hencoded, hquoted, hquote]
    omega
  · rw [octetCount_append, hencoded, hstart]

/-- **What a file name takes.** -/
theorem length_fileName (fileName : List Char) :
    octetCount (fileNameParameter fileName) = fileNameCount fileName := by
  have hchar : ∀ c, octetCount (fileNameChar c) = fileNameCharCount c := by
    intro c
    unfold fileNameChar fileNameCharCount
    split
    · show '\\'.utf8Size + (c.utf8Size + 0) = _
      have hbackslash : '\\'.utf8Size = 1 := by decide
      omega
    · rfl
  have hescaped : octetCount (fileName.flatMap fileNameChar)
      = (fileName.map fileNameCharCount).sum := by
    induction fileName with
    | nil => rfl
    | cons c fileName ih =>
        rw [List.flatMap_cons, octetCount_append, hchar, ih, List.map_cons, List.sum_cons]
  have hstart : octetCount fileNameStart = 10 := by decide
  have hquote : octetCount ['"'] = 1 := by decide
  unfold fileNameParameter fileNameCount
  rw [octetCount_append, octetCount_append, hescaped, hstart, hquote]
  omega

/-! ## §3. Header lines. -/

/-- The number of octets that a media type takes, with what stands around it. -/
def typeCount : Option MediaType → Nat
  | none => 0
  | some m => 16 + octetCount (m.essence ++ m.parameters)

/-- The number of octets that the header lines of a part take. -/
def headerCount (p : Part) : Nat :=
  match p with
  | .text name _ => 32 + nameCount name.toList
  | .file name fileName _ _ =>
      32 + nameCount name.toList + 2 + fileNameCount fileName.toList + typeCount p.mediaType?

/-- **What the header lines of a part take.** -/
theorem length_headerText (p : Part) : (Utf8.encode (headerText p)).length = headerCount p := by
  have hstart : octetCount dispositionStart = 32 := by decide
  have hbetween : octetCount [';', ' '] = 2 := by decide
  have hbreak : octetCount lineEnd = 2 := by decide
  have htype : octetCount typeStart = 14 := by decide
  rw [Utf8.length_encode]
  cases p with
  | text name value =>
      show octetCount (dispositionStart ++ nameParameter name.toList) = 32 + nameCount name.toList
      rw [octetCount_append, length_name, hstart]
  | file name fileName contentType content =>
      have hline : octetCount (dispositionLine (.file name fileName contentType content))
          = 32 + nameCount name.toList + 2 + fileNameCount fileName.toList := by
        show octetCount (dispositionStart ++ (nameParameter name.toList
          ++ ([';', ' '] ++ fileNameParameter fileName.toList))) = _
        rw [octetCount_append, octetCount_append, octetCount_append, length_name, length_fileName,
          hstart, hbetween]
        omega
      show _ = 32 + nameCount name.toList + 2 + fileNameCount fileName.toList + typeCount _
      unfold headerText
      cases (Part.file name fileName contentType content).mediaType? with
      | none => exact hline
      | some m =>
          show octetCount (_ ++ lineEnd ++ (typeStart ++ (m.essence ++ m.parameters)))
            = _ + (16 + octetCount (m.essence ++ m.parameters))
          rw [octetCount_append, octetCount_append, octetCount_append, hline, hbreak, htype]
          omega

/-! ## §4. Forms. -/

/-- What stands for a part in a body: the line with the boundary, the header lines, what ends
them, the content, and a line end. -/
def partPieces (b : Boundary) (p : Part) : List Bytes :=
  [Utf8.encode (hyphens ++ b.text ++ lineEnd), Utf8.encode (headerText p),
    Utf8.encode (lineEnd ++ lineEnd), p.content, Utf8.encode lineEnd]

/-- What a body is put together from: nothing for a form without parts. -/
def bodyPieces (b : Boundary) (ps : List Part) : List Bytes :=
  if ps.isEmpty then [] else ps.flatMap (partPieces b) ++ [closing b.text]

/-- The number of octets that stand for a part. -/
def partCount (p : Part) : Nat := 71 + headerCount p + 4 + p.content.length + 2

/-- The number of octets that stand for a form. -/
def formLength (ps : List Part) : Nat :=
  if ps.isEmpty then 0 else (ps.map partCount).sum + 73

/-- **A body is put together from its pieces.** -/
theorem encode_eq_flatten (b : Boundary) (ps : List Part) :
    encode b.text (ps.map blockFor) = (bodyPieces b ps).flatten := by
  have hblock : ∀ p, encodeBlock b.text (blockFor p) = (partPieces b p).flatten := by
    intro p
    unfold encodeBlock blockFor partPieces
    simp only [Utf8.encode_append, List.flatten_cons, List.flatten_nil, List.append_assoc,
      List.append_nil]
  have hblocks : (ps.map blockFor).flatMap (encodeBlock b.text)
      = (ps.flatMap (partPieces b)).flatten := by
    induction ps with
    | nil => rfl
    | cons p ps ih =>
        rw [List.map_cons, List.flatMap_cons, List.flatMap_cons, List.flatten_append, hblock, ih]
  unfold encode bodyPieces
  rw [List.isEmpty_map]
  split
  · rfl
  · rw [List.flatten_append, hblocks, List.flatten_cons, List.flatten_nil, List.append_nil]

/-- **What a part takes.** -/
theorem length_partPieces (b : Boundary) (p : Part) :
    ((partPieces b p).map List.length).sum = partCount p := by
  have hdelimiter : (Utf8.encode (hyphens ++ b.text ++ lineEnd)).length = 71 := by
    rw [Utf8.length_encode, octetCount_append, octetCount_append, octetCount_boundary]
    rfl
  have hempty : (Utf8.encode (lineEnd ++ lineEnd)).length = 4 := rfl
  have hbreak : (Utf8.encode lineEnd).length = 2 := rfl
  unfold partPieces partCount
  simp only [List.map_cons, List.map_nil, List.sum_cons, List.sum_nil, hdelimiter, hempty,
    hbreak, length_headerText]
  omega

/-- **What a form takes.** -/
theorem length_bodyPieces (b : Boundary) (ps : List Part) :
    ((bodyPieces b ps).map List.length).sum = formLength ps := by
  have hclosing : (closing b.text).length = 73 := by
    unfold closing
    rw [Utf8.length_encode, octetCount_append, octetCount_append, octetCount_append,
      octetCount_boundary]
    rfl
  have hparts : ((ps.flatMap (partPieces b)).map List.length).sum = (ps.map partCount).sum := by
    induction ps with
    | nil => rfl
    | cons p ps ih =>
        rw [List.flatMap_cons, List.map_append, List.sum_append_nat, length_partPieces, ih,
          List.map_cons, List.sum_cons]
  unfold bodyPieces formLength
  split
  · rfl
  · rw [List.map_append, List.sum_append_nat, hparts, List.map_singleton, List.sum_singleton,
      hclosing]

/-- **A body has the length of its form.** -/
theorem length_encode (b : Boundary) (ps : List Part) :
    (encode b.text (ps.map blockFor)).length = formLength ps := by
  rw [encode_eq_flatten, List.length_flatten, length_bodyPieces]

/-- **The length of a form is announced.** -/
theorem encodedLength_eq (b : Boundary) (ps : List Part) :
    encodedLength b.text (ps.map blockFor) = formLength ps := by
  have hboundary : (Utf8.encode b.text).length = 67 := by
    rw [Utf8.length_encode, octetCount_boundary]
  have hblock : ∀ p, blockLength b.text (blockFor p) = partCount p := by
    intro p
    unfold blockLength blockFor partCount
    rw [hboundary, length_headerText]
  have hclosing : closingLength b.text = 73 := by
    unfold closingLength
    rw [hboundary]
  have hblocks : blocksLength b.text (ps.map blockFor) = (ps.map partCount).sum + 73 := by
    induction ps with
    | nil => exact hclosing
    | cons p ps ih =>
        rw [List.map_cons, blocksLength, hblock, ih, List.map_cons, List.sum_cons, Nat.add_assoc]
  unfold encodedLength formLength
  rw [List.isEmpty_map, hblocks]

end Multipart

end FormUpload
