import FormUpload.Proofs.Multipart.Layout
import FormUpload.Transport
import Mathlib.Data.List.Forall2

/-!
# Reading a multipart body

A reader for the bodies that forms are sent as.  It cuts the body at its delimiters
(`sections?`), a section at its first empty line and at its line ends, and takes name,
file name and media type from the header lines (`readSection?`).

Whatever names, file names and contents are, the reader finds the parts of the form
again (`body_tells_parts`): all that a body can be mistaken about is how a content type
was spelled.  The only condition is that no content holds the boundary.
-/

namespace FormUpload.Multipart

open FormUpload.Text

/-! ## §1. The reader. -/

/-- What a body tells about a part. -/
structure Seen where
  name : String
  /-- The file name and the media type of a file. -/
  file : Option (String × MediaType)
  content : Bytes
deriving DecidableEq, Repr

/-- What is to be told about a part. -/
def seen : Part → Seen
  | .text name value => ⟨name, none, bytesOf value⟩
  | .file name fileName contentType content =>
      ⟨name, (MediaType.parse? (typeText fileName contentType)).map (fileName, ·), content⟩

/-- The sections behind delimiters.  Each begins on a line of its own; behind the last
delimiter stands what closes the body. -/
def sectionsOf? : List Bytes → Option (List Bytes)
  | [] => none
  | [last] => if last = closingMark then some [] else none
  | piece :: pieces => do
      let s ← afterStart? (Utf8.encode lineEnd) piece
      return s :: (← sectionsOf? pieces)

/-- The sections of a body.  It is read as if a line end stood before it. -/
def sections? (b : Boundary) (body : Bytes) : Option (List Bytes) :=
  let text := Utf8.encode lineEnd ++ body
  match splitAtAll (delimiter b) text.length text with
  | [] :: pieces => sectionsOf? pieces
  | _ => none

/-- The header lines of a section, and its content. -/
def readLines? (s : Bytes) : Option (List Bytes × Bytes) := do
  let (head, content) ← cutAt (Utf8.encode (lineEnd ++ lineEnd)) s
  return (splitAtAll (Utf8.encode lineEnd) head.length head, content)

/-- The text that was percent-encoded. -/
def readPercent? (cs : List Char) : Option String := string? (percentDecode (Utf8.encode cs))

/-- A name, and what follows it. -/
def readName? (cs : List Char) : Option (String × List Char) :=
  match afterStart? quotedNameStart cs with
  | some r => do
      let (name, rest) ← cutAt ['"'] r
      return (← readPercent? name, rest)
  | none => do
      let r ← afterStart? encodedNameStart cs
      match cutAt [';', ' '] r with
      | some (name, rest) => return (← readPercent? name, [';', ' '] ++ rest)
      | none => return (← readPercent? r, [])

/-- A file name up to its closing quote.  A character after a backslash stands for
itself. -/
def readFileName? : List Char → Option (List Char)
  | [] => none
  | '"' :: _ => some []
  | '\\' :: c :: r => (readFileName? r).map (c :: ·)
  | c :: r => (readFileName? r).map (c :: ·)

/-- What a section tells about a part: a text has one header line, a file has two. -/
def readSection? (s : Bytes) : Option Seen := do
  let (lines, content) ← readLines? s
  match lines with
  | [line] =>
      let (name, _) ← readName? (← afterStart? dispositionStart (← Utf8.decode? line))
      return ⟨name, none, content⟩
  | [line, type] =>
      let (name, rest) ← readName? (← afterStart? dispositionStart (← Utf8.decode? line))
      let fileName ← readFileName? (← afterStart? ([';', ' '] ++ fileNameStart) rest)
      let mediaType ← afterStart? typeStart (← Utf8.decode? type)
      return ⟨name, some (String.ofList fileName, MediaType.ofText mediaType), content⟩
  | _ => none

/-! ## §2. Sections. -/

theorem sectionsOf?_closed (ss : List Bytes) :
    sectionsOf? (ss.map (fun s => Utf8.encode lineEnd ++ s) ++ [closingMark]) = some ss := by
  induction ss with
  | nil => rfl
  | cons s ss ih =>
      have hcons : ∀ piece pieces, pieces ≠ [] → sectionsOf? (piece :: pieces) = (do
          let s ← afterStart? (Utf8.encode lineEnd) piece
          return s :: (← sectionsOf? pieces)) := by
        intro piece pieces hne
        cases pieces with
        | nil => exact absurd rfl hne
        | cons q qs => rfl
      rw [List.map_cons, List.cons_append, hcons _ _ (by simp), afterStart?_append, ih]
      rfl

/-- What closes a body holds no delimiter. -/
theorem skips_closingMark (b : Boundary) : Skips (delimiter b) closingMark [] := by
  obtain ⟨q, hq⟩ := delimiter_eq b
  rw [hq]
  show Skips (0x0D :: 0x0A :: 0x2D :: q) [0x2D, 0x2D, 0x0D, 0x0A] []
  simp [skips_cons, skips_nil]

/-- The delimiters of a body are found where they were put. -/
theorem splitAtAll_sections (b : Boundary) (ps : List Part)
    (hfree : ∀ p ∈ ps, ¬ dashes b <:+: p.content) (first : Bytes) (fuel : Nat)
    (hfuel : ps.length < fuel)
    (hfirst : ∀ t, Skips (delimiter b) first (delimiter b ++ t)) :
    splitAtAll (delimiter b) fuel
        (first ++ (ps.flatMap (fun p => delimiter b ++ (Utf8.encode lineEnd ++ sectionOf p))
          ++ (delimiter b ++ closingMark)))
      = first :: (ps.map (fun p => Utf8.encode lineEnd ++ sectionOf p) ++ [closingMark]) := by
  induction ps generalizing first fuel with
  | nil =>
      obtain ⟨fuel, rfl⟩ : ∃ n, fuel = n + 1 := ⟨fuel - 1, by omega⟩
      rw [List.flatMap_nil, List.nil_append, splitAtAll_of_skips _ _ _ _ (hfirst _),
        splitAtAll_last _ _ _ (delimiter_ne_nil b) (skips_closingMark b)]
      rfl
  | cons p ps ih =>
      obtain ⟨fuel, rfl⟩ : ∃ n, fuel = n + 1 := ⟨fuel - 1, by omega⟩
      obtain ⟨hp, hps⟩ := List.forall_mem_cons.mp hfree
      rw [List.length_cons] at hfuel
      rw [List.flatMap_cons, List.append_assoc, List.append_assoc,
        splitAtAll_of_skips _ _ _ _ (hfirst _),
        ih hps _ fuel (by omega) fun t => skips_section b p t hp]
      rfl

/-- **A body is cut into one section for each part, in order.** -/
theorem sections?_encode (b : Boundary) (ps : List Part) (hne : ps ≠ [])
    (hfree : ∀ p ∈ ps, ¬ dashes b <:+: p.content) :
    sections? b (encode b.text (ps.map blockFor)) = some (ps.map sectionOf) := by
  have hfuel := Nat.lt_of_le_of_lt (Nat.le_add_right ps.length 4) (length_sections b ps)
  have h := splitAtAll_sections b ps hfree [] _ hfuel fun t => skips_nil _ _
  have hc := sectionsOf?_closed (ps.map sectionOf)
  rw [List.map_map] at hc
  unfold sections?
  simp only
  rw [encode_eq b ps hne]
  rw [List.nil_append] at h
  rw [h]
  exact hc

/-! ## §3. Header lines. -/

/-- The header lines of a part. -/
def headerLines (p : Part) : List Bytes :=
  Utf8.encode (dispositionLine p) :: p.mediaType?.toList.map fun m => Utf8.encode (typeLine m)

/-- The header lines are told apart by their line ends. -/
theorem splitAtAll_headerText (p : Part) (fuel : Nat) :
    splitAtAll (Utf8.encode lineEnd) (fuel + 1) (Utf8.encode (headerText p)) = headerLines p := by
  have hne : Utf8.encode lineEnd ≠ [] := by decide
  unfold headerText headerLines
  split
  · next hm =>
    rw [hm, splitAtAll_last _ _ _ hne (skips_dispositionLine p [])]
    rfl
  · next m hm =>
    have htype : Skips (Utf8.encode lineEnd) (Utf8.encode (typeLine m)) [] :=
      skips_of_not_mem 0x0D [0x0A] _ _ (cr_notMem_encode _ (cr_notMem_typeLine p m hm))
    rw [hm, Utf8.encode_append, Utf8.encode_append, List.append_assoc,
      splitAtAll_of_skips _ _ _ _ (skips_dispositionLine p _), splitAtAll_last _ _ _ hne htype]
    rfl

/-- **A section is cut into its header lines and its content.** -/
theorem readLines?_sectionOf (p : Part) :
    readLines? (sectionOf p) = some (headerLines p, p.content) := by
  obtain ⟨s, hs⟩ := headerText_eq p
  -- the fuel is the length of the header lines, which are not empty
  have hcut := cut_section p p.content
  have hlines := splitAtAll_headerText p s.length
  rw [Utf8.encode_append, List.append_assoc] at hcut
  unfold readLines? sectionOf
  rw [Utf8.encode_append, hcut]
  show some (splitAtAll _ (Utf8.encode (headerText p)).length _, _) = _
  rw [show (Utf8.encode (headerText p)).length = s.length + 1 by rw [hs]; rfl, hlines]

/-- A name is read back, whichever way it is written. -/
theorem readName?_nameParameter (name rest : List Char)
    (hrest : rest = [] ∨ ∃ r, rest = [';', ' '] ++ r) :
    readName? (nameParameter name ++ rest) = some (String.ofList name, rest) := by
  have hread : readPercent? (percentEncode inNameSet name) = some (String.ofList name) := by
    unfold readPercent?
    rw [percentDecode_percentEncode inNameSet (by decide), string?_encode]
  -- neither the closing quote nor the blank after a semicolon is in an encoded name
  have hquote := not_mem_percentEncode inNameSet name '"' (by decide) (by decide)
  have hblank := not_mem_percentEncode inNameSet name ' ' (by decide) (by decide)
  unfold nameParameter readName?
  by_cases hq : isQuotedName name = true
  -- the quoted form ends at its quote
  · have hcut := cutAt_of_skips ['"'] (percentEncode inNameSet name) rest
      (skips_of_not_mem '"' [] _ _ hquote)
    rw [if_pos hq, List.append_assoc, List.append_assoc, afterStart?_append]
    simp only [hcut, hread, Option.bind_eq_bind, Option.bind_some, Option.pure_def]
  -- the other form ends at a semicolon and a blank, or with the line
  · have hstart : afterStart? quotedNameStart
        (encodedNameStart ++ (percentEncode inNameSet name ++ rest)) = none := rfl
    rw [if_neg hq, List.append_assoc, hstart]
    simp only [afterStart?_append, Option.bind_eq_bind, Option.bind_some, Option.pure_def]
    rcases hrest with rfl | ⟨r, rfl⟩
    · have hskip := skips_of_second_not_mem ';' ' ' _ [] hblank (by decide)
      rw [List.append_nil, cutAt_eq_none_of_skips _ _ (List.cons_ne_nil _ _) hskip]
      simp only [hread, Option.bind_some]
    · have hskip := skips_of_second_not_mem ';' ' ' _ ([';', ' '] ++ r) hblank (by simp)
      rw [cutAt_of_skips _ _ _ hskip]
      simp only [hread, Option.bind_some]

/-- A file name is read back. -/
theorem readFileName?_fileName (cs : List Char) :
    readFileName? (cs.flatMap fileNameChar ++ ['"']) = some cs := by
  induction cs with
  | nil => rfl
  | cons c cs ih =>
      rw [List.flatMap_cons, List.append_assoc]
      by_cases hc : isEscapedInFileName c = true
      -- the reader takes what follows a backslash as it is
      · have hchar : fileNameChar c = ['\\', c] := if_pos hc
        rw [hchar]
        show (readFileName? (cs.flatMap fileNameChar ++ ['"'])).map (c :: ·) = _
        rw [ih]
        rfl
      -- it is neither a quote nor a backslash
      · have hchar : fileNameChar c = [c] := if_neg hc
        have hquote : c ≠ '"' := by
          rintro rfl
          exact hc rfl
        have hslash : c ≠ '\\' := by
          rintro rfl
          exact hc rfl
        rw [hchar, List.singleton_append,
          readFileName?.eq_4 _ _ hquote (fun d r h _ => hslash h), ih]
        rfl

/-! ## §4. Sections are read. -/

/-- **A section tells what its part is.** -/
theorem readSection?_sectionOf (p : Part) (hp : Accepted p) :
    readSection? (sectionOf p) = some (seen p) := by
  unfold readSection?
  rw [readLines?_sectionOf]
  cases p with
  | text name value =>
      -- one line, which the name ends
      have hname := readName?_nameParameter name.toList [] (Or.inl rfl)
      rw [List.append_nil, String.ofList_toList] at hname
      simp only [headerLines, Part.mediaType?, dispositionLine, parameters, Option.toList_none,
        List.map_nil, Utf8.decode?_encode, Option.bind_eq_bind, Option.bind_some,
        afterStart?_append, hname]
      rfl
  | file name fileName contentType content =>
      obtain ⟨m, hm⟩ := Option.isSome_iff_exists.mp hp
      -- two lines: the file name follows the name in the first, the media type is the second
      have hname := readName?_nameParameter name.toList
        ([';', ' '] ++ fileNameParameter fileName.toList) (Or.inr ⟨_, rfl⟩)
      have hrest : [';', ' '] ++ fileNameParameter fileName.toList
          = [';', ' '] ++ fileNameStart ++ (fileName.toList.flatMap fileNameChar ++ ['"']) := by
        unfold fileNameParameter
        simp only [List.append_assoc]
      have hline : dispositionLine (.file name fileName contentType content)
          = dispositionStart ++ (nameParameter name.toList
            ++ ([';', ' '] ++ fileNameParameter fileName.toList)) := rfl
      have hseen : seen (.file name fileName contentType content)
          = ⟨name, some (fileName, m), content⟩ := by
        show (⟨name, (MediaType.parse? (typeText fileName contentType)).map _, content⟩ : Seen) = _
        rw [show MediaType.parse? (typeText fileName contentType) = some m from hm]
        rfl
      rw [hrest] at hname hline
      rw [hseen, headerLines, hm, hline]
      simp only [Option.toList_some, List.map_cons, List.map_nil, Utf8.decode?_encode,
        Option.bind_eq_bind, Option.bind_some, afterStart?_append, hname,
        readFileName?_fileName, typeLine, MediaType.ofText_of_parse _ m hm, String.ofList_toList]
      rfl

/-! ## §5. Bodies are read. -/

/-- The header lines that a part has: one if it is a text, two if it is a file. -/
def HasHeaders : Part → List Bytes → Prop
  | .text _ _, lines => ∃ l, lines = [bytesOf "Content-Disposition: " ++ l]
  | .file _ _ _ _, lines =>
      ∃ l t, lines = [bytesOf "Content-Disposition: " ++ l, bytesOf "Content-Type: " ++ t]

theorem hasHeaders_headerLines (p : Part) (hp : Accepted p) : HasHeaders p (headerLines p) := by
  have hstart : ∀ cs, Utf8.encode (dispositionStart ++ cs)
      = bytesOf "Content-Disposition: " ++ Utf8.encode ("form-data; ".toList ++ cs) := by
    intro cs
    rfl
  cases p with
  | text name value => exact ⟨_, congrArg (· :: []) (hstart _)⟩
  | file name fileName contentType content =>
      obtain ⟨m, hm⟩ := Option.isSome_iff_exists.mp hp
      refine ⟨Utf8.encode ("form-data; ".toList
        ++ parameters (.file name fileName contentType content)),
        Utf8.encode (m.essence ++ m.parameters), ?_⟩
      rw [headerLines, hm, dispositionLine, hstart]
      rfl

/-- Parts that are the same but for the spelling of their content types. -/
def Alike : Part → Part → Prop
  | .text name value, .text name' value' => name = name' ∧ value = value'
  | .file name fileName contentType content, .file name' fileName' contentType' content' =>
      name = name' ∧ fileName = fileName' ∧ content = content'
        ∧ MediaType.parse? (typeText fileName contentType)
          = MediaType.parse? (typeText fileName' contentType')
  | _, _ => False

theorem alike_of_seen (p q : Part) (hp : Accepted p) (hq : Accepted q) (h : seen p = seen q) :
    Alike p q := by
  cases p with
  | text name value =>
      cases q with
      | text name' value' =>
          obtain ⟨hname, -, hvalue⟩ := Seen.mk.inj h
          exact ⟨hname, bytesOf_injective hvalue⟩
      | file name' fileName' contentType' content' =>
          obtain ⟨m, hm⟩ := Option.isSome_iff_exists.mp hq
          have hfile := (Seen.mk.inj h).2.1
          rw [show MediaType.parse? (typeText fileName' contentType') = some m from hm] at hfile
          cases hfile
  | file name fileName contentType content =>
      obtain ⟨m, hm⟩ := Option.isSome_iff_exists.mp hp
      have hm : MediaType.parse? (typeText fileName contentType) = some m := hm
      cases q with
      | text name' value' =>
          have hfile := (Seen.mk.inj h).2.1
          rw [hm] at hfile
          cases hfile
      | file name' fileName' contentType' content' =>
          obtain ⟨m', hm'⟩ := Option.isSome_iff_exists.mp hq
          have hm' : MediaType.parse? (typeText fileName' contentType') = some m' := hm'
          obtain ⟨hname, hfile, hcontent⟩ := Seen.mk.inj h
          rw [hm, hm', Option.map_some, Option.map_some, Option.some.injEq, Prod.mk.injEq] at hfile
          refine ⟨hname, hfile.1, hcontent, ?_⟩
          rw [hm, hm', hfile.2]

theorem forall₂_alike (ps qs : List Part) (hps : ∀ p ∈ ps, Accepted p)
    (hqs : ∀ q ∈ qs, Accepted q) (h : ps.map seen = qs.map seen) : List.Forall₂ Alike ps qs := by
  induction ps generalizing qs with
  | nil =>
      rw [List.map_nil, eq_comm, List.map_eq_nil_iff] at h
      rw [h]
      exact .nil
  | cons p ps ih =>
      cases qs with
      | nil => cases h
      | cons q qs =>
          obtain ⟨hp, hps⟩ := List.forall_mem_cons.mp hps
          obtain ⟨hq, hqs⟩ := List.forall_mem_cons.mp hqs
          obtain ⟨hseen, hrest⟩ := List.cons.inj h
          exact .cons (alike_of_seen p q hp hq hseen) (ih qs hps hqs hrest)

theorem readSection?_sections (ps : List Part) (hps : ∀ p ∈ ps, Accepted p) :
    (ps.map sectionOf).mapM readSection? = some (ps.map seen) := by
  induction ps with
  | nil => rfl
  | cons p ps ih =>
      obtain ⟨hp, hps⟩ := List.forall_mem_cons.mp hps
      rw [List.map_cons, List.mapM_cons, readSection?_sectionOf p hp, ih hps]
      rfl

/-- **A body tells its parts.**  It is cut into one section for each part, in order; each
has the header lines of its part and no others, and name, kind, file name, media type and
content are read back from it.  So two forms with the same body are the same, but for the
spelling of content types. -/
theorem body_tells_parts (b : Boundary) (ps : List Part) (bs : List Block)
    (hbs : blocks ps = .ok bs) (hne : ps ≠ []) (hfree : ∀ p ∈ ps, ¬ dashes b <:+: p.content) :
    (∃ ss, sections? b (Transport.sendable b bs).octets = some ss
      ∧ List.Forall₂ (fun p s => readSection? s = some (seen p)
        ∧ ∃ lines, readLines? s = some (lines, p.content) ∧ HasHeaders p lines) ps ss)
    ∧ ∀ qs cs, blocks qs = .ok cs → qs ≠ [] → (∀ q ∈ qs, ¬ dashes b <:+: q.content) →
        (Transport.sendable b cs).octets = (Transport.sendable b bs).octets →
        List.Forall₂ Alike ps qs := by
  obtain ⟨hps, rfl⟩ := (blocks_eq_ok ps bs).mp hbs
  have hsections := sections?_encode b ps hne hfree
  constructor
  · refine ⟨ps.map sectionOf, hsections, ?_⟩
    rw [List.forall₂_map_right_iff, List.forall₂_same]
    intro p hp
    exact ⟨readSection?_sectionOf p (hps p hp), headerLines p, readLines?_sectionOf p,
      hasHeaders_headerLines p (hps p hp)⟩
  · intro qs cs hcs hqne hqfree hbody
    obtain ⟨hqs, rfl⟩ := (blocks_eq_ok qs cs).mp hcs
    have hbody : encode b.text (qs.map blockFor) = encode b.text (ps.map blockFor) := hbody
    -- the same body is cut into the same sections, and they are read alike
    have hsame : qs.map sectionOf = ps.map sectionOf := by
      have h := sections?_encode b qs hqne hqfree
      rw [hbody, hsections] at h
      exact (Option.some.inj h).symm
    have hread := readSection?_sections qs hqs
    rw [hsame, readSection?_sections ps hps] at hread
    exact forall₂_alike ps qs hps hqs (Option.some.inj hread)

/-- A form whose names and contents look like header lines and delimiters. -/
def disguised (contentType : String) : List Part :=
  [.text "%" "\r\n--",
    .file "a; b" "\"\r\n\r\n.txt" (some contentType) [0x0D, 0x0A, 0x2D, 0x2D]]

/-- A form whose names and contents look like header lines is cut into its two sections,
and has the same body only with the content type in other letters. -/
theorem body_tells_disguised_parts :
    (∃ ss, sections? ⟨1, 2, 3, 4⟩
        (Transport.sendable ⟨1, 2, 3, 4⟩ ((disguised "text/plain;x=1").map blockFor)).octets
          = some ss
      ∧ List.Forall₂ (fun p s => readSection? s = some (seen p)
        ∧ ∃ lines, readLines? s = some (lines, p.content) ∧ HasHeaders p lines)
          (disguised "text/plain;x=1") ss)
    ∧ List.Forall₂ Alike (disguised "text/plain;x=1") (disguised "Text/PLAIN;X=1") := by
  have h := body_tells_parts ⟨1, 2, 3, 4⟩ (disguised "text/plain;x=1") _ rfl
    (List.cons_ne_nil _ _) (by decide)
  exact ⟨h.1, h.2 (disguised "Text/PLAIN;X=1") _ rfl (List.cons_ne_nil _ _) (by decide) rfl⟩

end FormUpload.Multipart
