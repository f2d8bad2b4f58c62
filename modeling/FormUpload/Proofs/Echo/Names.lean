import FormUpload.Proofs.Echo.Parameters
import FormUpload.Proofs.Echo.Upload
import FormUpload.Proofs.Uploader.Submission

/-!
# Names on their way to the echo server

The server reads names from disposition lines that were written by other rules.  A name in
quotes is found, and its text is what was written (`name_of_quoted`).  A name that is written
encoded is not found (`name_of_encoded`).  A file name is found with its backslashes doubled
(`fileName_of_file`).  A backslash at the end of a name or a file name hides the quote behind
it.  And a name may hold what is taken for a parameter of its own (`Mimics`).

`reportedName` and `reportedFileName` say what the server reports of a part where nothing in
it is taken for a parameter.
-/

namespace FormUpload

open FormUpload.Text

/-- The file name of a part, if it has one. -/
def Part.fileName? : Part → Option String
  | .text _ _ => none
  | .file _ fileName _ _ => some fileName

namespace Echo

open FormUpload.Json (Value)
open FormUpload.Multipart
  (Boundary inNameSet isQuotedName nameParameter fileNameChar fileNameParameter dashes blockFor)

/-! ## §1. Names as they are written. -/

/-- A name as it is written. -/
def writtenName (p : Part) : List Char := percentEncode inNameSet p.name.toList

/-- A file name as it is written in its quotes. -/
def writtenFileName (p : Part) : List Char :=
  ((p.fileName?.map String.toList).getD []).flatMap fileNameChar

/-- No character that is encoded is written, the marks of the encoding apart. -/
theorem not_mem_writtenName (p : Part) (b : UInt8) (hb : b.toNat < 0x80)
    (hset : inNameSet (Char.ofNat b.toNat) = true) (hmark : Char.ofNat b.toNat ∉ percentMarks) :
    b ∉ Utf8.encode (writtenName p) := fun h =>
  not_mem_percentEncode inNameSet _ _ hset hmark (Utf8.mem_encode_ascii _ b hb h)

theorem quote_not_mem_writtenName (p : Part) : 0x22 ∉ Utf8.encode (writtenName p) :=
  not_mem_writtenName p 0x22 (by decide) (by decide) (by decide)

/-- A file name ends with its own last character, however that is written. -/
theorem getLast?_fileName (cs : List Char) :
    (cs.flatMap fileNameChar).getLast? = cs.getLast? := by
  induction cs using List.reverseRecOn with
  | nil => rfl
  | append_singleton cs c =>
      have hlast : (fileNameChar c).getLast? = some c := by
        unfold fileNameChar
        split <;> rfl
      rw [List.flatMap_append, List.flatMap_singleton, List.getLast?_append, hlast,
        List.getLast?_concat]
      rfl

/-- A character of a file name that needs no backslash is written without quotes and
backslashes. -/
theorem plain_encodeChar (c : Char) (hc : Multipart.isEscapedInFileName c = false) (b : UInt8)
    (hb : b ∈ Utf8.encodeChar c) : b ≠ 0x22 ∧ b ≠ 0x5C := by
  have hcs : ∀ d : Char, d.toNat < 0x80 → UInt8.ofNat d.toNat = b → d = c := by
    rintro d hd rfl
    have hmem : UInt8.ofNat d.toNat ∈ Utf8.encode [c] := by
      rw [Utf8.encode_cons, Utf8.encode_nil, List.append_nil]
      exact hb
    have hn := Utf8.toNat_ofNat d.toNat (by omega)
    have hd := Utf8.mem_encode_ascii [c] _ (by omega) hmem
    rw [hn, Char.ofNat_toNat, List.mem_singleton] at hd
    exact hd
  constructor
  · rintro rfl
    rw [← hcs '"' (by decide) rfl] at hc
    cases hc
  · rintro rfl
    rw [← hcs '\\' (by decide) rfl] at hc
    cases hc

/-- **A file name leaves its quotes open**: each quote in it has its backslash. -/
theorem staysOpen_fileName (cs : List Char) (last : Option UInt8) :
    StaysOpen last (Utf8.encode (cs.flatMap fileNameChar)) := by
  induction cs generalizing last with
  | nil => trivial
  | cons c cs ih =>
      rw [List.flatMap_cons, Utf8.encode_append]
      apply StaysOpen.append _ (ih _)
      unfold fileNameChar
      split
      · next hc =>
        -- a backslash, and a character of one octet
        have hone : c.toNat < 0x80 := by
          simp only [Multipart.isEscapedInFileName, Bool.or_eq_true, beq_iff_eq] at hc
          rcases hc with ((rfl | rfl) | rfl) | rfl <;> decide
        have hwritten : Utf8.encode ['\\', c] = [0x5C, UInt8.ofNat c.toNat] := by
          rw [Utf8.encode_cons, Utf8.encode_cons, Utf8.encode_nil, Utf8.encodeChar_ascii c hone]
          rfl
        rw [hwritten]
        exact ⟨fun h => absurd h (by decide), fun _ => rfl, trivial⟩
      · next hc =>
        apply staysOpen_of_not_mem
        rw [Utf8.encode_cons, Utf8.encode_nil, List.append_nil]
        exact fun h => (plain_encodeChar c (Bool.eq_false_iff.mpr hc) _ h).1 rfl

/-- A text with every backslash doubled. -/
def doubled (cs : List Char) : List Char :=
  cs.flatMap fun c => if c = '\\' then ['\\', '\\'] else [c]

/-- **What is read of a file name**: its quotes lose their backslashes, and its own
backslashes stay doubled. -/
theorem unescapeQuotes_fileName (cs : List Char) (hcs : Clean cs) :
    unescapeQuotes (Utf8.encode (cs.flatMap fileNameChar)) = Utf8.encode (doubled cs) := by
  induction cs with
  | nil => rfl
  | cons c cs ih =>
      obtain ⟨hc, hcs⟩ := List.forall_mem_cons.mp hcs
      have ih := ih hcs
      have hnext := (staysOpen_fileName cs none).head
      have hdoubled : doubled (c :: cs)
          = (if c = '\\' then ['\\', '\\'] else [c]) ++ doubled cs := rfl
      rw [hdoubled, List.flatMap_cons, Utf8.encode_append, Utf8.encode_append, ← ih]
      by_cases hslash : c = '\\'
      -- a backslash is written before another one, and neither stands before a quote
      · have htwo : Utf8.encode (fileNameChar c) = [0x5C, 0x5C] := by
          rw [hslash]
          decide
        have hread : Utf8.encode ['\\', '\\'] = [0x5C, 0x5C] := by decide
        rw [htwo, if_pos hslash, hread, List.cons_append, List.cons_append, List.nil_append,
          unescapeQuotes_cons _ _ (fun _ => by simp), unescapeQuotes_cons _ _ (fun _ => hnext)]
        rfl
      · rw [if_neg hslash]
        by_cases hquote : c = '"'
        · have htwo : Utf8.encode (fileNameChar c) = [0x5C, 0x22] := by
            rw [hquote]
            decide
          have hread : Utf8.encode [c] = [0x22] := by
            rw [hquote]
            decide
          rw [htwo, hread]
          exact unescapeQuotes_escape [] _ List.not_mem_nil
        -- no line end is in the name, so every other character stands for itself
        · have hplain : Multipart.isEscapedInFileName c = false := by
            have hends : c ≠ '\r' ∧ c ≠ '\n' := by
              constructor
              · rintro rfl
                cases hc
              · rintro rfl
                cases hc
            simp only [Multipart.isEscapedInFileName, Bool.or_eq_false_iff, beq_eq_false_iff_ne]
            exact ⟨⟨⟨hslash, hquote⟩, hends.1⟩, hends.2⟩
          have hone : fileNameChar c = [c] := by
            unfold fileNameChar
            rw [hplain, if_neg Bool.false_ne_true]
          rw [hone]
          apply unescapeQuotes_append
          rw [Utf8.encode_cons, Utf8.encode_nil, List.append_nil]
          exact fun h => (plain_encodeChar c hplain _ h).2 rfl

/-! ## §2. Disposition lines. -/

/-- The disposition line up to the name. -/
def upToName (p : Part) : List Char := "form-data; ".toList ++ nameParameter p.name.toList

/-- What follows the name in a disposition line. -/
def afterName : Part → List Char
  | .text _ _ => []
  | .file _ fileName _ _ => [';', ' '] ++ fileNameParameter fileName.toList

theorem dispositionText_eq (p : Part) : dispositionText p = upToName p ++ afterName p := by
  cases p with
  | text name value =>
      show _ = _ ++ []
      rw [List.append_nil]
      rfl
  | file name fileName contentType content => exact (List.append_assoc _ _ _).symm

theorem encode_start : Utf8.encode "form-data; ".toList = bytesOf "form-data;" ++ [0x20] := by
  decide

theorem encode_quote : Utf8.encode ['"'] = [0x22] := by decide

/-- The octets up to a name in quotes. -/
theorem encode_upToName_quoted (p : Part) (hq : isQuotedName p.name.toList = true) :
    Utf8.encode (upToName p)
      = bytesOf "form-data;" ++ 0x20 :: (bytesOf "name="
          ++ 0x22 :: (Utf8.encode (writtenName p) ++ [0x22])) := by
  have hname : Utf8.encode Multipart.quotedNameStart = bytesOf "name=" ++ [0x22] := by decide
  unfold upToName nameParameter
  rw [if_pos hq, Utf8.encode_append, Utf8.encode_append, Utf8.encode_append, encode_start, hname,
    encode_quote]
  simp [writtenName]

/-- The octets up to a name that is not in quotes. -/
theorem encode_upToName_encoded (p : Part) (hq : isQuotedName p.name.toList = false) :
    Utf8.encode (upToName p)
      = bytesOf "form-data; name*=utf-8'" ++ 0x27 :: Utf8.encode (writtenName p) := by
  have hstart : Utf8.encode "form-data; ".toList ++ Utf8.encode Multipart.encodedNameStart
      = bytesOf "form-data; name*=utf-8'" ++ [0x27] := by decide
  unfold upToName nameParameter
  rw [hq, if_neg Bool.false_ne_true, Utf8.encode_append, Utf8.encode_append, ← List.append_assoc,
    hstart, List.append_assoc]
  rfl

theorem encode_afterName_file (name fileName : String) (contentType : Option String)
    (content : Bytes) :
    Utf8.encode (afterName (.file name fileName contentType content))
      = 0x3B :: 0x20 :: (bytesOf "filename="
          ++ 0x22 :: (Utf8.encode (fileName.toList.flatMap fileNameChar) ++ [0x22])) := by
  have hmark : Utf8.encode [';', ' '] = [0x3B, 0x20] := by decide
  have hstart : Utf8.encode Multipart.fileNameStart = bytesOf "filename=" ++ [0x22] := by decide
  unfold afterName fileNameParameter
  rw [Utf8.encode_append, Utf8.encode_append, Utf8.encode_append, hmark, hstart, encode_quote]
  simp

/-- No disposition line begins with a key. -/
theorem starts_otherwise (s : Bytes) (hs : bytesOf "form-data;" <+: s) :
    ¬ bytesOf "name=" <+: s ∧ ¬ bytesOf "filename=" <+: s := by
  constructor
  · exact fun h => absurd (List.prefix_or_prefix_of_prefix hs h) (by decide)
  · exact fun h => absurd (List.prefix_or_prefix_of_prefix hs h) (by decide)

theorem prefix_upToName (p : Part) : bytesOf "form-data;" <+: Utf8.encode (upToName p) := by
  unfold upToName
  rw [Utf8.encode_append, encode_start, List.append_assoc]
  exact List.prefix_append _ _

theorem rdropWhile_quote (s : Bytes) :
    (s ++ [0x22]).rdropWhile Http.isLineBlank = s ++ [0x22] :=
  rdropWhile_append_cons _ s 0x22 [] (by decide)

theorem rdropWhile_upToName (p : Part) :
    (Utf8.encode (upToName p)).rdropWhile Http.isLineBlank = Utf8.encode (upToName p) := by
  cases hq : isQuotedName p.name.toList with
  | true =>
      have hend : Utf8.encode (upToName p) = (bytesOf "form-data;" ++ 0x20 :: (bytesOf "name="
          ++ 0x22 :: Utf8.encode (writtenName p))) ++ [0x22] := by
        rw [encode_upToName_quoted p hq]
        simp only [List.append_assoc, List.cons_append]
      rw [hend, rdropWhile_quote]
  | false =>
      -- an encoded name holds no blank
      have hclean : (Utf8.encode (writtenName p)).rdropWhile Http.isLineBlank
          = Utf8.encode (writtenName p) := by
        rw [List.rdropWhile_eq_self_iff]
        intro hne hblank
        have hlast := List.getLast_mem hne
        unfold Http.isLineBlank at hblank
        simp only [Bool.or_eq_true, beq_iff_eq] at hblank
        rcases hblank with hblank | hblank
        · rw [hblank] at hlast
          exact not_mem_writtenName p 0x20 (by decide) (by decide) (by decide) hlast
        · rw [hblank] at hlast
          exact not_mem_writtenName p 0x09 (by decide) (by decide) (by decide) hlast
      rw [encode_upToName_encoded p hq, rdropWhile_append_cons _ _ _ _ (by decide), hclean]

/-- **Nothing of a disposition line is lost with blanks at its end**: it has none. -/
theorem rdropWhile_dispositionText (p : Part) :
    (Utf8.encode (dispositionText p)).rdropWhile Http.isLineBlank
      = Utf8.encode (dispositionText p) := by
  rw [dispositionText_eq]
  cases p with
  | text name value =>
      have hend : upToName (.text name value) ++ afterName (.text name value)
          = upToName (.text name value) := List.append_nil _
      rw [hend, rdropWhile_upToName]
  | file name fileName contentType content =>
      have hend : upToName (.file name fileName contentType content)
          ++ afterName (.file name fileName contentType content)
            = (upToName (.file name fileName contentType content) ++ [';', ' ']
              ++ (Multipart.fileNameStart ++ fileName.toList.flatMap fileNameChar)) ++ ['"'] := by
        simp only [afterName, fileNameParameter, List.append_assoc]
      rw [hend, Utf8.encode_append, encode_quote, rdropWhile_quote]

theorem prefix_dispositionText (p : Part) :
    bytesOf "form-data;" <+: Utf8.encode (dispositionText p) := by
  rw [dispositionText_eq, Utf8.encode_append]
  exact (prefix_upToName p).trans (List.prefix_append _ _)

theorem first?_disposition (p : Part) :
    (fieldHeaders p).first? "content-disposition" = some (Utf8.encode (dispositionText p)) := by
  unfold fieldHeaders Http.Headers.first?
  rw [rdropWhile_dispositionText]
  simp

theorem name_fieldOf (p : Part) :
    (fieldOf p).name = parameter? "name=" (Utf8.encode (dispositionText p)) := by
  show parameter? "name=" (((fieldHeaders p).first? "content-disposition").getD []) = _
  rw [first?_disposition]
  rfl

theorem fileName_fieldOf (p : Part) :
    (fieldOf p).fileName = parameter? "filename=" (Utf8.encode (dispositionText p)) := by
  show parameter? "filename=" (((fieldHeaders p).first? "content-disposition").getD []) = _
  rw [first?_disposition]
  rfl

/-! ## §3. Names. -/

/-- Whether something in what is written of a part is taken for a name. -/
def MimicsName (p : Part) : Prop :=
  Mimics (bytesOf "name=") (Utf8.encode (writtenName p))
    ∨ Mimics (bytesOf "name=") (Utf8.encode (writtenFileName p))

/-- Whether something in a written name is taken for a file name. -/
def MimicsFileName (p : Part) : Prop := Mimics (bytesOf "filename=") (Utf8.encode (writtenName p))

instance : DecidablePred MimicsName := fun _ => inferInstanceAs (Decidable (_ ∨ _))

instance : DecidablePred MimicsFileName := fun _ => inferInstanceAs (Decidable (Mimics _ _))

/-- The name that the server reports for a part.  One that is written encoded is not found,
and a backslash at its end hides the quote behind it. -/
def reportedName (p : Part) : Option String :=
  if isQuotedName p.name.toList then
    if (writtenName p).getLast? = some '\\' then
      if p.isFile then some (String.ofList ((writtenName p).dropLast ++ "\"; filename=".toList))
      else none
    else some (String.ofList (writtenName p))
  else none

/-- A name in quotes is found: it is the first parameter. -/
theorem parameter?_quoted (p : Part) (hq : isQuotedName p.name.toList = true) :
    parameter? "name=" (Utf8.encode (dispositionText p))
      = parameterValue? (0x22 :: (Utf8.encode (writtenName p)
          ++ 0x22 :: Utf8.encode (afterName p))) := by
  have hline : Utf8.encode (dispositionText p) = bytesOf "form-data;" ++ 0x20 :: (bytesOf "name="
      ++ 0x22 :: (Utf8.encode (writtenName p) ++ 0x22 :: Utf8.encode (afterName p))) := by
    rw [dispositionText_eq, Utf8.encode_append, encode_upToName_quoted p hq]
    simp only [List.append_assoc, List.cons_append, List.nil_append]
  unfold parameter?
  rw [hline]
  exact parameterFrom?_found _ isKey_name _ _ _ _ (by decide) (by decide) (Nat.lt_succ_self _)
    (by decide)

/-- A name that ends with a backslash goes on to the quote that opens the file name. -/
theorem parameterValue?_overrun (start : List Char) (hstart : 0x22 ∉ Utf8.encode start)
    (t : Bytes) :
    parameterValue? (0x22 :: (Utf8.encode start
        ++ 0x5C :: 0x22 :: (bytesOf "; filename=" ++ 0x22 :: t)))
      = some (String.ofList (start ++ "\"; filename=".toList)) := by
  have hsplit : Utf8.encode start ++ 0x5C :: 0x22 :: (bytesOf "; filename=" ++ 0x22 :: t)
      = (Utf8.encode start ++ 0x5C :: 0x22 :: bytesOf "; filename=") ++ 0x22 :: t := by
    simp only [List.append_assoc, List.cons_append]
  have hopen : StaysOpen none (Utf8.encode start ++ 0x5C :: 0x22 :: bytesOf "; filename=") :=
    (staysOpen_of_not_mem none _ hstart).append
      ⟨fun h => absurd h (by decide), fun _ => rfl, staysOpen_of_not_mem _ _ (by decide)⟩
  have hend : (Utf8.encode start ++ 0x5C :: 0x22 :: bytesOf "; filename=").getLast?
      ≠ some 0x5C := by
    rw [List.getLast?_append_of_ne_nil _ (by decide)]
    decide
  have htail : 0x22 :: bytesOf "; filename=" = Utf8.encode "\"; filename=".toList := by decide
  rw [hsplit, parameterValue?_closed _ _ hopen hend, unescapeQuotes_escape _ _ hstart,
    unescapeQuotes_of_not_mem _ (by decide), htail, ← Utf8.encode_append, string?_encode]

/-- **A name in quotes is reported as it was written**, unless it ends with a backslash. -/
theorem name_of_quoted (p : Part) (hq : isQuotedName p.name.toList = true) :
    (fieldOf p).name = reportedName p := by
  have hopen := staysOpen_of_not_mem none _ (quote_not_mem_writtenName p)
  have hends := Utf8.getLast?_encode (writtenName p) '\\' (by decide)
  rw [name_fieldOf, parameter?_quoted p hq]
  unfold reportedName
  rw [if_pos hq]
  by_cases hslash : (writtenName p).getLast? = some '\\'
  · rw [if_pos hslash]
    have hlast := hends.mpr hslash
    obtain ⟨start, hstart⟩ := List.getLast?_eq_some_iff.mp hslash
    -- the quote behind the backslash does not close the name
    have hquote : StaysOpen none (Utf8.encode (writtenName p) ++ [0x22]) := by
      apply hopen.append
      rw [hlast]
      exact ⟨fun _ => rfl, trivial⟩
    cases p with
    | text name value => exact parameterValue?_open _ hquote
    | file name fileName contentType content =>
        have hslashed : Utf8.encode ['\\'] = [0x5C] := by decide
        have hmark : bytesOf "; filename=" = 0x3B :: 0x20 :: bytesOf "filename=" := by decide
        have hstarted : 0x22 ∉ Utf8.encode start := fun h =>
          quote_not_mem_writtenName (.file name fileName contentType content) (by
            rw [hstart, Utf8.encode_append]
            exact List.mem_append_left _ h)
        have hread := parameterValue?_overrun start hstarted
          (Utf8.encode (fileName.toList.flatMap fileNameChar) ++ [0x22])
        rw [encode_afterName_file, hstart, Utf8.encode_append, hslashed, List.append_assoc,
          List.singleton_append, List.dropLast_concat]
        rw [hmark] at hread
        exact hread
  · rw [if_neg hslash, parameterValue?_closed _ _ hopen fun h => hslash (hends.mp h),
      unescapeQuotes_of_not_mem _ (quote_not_mem_writtenName p), string?_encode]

/-- **A name that is written encoded is not reported.** -/
theorem name_of_encoded (p : Part) (hq : isQuotedName p.name.toList = false)
    (hm : ¬ MimicsName p) : (fieldOf p).name = none := by
  obtain ⟨hname, hfile⟩ := not_or.mp hm
  rw [name_fieldOf]
  apply parameterFrom?_none _ isKey_name _ _ _
    (starts_otherwise _ (prefix_dispositionText p)).1 (Nat.lt_succ_self _)
  rw [dispositionText_eq, Utf8.encode_append, encode_upToName_encoded p hq, List.append_assoc,
    List.cons_append]
  intro h
  -- the quotes and the semicolon part what can be taken for a name
  rcases isKey_name.mimics_mark _ _ _ (by decide) (by decide) h with h | h
  · exact absurd h (by decide)
  cases p with
  | text name value =>
      have hend : Utf8.encode (writtenName (.text name value))
          ++ Utf8.encode (afterName (.text name value)) = _ := List.append_nil _
      rw [hend] at h
      exact hname h
  | file name fileName contentType content =>
      rw [encode_afterName_file] at h
      rcases isKey_name.mimics_separator _ _ _ (by decide) h with h | h
      · exact hname h
      have hstart : ∀ t, 0x3B :: 0x20 :: (bytesOf "filename=" ++ 0x22 :: t)
          = bytesOf "; filename=" ++ 0x22 :: t := fun _ => rfl
      rw [hstart] at h
      rcases isKey_name.mimics_mark _ _ _ (by decide) (by decide) h with h | h
      · exact absurd h (by decide)
      · rcases isKey_name.mimics_mark _ _ [] (by decide) (by decide) h with h | h
        · exact hfile h
        · exact absurd h (by decide)

/-! ## §4. File names. -/

/-- The file name that the server reports for a part.  A backslash at its end hides the
quote that closes it. -/
def reportedFileName (p : Part) : Option String :=
  p.fileName?.bind fun fileName =>
    if fileName.toList.getLast? = some '\\' then none
    else some (String.ofList (doubled fileName.toList))

/-- Nothing before a file name is taken for one. -/
theorem not_mimics_upToName (p : Part) (hm : ¬ MimicsFileName p) (rest : Bytes)
    (hrest : rest = [] ∨ rest = [0x3B]) :
    ¬ Mimics (bytesOf "filename=") (Utf8.encode (upToName p) ++ rest) := by
  have hmark : ¬ Mimics (bytesOf "filename=") rest := by
    rcases hrest with rfl | rfl <;> decide
  intro h
  cases hq : isQuotedName p.name.toList with
  | true =>
      have hline : Utf8.encode (upToName p) ++ rest = bytesOf "form-data; name="
          ++ 0x22 :: (Utf8.encode (writtenName p) ++ 0x22 :: rest) := by
        have hstart : bytesOf "form-data; name="
            = bytesOf "form-data;" ++ 0x20 :: bytesOf "name=" := by
          decide
        rw [encode_upToName_quoted p hq, hstart]
        simp only [List.append_assoc, List.cons_append, List.nil_append]
      rw [hline] at h
      rcases isKey_fileName.mimics_mark _ _ _ (by decide) (by decide) h with h | h
      · exact absurd h (by decide)
      · rcases isKey_fileName.mimics_mark _ _ _ (by decide) (by decide) h with h | h
        · exact hm h
        · exact hmark h
  | false =>
      rw [encode_upToName_encoded p hq, List.append_assoc, List.cons_append] at h
      rcases isKey_fileName.mimics_mark _ _ _ (by decide) (by decide) h with h | h
      · exact absurd h (by decide)
      · rcases hrest with rfl | rfl
        · rw [List.append_nil] at h
          exact hm h
        · rcases isKey_fileName.mimics_separator _ _ _ (by decide) h with h | h
          · exact hm h
          · exact hmark h

/-- **No file name is reported for a text.** -/
theorem fileName_of_text (name value : String) (hm : ¬ MimicsFileName (.text name value)) :
    (fieldOf (.text name value)).fileName = none := by
  have hline : Utf8.encode (dispositionText (.text name value))
      = Utf8.encode (upToName (.text name value)) ++ [] := by
    rw [dispositionText_eq, Utf8.encode_append]
    rfl
  rw [fileName_fieldOf]
  apply parameterFrom?_none _ isKey_fileName _ _ _
    (starts_otherwise _ (prefix_dispositionText _)).2 (Nat.lt_succ_self _)
  rw [hline]
  exact not_mimics_upToName _ hm [] (Or.inl rfl)

/-- **A file name is reported with its backslashes doubled**, unless it ends with one. -/
theorem fileName_of_file (name fileName : String) (contentType : Option String) (content : Bytes)
    (hclean : Clean fileName.toList)
    (hm : ¬ MimicsFileName (.file name fileName contentType content)) :
    (fieldOf (.file name fileName contentType content)).fileName
      = reportedFileName (.file name fileName contentType content) := by
  have hline : Utf8.encode (dispositionText (.file name fileName contentType content))
      = (Utf8.encode (upToName (.file name fileName contentType content)) ++ [0x3B])
        ++ 0x20 :: (bytesOf "filename="
          ++ 0x22 :: (Utf8.encode (fileName.toList.flatMap fileNameChar) ++ [0x22])) := by
    rw [dispositionText_eq, Utf8.encode_append, encode_afterName_file]
    simp only [List.append_assoc, List.cons_append, List.nil_append]
  have hprefix := (prefix_upToName (.file name fileName contentType content)).trans
    (List.prefix_append _ [0x3B])
  have hfound : parameter? "filename="
      (Utf8.encode (dispositionText (.file name fileName contentType content)))
        = parameterValue? (0x22 :: (Utf8.encode (fileName.toList.flatMap fileNameChar)
            ++ [0x22])) := by
    unfold parameter?
    rw [hline]
    exact parameterFrom?_found _ isKey_fileName _ _ _ _
      (not_mimics_upToName _ hm [0x3B] (Or.inr rfl)) (starts_otherwise _ hprefix).2
      (Nat.lt_succ_self _) (by decide)
  have hopen := staysOpen_fileName fileName.toList none
  have hends := Utf8.getLast?_encode (fileName.toList.flatMap fileNameChar) '\\' (by decide)
  rw [getLast?_fileName] at hends
  rw [fileName_fieldOf, hfound]
  show _ = if fileName.toList.getLast? = some '\\' then none
    else some (String.ofList (doubled fileName.toList))
  by_cases hslash : fileName.toList.getLast? = some '\\'
  -- the last quote follows a backslash
  · rw [if_pos hslash]
    apply parameterValue?_open
    apply hopen.append
    rw [hends.mpr hslash]
    exact ⟨fun _ => rfl, trivial⟩
  · rw [if_neg hslash, parameterValue?_closed _ _ hopen fun h => hslash (hends.mp h),
      unescapeQuotes_fileName _ hclean, string?_encode]

/-! ## §5. Other parameters. -/

theorem infix_writtenName (p : Part) :
    Utf8.encode (writtenName p) <:+: Utf8.encode (dispositionText p) := by
  have hname : Utf8.encode (writtenName p) <:+: Utf8.encode (upToName p) := by
    cases hq : isQuotedName p.name.toList with
    | true =>
        refine ⟨bytesOf "form-data;" ++ 0x20 :: (bytesOf "name=" ++ [0x22]), [0x22], ?_⟩
        rw [encode_upToName_quoted p hq]
        simp only [List.append_assoc, List.cons_append, List.nil_append]
    | false =>
        refine ⟨bytesOf "form-data; name*=utf-8'" ++ [0x27], [], ?_⟩
        rw [encode_upToName_encoded p hq]
        simp only [List.append_assoc, List.cons_append, List.nil_append, List.append_nil]
  rw [dispositionText_eq, Utf8.encode_append]
  exact hname.trans (List.prefix_append _ _).isInfix

theorem infix_writtenFileName (p : Part) :
    Utf8.encode (writtenFileName p) <:+: Utf8.encode (dispositionText p) := by
  cases p with
  | text name value => exact List.nil_infix
  | file name fileName contentType content =>
      rw [dispositionText_eq, Utf8.encode_append, encode_afterName_file]
      refine ⟨Utf8.encode (upToName (.file name fileName contentType content))
        ++ 0x3B :: 0x20 :: (bytesOf "filename=" ++ [0x22]), [0x22], ?_⟩
      simp only [List.append_assoc, List.cons_append, List.nil_append]
      rfl

/-- **What is taken for a name is read as one**, where it comes first. -/
theorem name_of_mimic (p : Part) (hm : MimicsName p) :
    ∃ t, FirstParameter (bytesOf "name=") (Utf8.encode (dispositionText p)) t
      ∧ (fieldOf p).name = parameterValue? t := by
  have hline : Mimics (bytesOf "name=") (Utf8.encode (dispositionText p)) := by
    rcases hm with hm | hm
    · exact hm.mono (infix_writtenName p)
    · exact hm.mono (infix_writtenFileName p)
  obtain ⟨t, ht⟩ := exists_first _ isKey_name _ hline
    (starts_otherwise _ (prefix_dispositionText p)).1
  rw [name_fieldOf]
  exact ⟨t, ht, parameterFrom?_first _ isKey_name _ _ t ht (Nat.lt_succ_self _)⟩

theorem fileName_of_mimic (p : Part) (hm : MimicsFileName p) :
    ∃ t, FirstParameter (bytesOf "filename=") (Utf8.encode (dispositionText p)) t
      ∧ (fieldOf p).fileName = parameterValue? t := by
  obtain ⟨t, ht⟩ := exists_first _ isKey_fileName _ (Mimics.mono hm (infix_writtenName p))
    (starts_otherwise _ (prefix_dispositionText p)).2
  rw [fileName_fieldOf]
  exact ⟨t, ht, parameterFrom?_first _ isKey_fileName _ _ t ht (Nat.lt_succ_self _)⟩

/-! ## §6. What is told of names. -/

/-- What an item tells of the names of a part: what is read of them where nothing else is taken
for them, the value of what is taken for them otherwise, and plain names as they are. -/
structure Named (p : Part) (item : Value) : Prop where
  name : isQuotedName p.name.toList = true ∨ ¬ MimicsName p →
    item.get? "name" = some (textOrNull (reportedName p))
  fileName : ¬ MimicsFileName p → item.get? "fileName" = some (textOrNull (reportedFileName p))
  otherName : MimicsName p →
    ∃ t, FirstParameter (bytesOf "name=") (Utf8.encode (dispositionText p)) t
      ∧ item.get? "name" = some (textOrNull (parameterValue? t))
  otherFileName : MimicsFileName p →
    ∃ t, FirstParameter (bytesOf "filename=") (Utf8.encode (dispositionText p)) t
      ∧ item.get? "fileName" = some (textOrNull (parameterValue? t))
  sameName : writtenName p = p.name.toList → p.name.toList.getLast? ≠ some '\\' →
    item.get? "name" = some (.string p.name)
  sameFileName : ¬ MimicsFileName p → (∀ f, p.fileName? = some f → '\\' ∉ f.toList) →
    item.get? "fileName" = some (textOrNull p.fileName?)

theorem doubled_of_not_mem (cs : List Char) (h : '\\' ∉ cs) : doubled cs = cs := by
  induction cs with
  | nil => rfl
  | cons c cs ih =>
      rw [List.mem_cons, not_or] at h
      have hcons : doubled (c :: cs)
          = (if c = '\\' then ['\\', '\\'] else [c]) ++ doubled cs := rfl
      rw [hcons, if_neg (Ne.symm h.1), ih h.2]
      rfl

theorem isQuotedName_of_plain (p : Part) (hp : writtenName p = p.name.toList) :
    isQuotedName p.name.toList = true := by
  unfold isQuotedName
  rw [Bool.or_eq_true, beq_iff_eq]
  exact Or.inl hp

/-- **A name that needs no encoding stays the same**, unless it ends with a backslash. -/
theorem reportedName_of_plain (p : Part) (hp : writtenName p = p.name.toList)
    (hlast : p.name.toList.getLast? ≠ some '\\') : reportedName p = some p.name := by
  unfold reportedName
  rw [if_pos (isQuotedName_of_plain p hp), hp, if_neg hlast, String.ofList_toList]

/-- **A file name without backslashes stays the same.** -/
theorem reportedFileName_of_plain (p : Part) (hp : ∀ f, p.fileName? = some f → '\\' ∉ f.toList) :
    reportedFileName p = p.fileName? := by
  unfold reportedFileName
  cases hf : p.fileName? with
  | none => rfl
  | some f =>
      have hnot := hp f hf
      have hlast : f.toList.getLast? ≠ some '\\' := fun h => hnot (List.mem_of_getLast? h)
      rw [Option.bind_some, if_neg hlast, doubled_of_not_mem _ hnot, String.ofList_toList]

theorem get?_name (f : Field) : f.document.get? "name" = some (textOrNull f.name) := by
  rw [document_eq]
  simp [Value.get?]

theorem get?_fileName (f : Field) :
    f.document.get? "fileName" = some (textOrNull f.fileName) := by
  rw [document_eq]
  simp [Value.get?]

theorem named_document (p : Part) (hp : PlainName p) : Named p (fieldOf p).document := by
  have hname := get?_name (fieldOf p)
  have hfileName := get?_fileName (fieldOf p)
  have hreported : isQuotedName p.name.toList = true ∨ ¬ MimicsName p →
      (fieldOf p).name = reportedName p := by
    intro h
    cases hq : isQuotedName p.name.toList with
    | true => exact name_of_quoted p hq
    | false =>
        have hm : ¬ MimicsName p := h.resolve_left (Bool.eq_false_iff.mp hq)
        unfold reportedName
        rw [name_of_encoded p hq hm, hq, if_neg Bool.false_ne_true]
  have hreportedFile : ¬ MimicsFileName p → (fieldOf p).fileName = reportedFileName p := by
    intro hm
    cases p with
    | text name value => exact fileName_of_text name value hm
    | file name fileName contentType content => exact fileName_of_file _ _ _ _ hp hm
  refine ⟨fun h => ?_, fun hm => ?_, fun hm => ?_, fun hm => ?_, fun hplain hlast => ?_,
    fun hm hplain => ?_⟩
  · rw [hname, hreported h]
  · rw [hfileName, hreportedFile hm]
  · obtain ⟨t, ht, hread⟩ := name_of_mimic p hm
    exact ⟨t, ht, by rw [hname, hread]⟩
  · obtain ⟨t, ht, hread⟩ := fileName_of_mimic p hm
    exact ⟨t, ht, by rw [hfileName, hread]⟩
  · rw [hname, hreported (Or.inl (isQuotedName_of_plain p hplain)),
      reportedName_of_plain p hplain hlast]
    rfl
  · rw [hfileName, hreportedFile hm, reportedFileName_of_plain p hplain]

/-! ## §7. Uploads. -/

/-- **The first exchange of an upload brings what the server says of the form.** -/
theorem Posted.first_exchange {b : Boundary} {form : Form} (h : Posted b form.parts)
    (u : Uploader) (port : Nat) (hport : port ≤ 65535)
    (hendpoint : readEndpoint (successUrl port) = .ok u.lifecycle.endpoint) :
    ∃ exchange later, (u.submit network b form).2.exchanges = exchange :: later
      ∧ exchange.delivery
        = .received 0 (Reply.document 200 (report b form.parts)).octets false := by
  rw [readEndpoint_successUrl port hport] at hendpoint
  have hurl := Except.ok.inj hendpoint
  have hblocks : Multipart.blocks form.parts = .ok (form.parts.map blockFor) :=
    (Multipart.blocks_eq_ok form.parts _).mpr ⟨h.accepted, rfl⟩
  have hsent : (u.submit network b form).2.exchanges
      = (Http.follow ⟨u.transport.userAgent, u.transport.settings.timeout⟩ network
          (Url.localUrl (some port) successRoute).text Http.redirectLimit 0
          (successHop port (Transport.sendable b (form.parts.map blockFor)))).exchanges := by
    have hturn := u.exchanges_turn ⟨network, b, form⟩
    have hexchanges := u.transport.exchanges_exchange network b u.lifecycle.endpoint form.parts _
      hblocks
    rw [← send_successUrl _ _ port hport, hurl]
    exact hturn.trans hexchanges
  obtain ⟨later, hlater⟩ := (Http.way_follow ⟨u.transport.userAgent, u.transport.settings.timeout⟩
    network (Url.localUrl (some port) successRoute).text Http.redirectLimit 0
    (successHop port (Transport.sendable b (form.parts.map blockFor)))).head
  have hdelivery := h.network_report u.transport.userAgent port hport
  rw [← octets_document] at hdelivery
  exact ⟨_, later, hsent.trans hlater, hdelivery⟩

/-- **Names are reported as they are read.**  The server reports every part of a form, in order,
by the name and the file name that it reads in the part's disposition line, and an upload with
time for it succeeds with that report. -/
theorem server_tells_names (u : Uploader) (port : Nat) (hport : port ≤ 65535)
    (hendpoint : readEndpoint (successUrl port) = .ok u.lifecycle.endpoint) (b : Boundary)
    (form : Form) (bs : List Multipart.Block) (hbs : Multipart.blocks form.parts = .ok bs)
    (hne : form.parts ≠ []) (hnames : ∀ p ∈ form.parts, PlainName p)
    (hfree : ∀ p ∈ form.parts, ¬ dashes b <:+: p.content)
    (hsize : (Multipart.encode b.text bs).length ≤ bodyLimit) :
    ∃ exchange later v items, (u.submit network b form).2.exchanges = exchange :: later
      ∧ exchange.delivery = .received 0 (Reply.document 200 v).octets false
      ∧ (u.transport.settings.timeout ≠ some 0 →
        ∃ r, (u.submit network b form).2.outcome = some (.success r) ∧ r.data = v)
      ∧ (v.get? "result").bind (·.get? "parts") = some (.array items)
      ∧ List.Forall₂ Named form.parts items := by
  obtain ⟨haccepted, rfl⟩ := (Multipart.blocks_eq_ok form.parts bs).mp hbs
  have hposted : Posted b form.parts := ⟨haccepted, hne, hnames, hfree, hsize⟩
  obtain ⟨exchange, later, hexchanges, hdelivery⟩ := hposted.first_exchange u port hport hendpoint
  refine ⟨exchange, later, report b form.parts, _, hexchanges, hdelivery, fun hlimit => ?_,
    parts_report b form.parts, ?_⟩
  · exact ⟨_, (hposted.submit u port hport hendpoint hlimit).1, rfl⟩
  · rw [List.forall₂_map_right_iff, List.forall₂_same]
    exact fun p hp => named_document p (hnames p hp)

/-- A form with a name that needs no encoding, one that does, and a file name with quotes and
a backslash. -/
def namedForm : Form :=
  ⟨[.text "user[name]" "x", .text "a b" "y",
    .file "photo" "C:\\my \"cat\".png" (some "image/png") [0x7A]]⟩

/-- The first name and the quotes arrive; the second name does not, and the backslash is
doubled. -/
theorem server_tells_named_form :
    ∃ v first second third,
      ((localUploader 8080).submit network ⟨1, 2, 3, 4⟩ namedForm).2.exchanges.head?.map
          (·.delivery) = some (.received 0 (Reply.document 200 v).octets false)
      ∧ (∃ r, ((localUploader 8080).submit network ⟨1, 2, 3, 4⟩ namedForm).2.outcome
          = some (.success r) ∧ r.data = v)
      ∧ (v.get? "result").bind (·.get? "parts") = some (.array [first, second, third])
      ∧ first.get? "name" = some (.string "user[name]")
      ∧ first.get? "fileName" = some .null
      ∧ second.get? "name" = some .null
      ∧ third.get? "name" = some (.string "photo")
      ∧ third.get? "fileName" = some (.string "C:\\\\my \"cat\".png") := by
  have hblocks : Multipart.blocks namedForm.parts = .ok (namedForm.parts.map blockFor) :=
    (Multipart.blocks_eq_ok _ _).mpr ⟨by decide, rfl⟩
  obtain ⟨exchange, later, v, items, hexchanges, hdelivery, hsuccess, hparts, htells⟩ :=
    server_tells_names (localUploader 8080) 8080 (by decide)
      (readEndpoint_successUrl 8080 (by decide)) ⟨1, 2, 3, 4⟩ namedForm _ hblocks (by decide)
      (by decide) (by decide) (by decide +kernel)
  obtain ⟨first, _, hfirst, hlater, rfl⟩ := List.forall₂_cons_left_iff.mp htells
  obtain ⟨second, _, hsecond, hlast, rfl⟩ := List.forall₂_cons_left_iff.mp hlater
  obtain ⟨third, _, hthird, hnone, rfl⟩ := List.forall₂_cons_left_iff.mp hlast
  rw [List.forall₂_nil_left_iff.mp hnone] at hparts
  have hlost : reportedName (.text "a b" "y") = none := by decide
  have hdoubled : reportedFileName (.file "photo" "C:\\my \"cat\".png" (some "image/png") [0x7A])
      = some "C:\\\\my \"cat\".png" := by
    decide
  refine ⟨v, first, second, third, ?_, hsuccess (by decide), hparts,
    hfirst.sameName (by decide) (by decide), ?_, ?_, hthird.sameName (by decide) (by decide), ?_⟩
  · rw [hexchanges, List.head?_cons, Option.map_some, hdelivery]
  · rw [hfirst.fileName (by decide)]
    rfl
  · rw [hsecond.name (Or.inr (by decide)), hlost]
    rfl
  · rw [hthird.fileName (by decide), hdoubled]
    rfl

/-- A form with a name that is written encoded, a backslash in a file name, and a name that
holds what is taken for a file name. -/
def changedForm : Form :=
  ⟨[.text "a b" "x", .file "f" "a\\b" none [0x78], .text "a;filename=b" "x"]⟩

/-- Nothing is wrong with the form, but its first name does not arrive, its file name is
changed, and a text gets a file name. -/
theorem server_changes_names :
    Posted ⟨1, 2, 3, 4⟩ changedForm.parts
    ∧ ∃ r first second third,
      ((localUploader 8080).submit network ⟨1, 2, 3, 4⟩ changedForm).2.outcome
        = some (.success r)
      ∧ (r.data.get? "result").bind (·.get? "parts") = some (.array [first, second, third])
      ∧ first.get? "name" = some .null
      ∧ second.get? "fileName" = some (.string "a\\\\b")
      ∧ third.get? "fileName" = some (.string "b\"") := by
  have hposted : Posted ⟨1, 2, 3, 4⟩ changedForm.parts :=
    ⟨by decide, by decide, by decide, by decide, by decide +kernel⟩
  obtain ⟨houtcome, -⟩ := hposted.submit (localUploader 8080) 8080 (by decide)
    (readEndpoint_successUrl 8080 (by decide)) (by decide)
  have hfirst : (fieldOf (.text "a b" "x")).name = none := by decide
  have hsecond : (fieldOf (.file "f" "a\\b" none [0x78])).fileName = some "a\\\\b" := by decide
  have hthird : (fieldOf (.text "a;filename=b" "x")).fileName = some "b\"" := by decide
  refine ⟨hposted, _, _, _, _, houtcome, parts_report _ _, ?_, ?_, ?_⟩
  · rw [get?_name, hfirst]
    rfl
  · rw [get?_fileName, hsecond]
    rfl
  · rw [get?_fileName, hthird]
    rfl

end Echo

end FormUpload
