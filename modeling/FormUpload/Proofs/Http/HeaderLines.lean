import FormUpload.Http.Body
import FormUpload.Proofs.Text.Cutting
import FormUpload.Proofs.Text.Decimal

/-!
# Header lines that are read as they were written

A `HeaderLine` is a header line as it may be sent; reading it gives the name in lower case and
the value without blanks around it (`headerLines_octets`).  `headerLine name value` is one with
a blank before its value (`headerLines_cons`).  Announced lengths are read as the numbers they
spell (`agreedLength?_digits`).
-/

namespace FormUpload.Http

open FormUpload.Text

/-! ## §1. Names and values. -/

/-- A header line. -/
def headerLine (name value : Bytes) : Bytes :=
  name ++ 0x3A :: 0x20 :: (value ++ [0x0D, 0x0A])

/-- What may stand in a header line as its name. -/
def IsName (name : Bytes) : Prop := name ≠ [] ∧ ∀ b ∈ name, isNameOctet b = true

/-- What may stand in a header line as its value: text that begins with no blank. -/
def IsValue (value : Bytes) : Prop :=
  (∀ b ∈ value, isTextOctet b = true) ∧ Stops isLineBlank value

theorem isName_of_all (name : Bytes) (hne : name ≠ []) (h : name.all isNameOctet = true) :
    IsName name :=
  ⟨hne, List.all_eq_true.mp h⟩

theorem isValue_of_all (value : Bytes) (h : value.all isTextOctet = true)
    (hfirst : (value.head?.all fun b => !isLineBlank b) = true) : IsValue value := by
  refine ⟨List.all_eq_true.mp h, fun b hb => ?_⟩
  rw [hb, Option.all_some, Bool.not_eq_true'] at hfirst
  exact hfirst

theorem headerName_append (name : Bytes) (hname : ∀ b ∈ name, isNameOctet b = true)
    (read s : Bytes) (hne : name = [] → read ≠ []) :
    headerName read (name ++ 0x3A :: s) = .done (read.reverse ++ name.map lowerByte) s := by
  induction name generalizing read with
  | nil =>
      have hcolon : isNameOctet 0x3A = false := by decide
      rw [List.nil_append, headerName, hcolon, if_neg Bool.false_ne_true,
        if_pos (by simp [hne rfl]), List.map_nil, List.append_nil]
  | cons b name ih =>
      obtain ⟨hb, hname⟩ := List.forall_mem_cons.mp hname
      rw [List.cons_append, headerName, if_pos hb, ih hname _ fun _ => List.cons_ne_nil _ _]
      simp

/-- No line end is in a text. -/
theorem not_lineEnd_of_isTextOctet (b : UInt8) (hb : isTextOctet b = true) :
    b ≠ 0x0A ∧ b ≠ 0x0D := by
  constructor
  · rintro rfl
    exact absurd hb (by decide)
  · rintro rfl
    exact absurd hb (by decide)

/-- How a line ends: with a line feed, and there may be a carriage return before it. -/
inductive LineEnd where
  | feed
  | returnFeed
deriving DecidableEq, Repr

/-- The octets of a line end. -/
def LineEnd.octets : LineEnd → Bytes
  | .feed => [0x0A]
  | .returnFeed => [0x0D, 0x0A]

theorem headerValue_append (value : Bytes) (hvalue : ∀ b ∈ value, isTextOctet b = true)
    (e : LineEnd) (read s : Bytes) :
    headerValue read (value ++ (e.octets ++ s))
      = .done ((read.reverse ++ value).rdropWhile isLineBlank) s := by
  induction value generalizing read with
  | nil =>
      have hend : headerValue read (e.octets ++ s)
          = .done (read.dropWhile isLineBlank).reverse s := by
        cases e <;> rfl
      rw [List.nil_append, hend, List.append_nil, List.rdropWhile, List.reverse_reverse]
  | cons b value ih =>
      obtain ⟨hb, hvalue⟩ := List.forall_mem_cons.mp hvalue
      obtain ⟨hfeed, hreturn⟩ := not_lineEnd_of_isTextOctet b hb
      have hstep : headerValue read (b :: (value ++ (e.octets ++ s)))
          = headerValue (b :: read) (value ++ (e.octets ++ s)) := by
        rw [headerValue.eq_5 _ _ _ hfeed (fun _ h _ => hreturn h) (fun h _ => hreturn h),
          if_pos hb]
      rw [List.cons_append, hstep, ih hvalue, List.reverse_cons, List.append_assoc]
      rfl

/-! ## §2. Lines. -/

/-- A header line as it is sent: its name, and what stands between the colon and the end of
the line. -/
structure HeaderLine where
  name : Bytes
  value : Bytes
  ending : LineEnd
  isName : IsName name
  isText : ∀ b ∈ value, isTextOctet b = true

/-- The octets of a header line. -/
def HeaderLine.octets (l : HeaderLine) : Bytes := l.name ++ 0x3A :: (l.value ++ l.ending.octets)

/-- A header line as it is kept: the name in lower case, the value without blanks around
it. -/
def HeaderLine.kept (l : HeaderLine) : String × Bytes :=
  (stringLossy (l.name.map lowerByte), trimLine l.value)

/-- A line end is no blank, so blanks before a value go away and nothing else. -/
theorem dropWhile_value (value : Bytes) (e : LineEnd) (s : Bytes) :
    (value ++ (e.octets ++ s)).dropWhile isLineBlank
      = value.dropWhile isLineBlank ++ (e.octets ++ s) := by
  have hend : Stops isLineBlank (e.octets ++ s) := by
    cases e
    · exact (stops_cons _ _ _).mpr (by decide)
    · exact (stops_cons _ _ _).mpr (by decide)
  rw [List.dropWhile_append]
  split
  · next hempty =>
    rw [List.isEmpty_iff.mp hempty, List.nil_append, dropWhile_of_stops _ _ hend]
  · rfl

/-- **A header line is read into what is kept of it.** -/
theorem headerLines_octets (room : Nat) (l : HeaderLine) (s : Bytes) :
    headerLines (room + 1) (l.octets ++ s)
      = (headerLines room s).andThen fun more s => .done (l.kept :: more) s := by
  obtain ⟨hne, hname⟩ := l.isName
  have hline : l.octets ++ s = l.name ++ 0x3A :: (l.value ++ (l.ending.octets ++ s)) := by
    unfold HeaderLine.octets
    simp
  have hfirst : ∀ b r, l.octets ++ s = b :: r → isNameOctet b = true := by
    intro b r h
    obtain ⟨c, cs, hc⟩ := List.exists_cons_of_ne_nil hne
    rw [hline, hc] at h
    exact (List.cons.inj h).1 ▸ hname c (hc ▸ List.mem_cons_self)
  have htext : ∀ b ∈ l.value.dropWhile isLineBlank, isTextOctet b = true :=
    fun b hb => l.isText b ((List.dropWhile_sublist _).subset hb)
  have hvalue := headerValue_append _ htext l.ending [] s
  rw [headerLines.eq_6, hline, headerName_append l.name hname [] _ fun h => absurd h hne]
  -- a line is read as a header line only if it is no line end, so the first octet matters
  · show ((headerValue [] ((l.value ++ (l.ending.octets ++ s)).dropWhile isLineBlank)).andThen
      fun value s => (headerLines room s).andThen fun more s =>
        .done ((stringLossy (l.name.map lowerByte), value) :: more) s) = _
    rw [dropWhile_value, hvalue]
    rfl
  · intro h
    rw [hline] at h
    simp at h
  · intro r h
    exact absurd (hfirst _ _ h) (by decide)
  · intro r h
    exact absurd (hfirst _ _ h) (by decide)
  · intro h
    exact absurd (hfirst _ _ h) (by decide)

/-- A header line with a blank before its value. -/
def HeaderLine.written (name value : Bytes) (hname : IsName name) (hvalue : IsValue value) :
    HeaderLine :=
  ⟨name, 0x20 :: value, .returnFeed, hname, List.forall_mem_cons.mpr ⟨by decide, hvalue.1⟩⟩

/-- The blank before a value is not kept, nor are those after it. -/
theorem HeaderLine.kept_written (name value : Bytes) (hname : IsName name)
    (hvalue : IsValue value) : (written name value hname hvalue).kept
      = (stringLossy (name.map lowerByte), value.rdropWhile isLineBlank) := by
  have htrim : trimLine (0x20 :: value) = value.rdropWhile isLineBlank := by
    unfold trimLine
    rw [List.dropWhile_cons_of_pos (by decide), dropWhile_of_stops _ value hvalue.2]
    rfl
  show (_, trimLine (0x20 :: value)) = _
  rw [htrim]
  rfl

/-- **A header line is read as it was written.** -/
theorem headerLines_cons (room : Nat) (name value s : Bytes) (hname : IsName name)
    (hvalue : IsValue value) :
    headerLines (room + 1) (headerLine name value ++ s)
      = (headerLines room s).andThen fun more s =>
          .done ((stringLossy (name.map lowerByte), value.rdropWhile isLineBlank) :: more) s := by
  have hread := headerLines_octets room (.written name value hname hvalue) s
  rw [HeaderLine.kept_written] at hread
  exact hread

theorem headerLines_end (room : Nat) (s : Bytes) :
    headerLines room (0x0D :: 0x0A :: s) = .done [] s := by
  cases room <;> rfl

/-! ## §3. Announced lengths. -/

theorem isTextOctet_of_isDigit (b : UInt8) (h : isDigit b = true) : isTextOctet b = true := by
  rw [isDigit_iff] at h
  unfold isTextOctet
  simp only [Bool.or_eq_true, Bool.and_eq_true, decide_eq_true_eq, bne_iff_ne]
  refine Or.inr ⟨?_, ?_⟩
  · rw [UInt8.le_iff_toNat_le]
    show 32 ≤ b.toNat
    omega
  · rintro rfl
    exact absurd h (by decide)

theorem isLineBlank_of_isDigit (b : UInt8) (h : isDigit b = true) : isLineBlank b = false := by
  rw [isDigit_iff] at h
  unfold isLineBlank
  rw [Bool.or_eq_false_iff, beq_eq_false_iff_ne, beq_eq_false_iff_ne]
  constructor
  · rintro rfl
    exact absurd h (by decide)
  · rintro rfl
    exact absurd h (by decide)

/-- Digits may stand in a header line, and no blank goes away at their end. -/
theorem isValue_digits (cs : List Char) (hcs : ∀ c ∈ cs, isDigitChar c = true) :
    IsValue (Utf8.encode cs) ∧ (Utf8.encode cs).rdropWhile isLineBlank = Utf8.encode cs := by
  have hdigits := isDigit_of_mem_encode cs hcs
  refine ⟨⟨fun b hb => isTextOctet_of_isDigit b (hdigits b hb), fun b hb => ?_⟩, ?_⟩
  · exact isLineBlank_of_isDigit b (hdigits b (List.mem_of_mem_head? hb))
  · apply List.rdropWhile_eq_self_iff.mpr
    intro hl
    rw [isLineBlank_of_isDigit _ (hdigits _ (List.getLast_mem hl))]
    simp

theorem isValue_decimal (n : Nat) : IsValue (Utf8.encode (decimal n))
    ∧ (Utf8.encode (decimal n)).rdropWhile isLineBlank = Utf8.encode (decimal n) :=
  isValue_digits (decimal n) (isDigitChar_of_mem n)

/-- **An announced length is read as the number it spells.** -/
theorem agreedLength?_digits (cs : List Char) (hne : cs ≠ [])
    (hcs : ∀ c ∈ cs, isDigitChar c = true) (hn : Nat.ofDigitChars 10 cs 0 < sizeLimit) :
    agreedLength? ([Utf8.encode cs].flatMap listed) = some (Nat.ofDigitChars 10 cs 0) := by
  have hdigits := isDigit_of_mem_encode cs hcs
  obtain ⟨⟨-, hfirst⟩, hlast⟩ := isValue_digits cs hcs
  have hsum := foldl_encode cs hcs 0
  have hne : Utf8.encode cs ≠ [] := by
    obtain ⟨c, cs', rfl⟩ := List.exists_cons_of_ne_nil hne
    rw [Utf8.encode_cons, Ne, List.append_eq_nil_iff]
    exact fun h => Utf8.encodeChar_ne_nil c h.1
  generalize Utf8.encode cs = v at hdigits hfirst hlast hsum hne
  generalize Nat.ofDigitChars 10 cs 0 = n at hsum hn
  -- digits are no commas and no blanks: the list has one entry
  have hcomma : ∀ b ∈ v, (b == 0x2C) = false := by
    intro b hb
    rw [beq_eq_false_iff_ne]
    rintro rfl
    exact absurd (hdigits _ hb) (by decide)
  have htrim : trimLine v = v := by
    unfold trimLine
    rw [dropWhile_of_stops _ v hfirst]
    exact hlast
  have hlisted : listed v = [v] := by
    unfold listed
    rw [splitWhere_of_none _ v hcomma, List.map_singleton, htrim]
  have hwhole : wholeNumber? v = some n := by
    unfold wholeNumber?
    rw [List.isEmpty_eq_false_iff.mpr hne, List.all_eq_true.mpr hdigits, hsum]
    simp [hn]
  rw [List.flatMap_singleton, hlisted, agreedLength?, hwhole]
  rfl

theorem agreedLength?_decimal (n : Nat) (hn : n < sizeLimit) :
    agreedLength? ([Utf8.encode (decimal n)].flatMap listed) = some n := by
  have h := agreedLength?_digits (decimal n) (decimal_ne_nil n) (isDigitChar_of_mem n)
  rw [ofDigitChars_decimal] at h
  exact h hn

end FormUpload.Http
