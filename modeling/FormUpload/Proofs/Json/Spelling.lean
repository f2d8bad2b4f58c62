import FormUpload.Proofs.Json.Running
import FormUpload.Proofs.Text.Decimal

/-!
# Spellings of documents

A document can be spelled in many ways: blanks may stand between its tokens, characters of
strings may be escaped, members may come in any order and more than once.  `Spelling levels
v s` says that `s` is a spelling of `v`, with at most `levels` arrays and objects inside one
another, and `read_spelling` that every spelling is read as the document it spells.

Numbers are whole; how others are read is a matter of rounding.
-/

namespace FormUpload.Json

open FormUpload.Text

/-! ## §1. Blanks. -/

/-- Nothing but blanks. -/
def Blank (s : Bytes) : Prop := ∀ b ∈ s, isSpace b = true

theorem blank_nil : Blank [] := by
  intro b hb
  cases hb

theorem blank_singleton (b : UInt8) (hb : isSpace b = true) : Blank [b] := by
  intro c hc
  rw [List.mem_singleton] at hc
  rw [hc, hb]

/-- Blanks are skipped up to what is none. -/
theorem skipSpace_append (ws s : Bytes) (hws : Blank ws) (hs : Stops isSpace s) :
    skipSpace (ws ++ s) = s := dropWhile_run isSpace ws s hws hs

theorem skipSpace_cons (ws : Bytes) (b : UInt8) (s : Bytes) (hws : Blank ws)
    (hb : isSpace b = false) : skipSpace (ws ++ b :: s) = b :: s :=
  skipSpace_append ws (b :: s) hws ((stops_cons _ b s).mpr hb)

/-! ## §2. Strings. -/

/-- The octets between the quotes of a string, for the text that they stand for. -/
inductive StringSpelling : List Char → Bytes → Prop
  | nil : StringSpelling [] []
  | raw (c : Char) (cs : List Char) (s : Bytes) (hc : 0x20 ≤ c.toNat) (hquote : c ≠ '"')
      (hslash : c ≠ '\\') (h : StringSpelling cs s) :
      StringSpelling (c :: cs) (Utf8.encodeChar c ++ s)
  | short (e b : UInt8) (cs : List Char) (s : Bytes) (he : shortEscape? e = some b)
      (h : StringSpelling cs s) : StringSpelling (Char.ofNat b.toNat :: cs) (0x5C :: e :: s)
  | code (a b c d : UInt8) (n : Nat) (cs : List Char) (s : Bytes) (hn : hexFour? a b c d = some n)
      (hlow : isLowSurrogate n = false) (hhigh : isHighSurrogate n = false)
      (h : StringSpelling cs s) :
      StringSpelling (Char.ofNat n :: cs) (0x5C :: 0x75 :: a :: b :: c :: d :: s)
  | pair (a b c d a' b' c' d' : UInt8) (n n' : Nat) (cs : List Char) (s : Bytes)
      (hn : hexFour? a b c d = some n) (hhigh : isHighSurrogate n = true)
      (hn' : hexFour? a' b' c' d' = some n') (hlow : isLowSurrogate n' = true)
      (h : StringSpelling cs s) :
      StringSpelling (Char.ofNat (pairValue n n') :: cs)
        (0x5C :: 0x75 :: a :: b :: c :: d :: 0x5C :: 0x75 :: a' :: b' :: c' :: d' :: s)

/-- Octets that stand for themselves. -/
theorem stringOctets_raw (bs : Bytes) (hbs : ∀ b ∈ bs, b ≠ 0x22 ∧ b ≠ 0x5C ∧ ¬ b < 0x20)
    (read s : Bytes) : stringOctets read (bs ++ s) = stringOctets (bs.reverse ++ read) s := by
  induction bs generalizing read with
  | nil => rfl
  | cons b bs ih =>
      obtain ⟨⟨hquote, hslash, hlow⟩, hbs⟩ := List.forall_mem_cons.mp hbs
      rw [List.cons_append, stringOctets, if_neg hlow, ih hbs]
      · simp
      all_goals
        intros
        simp_all

/-- The octets of a character that stands for itself. -/
theorem rawOctets (c : Char) (hc : 0x20 ≤ c.toNat) (hquote : c ≠ '"') (hslash : c ≠ '\\') :
    ∀ b ∈ Utf8.encodeChar c, b ≠ 0x22 ∧ b ≠ 0x5C ∧ ¬ b < 0x20 := by
  intro b hb
  by_cases hlt : c.toNat < 0x80
  -- in ASCII the octet is the character's number
  · rw [Utf8.encodeChar_ascii c hlt, List.mem_singleton] at hb
    have hn : b.toNat = c.toNat := by
      rw [hb]
      exact Utf8.toNat_ofNat _ (by omega)
    refine ⟨?_, ?_, ?_⟩
    · rintro rfl
      exact hquote (Char.toNat_inj.mp hn.symm)
    · rintro rfl
      exact hslash (Char.toNat_inj.mp hn.symm)
    · rw [UInt8.lt_iff_toNat_lt, hn]
      show ¬ c.toNat < 32
      omega
  -- beyond ASCII no octet is a quote, a backslash or a control
  · have hge := Utf8.le_of_mem_encodeChar c (by omega) b hb
    refine ⟨?_, ?_, ?_⟩
    · rintro rfl
      exact absurd hge (by decide)
    · rintro rfl
      exact absurd hge (by decide)
    · rw [UInt8.lt_iff_toNat_lt]
      show ¬ b.toNat < 32
      omega

theorem shortEscape?_cases (e b : UInt8) (h : shortEscape? e = some b) :
    e ≠ 0x75 ∧ Utf8.encodeChar (Char.ofNat b.toNat) = [b] := by
  unfold shortEscape? at h
  split at h
  · next he =>
    simp only [Bool.or_eq_true, beq_iff_eq] at he
    cases h
    rcases he with (rfl | rfl) | rfl <;> exact ⟨by decide, rfl⟩
  · iterate 5
      split at h
      · next he =>
        rw [beq_iff_eq] at he
        subst he
        cases h
        exact ⟨by decide, rfl⟩
    cases h

/-- **A spelled string is read.** -/
theorem stringOctets_spelling (cs : List Char) (s : Bytes) (h : StringSpelling cs s)
    (read rest : Bytes) :
    stringOctets read (s ++ 0x22 :: rest) = .ok (read.reverse ++ Utf8.encode cs, rest) := by
  induction h generalizing read with
  | nil => simp [stringOctets]
  | raw c cs s hc hquote hslash _ ih =>
      rw [List.append_assoc, stringOctets_raw _ (rawOctets c hc hquote hslash), ih,
        Utf8.encode_cons]
      simp
  | short e b cs s he _ ih =>
      -- no short escape begins like a code, so the reader takes one octet
      obtain ⟨hu, hb⟩ := shortEscape?_cases e b he
      have hstep : stringOctets read (0x5C :: e :: (s ++ 0x22 :: rest))
          = stringOctets (b :: read) (s ++ 0x22 :: rest) := by
        rw [stringOctets.eq_6 _ _ _ (fun _ _ _ _ _ h _ => hu h) hu, he]
      rw [List.cons_append, List.cons_append, hstep, ih, Utf8.encode_cons, hb]
      simp
  | code a b c d n cs s hn hlow hhigh _ ih =>
      simp only [List.cons_append, stringOctets, hn, hlow, hhigh]
      simp [ih, Utf8.encode_cons]
  | pair a b c d a' b' c' d' n n' cs s hn hhigh hn' hlow _ ih =>
      -- the first half of a pair is not the second half of another
      have hnot : isLowSurrogate n = false := by
        unfold isHighSurrogate at hhigh
        unfold isLowSurrogate
        simp only [Bool.and_eq_true, decide_eq_true_eq] at hhigh
        simp only [Bool.and_eq_false_iff, decide_eq_false_iff_not]
        omega
      simp only [List.cons_append, stringOctets, hn, hnot, hhigh, hn', hlow]
      simp [ih, Utf8.encode_cons]

theorem string_spelling (cs : List Char) (s : Bytes) (h : StringSpelling cs s) (rest : Bytes) :
    string (s ++ 0x22 :: rest) = .ok (String.ofList cs, rest) := by
  unfold string
  rw [stringOctets_spelling cs s h]
  simp [string?_encode, bind, Except.bind]

/-! ## §3. Numbers. -/

/-- An octet that a number could go on with. -/
def isNumberOctet (b : UInt8) : Bool := isDigit b || b == 0x2E || isExponentLetter b

/-- Digits are taken into a significand as long as there is room. -/
theorem absorb_digits (cs : List Char) (hcs : ∀ c ∈ cs, isDigitChar c = true) (limit m n : Nat)
    (hlimit : Nat.ofDigitChars 10 cs m < limit) (rest : Bytes) (hrest : Stops isDigit rest) :
    absorb limit m n (Utf8.encode cs ++ rest)
      = (Nat.ofDigitChars 10 cs m, n + cs.length, rest) := by
  induction cs generalizing m n with
  | nil =>
      rw [Utf8.encode_nil, List.nil_append, Nat.ofDigitChars_nil]
      cases rest with
      | nil => rfl
      | cons b s => rw [absorb, (stops_cons _ b s).mp hrest]; rfl
  | cons c cs ih =>
      obtain ⟨hc, hcs⟩ := List.forall_mem_cons.mp hcs
      obtain ⟨b, hb, hdigit, hvalue⟩ := encodeChar_digit c hc
      rw [Nat.ofDigitChars_cons] at hlimit ⊢
      have hm : m * 10 + digitValue b = 10 * m + (c.toNat - '0'.toNat) := by
        rw [hvalue, Nat.mul_comm]
        rfl
      -- the number of all digits is below the limit, so that of the first ones is
      have hle := le_ofDigitChars cs (10 * m + (c.toNat - '0'.toNat))
      have hroom : (isDigit b && decide (m * 10 + digitValue b < limit)) = true := by
        rw [hdigit, hm, Bool.true_and, decide_eq_true_eq]
        omega
      rw [Utf8.encode_cons, hb, List.append_assoc, List.singleton_append, absorb, if_pos hroom, hm,
        ih hcs _ _ hlimit, List.length_cons, Nat.add_assoc, Nat.add_comm 1]

/-- What no digit and no mark of a number follows is whole. -/
theorem afterWhole_stops (negative : Bool) (m : Nat) (rest : Bytes)
    (hrest : Stops isNumberOctet rest) :
    afterWhole negative m rest = wholeNumber negative m rest := by
  cases rest with
  | nil => rfl
  | cons b s =>
      have hb := (stops_cons _ b s).mp hrest
      unfold isNumberOctet at hb
      simp only [Bool.or_eq_false_iff] at hb
      obtain ⟨⟨hdigit, hpoint⟩, hletter⟩ := hb
      unfold afterWhole
      simp [hdigit, hpoint, hletter]

/-- The digits of a number are read as that number. -/
theorem number_decimal (negative : Bool) (n : Nat) (hn : n < significandLimit) (rest : Bytes)
    (hrest : Stops isNumberOctet rest) :
    number negative (Utf8.encode (decimal n) ++ rest) = wholeNumber negative n rest := by
  have hdigits : Stops isDigit rest := by
    intro b hb
    have h := hrest b hb
    unfold isNumberOctet at h
    simp only [Bool.or_eq_false_iff] at h
    exact h.1.1
  rcases Nat.eq_zero_or_pos n with rfl | hpos
  -- a zero stands alone: a digit after it would be a fault
  · have hzero : Utf8.encode (decimal 0) = [0x30] := by decide
    rw [hzero, List.singleton_append]
    cases rest with
    | nil => rfl
    | cons b s =>
        show (if isDigit b = true then _ else afterWhole negative 0 (b :: s)) = _
        rw [(stops_cons _ b s).mp hdigits, if_neg Bool.false_ne_true]
        exact afterWhole_stops negative 0 _ hrest
  -- the first digit is none, so the others are taken up to the last
  · obtain ⟨c, cs, hcs, hc⟩ := decimal_head n hpos
    have hall := isDigitChar_of_mem n
    have hsum := ofDigitChars_decimal n
    rw [hcs] at hall hsum ⊢
    obtain ⟨hdigit, hall⟩ := List.forall_mem_cons.mp hall
    obtain ⟨b, hb, hbdigit, hvalue⟩ := encodeChar_digit c hdigit
    have hb0 : (b == 0x30) = false := by
      rw [beq_eq_false_iff_ne]
      rintro rfl
      rw [isDigitChar_iff] at hdigit
      have : c.toNat = 48 := by
        have : digitValue 0x30 = 0 := rfl
        omega
      exact hc (Char.toNat_inj.mp this)
    rw [Nat.ofDigitChars_cons] at hsum
    have hm : digitValue b = 10 * 0 + (c.toNat - '0'.toNat) := by
      rw [hvalue]
      simp
    rw [Utf8.encode_cons, hb, List.append_assoc, List.singleton_append]
    unfold number
    simp only [hb0, Bool.false_eq_true, if_false, hbdigit, if_true, hm,
      absorb_digits cs hall _ _ _ (hsum.trans_lt hn) rest hdigits, hsum]
    exact afterWhole_stops negative n rest hrest

/-! ## §4. Scalars. -/

/-- The spellings of words, whole numbers and strings. -/
inductive ScalarSpelling : Value → Bytes → Prop
  | null : ScalarSpelling .null [0x6E, 0x75, 0x6C, 0x6C]
  | true : ScalarSpelling (.bool true) [0x74, 0x72, 0x75, 0x65]
  | false : ScalarSpelling (.bool false) [0x66, 0x61, 0x6C, 0x73, 0x65]
  | whole (i : Int) (hi : Number.fits i) :
      ScalarSpelling (.number (.whole i)) (Utf8.encode (decimalInt i))
  | string (cs : List Char) (s : Bytes) (h : StringSpelling cs s) :
      ScalarSpelling (.string (String.ofList cs)) (0x22 :: (s ++ [0x22]))

/-- How a spelling begins: with no blank and with nothing that closes. -/
def Opens (s : Bytes) : Prop := ∃ b r, s = b :: r ∧ isSpace b = false ∧ b ≠ 0x5D ∧ b ≠ 0x7D

theorem Opens.length_pos {s : Bytes} (h : Opens s) : 0 < s.length := by
  obtain ⟨b, r, rfl, -⟩ := h
  exact Nat.succ_pos _

theorem opens_digit (b : UInt8) (r : Bytes) (h : isDigit b = true) : Opens (b :: r) := by
  rw [isDigit_iff] at h
  refine ⟨b, r, rfl, ?_, ?_, ?_⟩
  · unfold isSpace
    simp only [Bool.or_eq_false_iff, beq_eq_false_iff_ne]
    refine ⟨⟨⟨?_, ?_⟩, ?_⟩, ?_⟩ <;> (rintro rfl; revert h; decide)
  · rintro rfl
    revert h
    decide
  · rintro rfl
    revert h
    decide

/-- The first octet of a number's digits. -/
theorem decimal_octets (n : Nat) :
    ∃ b r, Utf8.encode (decimal n) = b :: r ∧ isDigit b = true := by
  cases hs : Utf8.encode (decimal n) with
  | nil =>
      obtain ⟨c, cs, hcs⟩ := List.exists_cons_of_ne_nil (decimal_ne_nil n)
      rw [hcs, Utf8.encode_cons, List.append_eq_nil_iff] at hs
      exact absurd hs.1 (Utf8.encodeChar_ne_nil c)
  | cons b r =>
      refine ⟨b, r, rfl, isDigit_of_mem_encode (decimal n) (isDigitChar_of_mem n) b ?_⟩
      rw [hs]
      exact List.mem_cons_self

theorem ScalarSpelling.opens {v : Value} {s : Bytes} (h : ScalarSpelling v s) : Opens s := by
  cases h with
  | null => exact ⟨_, _, rfl, by decide, by decide, by decide⟩
  | true => exact ⟨_, _, rfl, by decide, by decide, by decide⟩
  | false => exact ⟨_, _, rfl, by decide, by decide, by decide⟩
  | whole i hi =>
      unfold decimalInt
      split
      · exact ⟨0x2D, _, rfl, by decide, by decide, by decide⟩
      · obtain ⟨b, r, hs, hb⟩ := decimal_octets i.natAbs
        rw [hs]
        exact opens_digit b r hb
  | string cs s h => exact ⟨_, _, rfl, by decide, by decide, by decide⟩

/-- A digit begins no word and is no sign and no quote. -/
theorem ne_of_isDigit (b c : UInt8) (hb : isDigit b = true) (hc : isDigit c = false) :
    (b == c) = false := by
  rw [beq_eq_false_iff_ne]
  rintro rfl
  rw [hb] at hc
  cases hc

/-- **A scalar is read**, wherever a value may stand. -/
theorem scalarOr_spelling (array object : Bytes → Except Fault (Value × Bytes)) (v : Value)
    (s : Bytes) (h : ScalarSpelling v s) (ws rest : Bytes) (hws : Blank ws)
    (hrest : Stops isNumberOctet rest) :
    scalarOr array object (ws ++ (s ++ rest)) = .ok (v, rest) := by
  obtain ⟨b, r, hs, hb, -, -⟩ := h.opens
  have hskip : skipSpace (ws ++ (s ++ rest)) = b :: (r ++ rest) := by
    rw [hs, List.cons_append]
    exact skipSpace_cons ws b _ hws hb
  unfold scalarOr
  rw [hskip]
  cases h with
  | null =>
      cases hs
      rfl
  | true =>
      cases hs
      rfl
  | false =>
      cases hs
      rfl
  | whole i hi =>
      unfold Number.fits at hi
      unfold decimalInt at hs
      split at hs
      · next hneg =>
        rw [Utf8.encode_cons] at hs
        cases hs
        -- behind a minus sign stand the digits of the absolute value
        have hn := number_decimal true i.natAbs (by unfold significandLimit; omega) rest hrest
        have hwhole : wholeNumber true i.natAbs rest = .ok (.whole i, rest) := by
          unfold wholeNumber
          rw [if_neg (by decide), if_neg (by omega), show -(i.natAbs : Int) = i by omega]
        rw [hwhole] at hn
        show (number true (Utf8.encode (decimal i.natAbs) ++ rest)).bind
          (fun n => .ok (Value.number n.1, n.2)) = _
        rw [hn]
        rfl
      · next hpos =>
        obtain ⟨c, t, hct, hc⟩ := decimal_octets i.natAbs
        have hn := number_decimal false i.natAbs (by unfold significandLimit; omega) rest hrest
        rw [hct] at hs hn
        cases hs
        have hwhole : wholeNumber false i.natAbs rest = .ok (.whole i, rest) := by
          unfold wholeNumber
          rw [if_pos (by decide), show (i.natAbs : Int) = i by omega]
        rw [hwhole, List.cons_append] at hn
        simp only [ne_of_isDigit b 0x6E hc rfl, ne_of_isDigit b 0x74 hc rfl,
          ne_of_isDigit b 0x66 hc rfl, ne_of_isDigit b 0x2D hc rfl, Bool.false_eq_true, if_false,
          hc, if_true, hn]
        rfl
  | string cs s h =>
      cases hs
      have hread := string_spelling cs s h rest
      rw [List.append_assoc, List.singleton_append]
      show (string (s ++ 0x22 :: rest)).bind (fun t => .ok (Value.string t.1, t.2)) = _
      rw [hread]
      rfl

/-! ## §5. Items and members. -/

/-- The spellings of what follows the opening bracket of an array; `more` says that an
item stands before. -/
inductive ItemsSpelling (item : Value → Bytes → Prop) : Bool → List Value → Bytes → Prop
  | close (more : Bool) (ws : Bytes) (hws : Blank ws) : ItemsSpelling item more [] (ws ++ [0x5D])
  | first (ws s t : Bytes) (v : Value) (vs : List Value) (hws : Blank ws) (hv : item v s)
      (hvs : ItemsSpelling item true vs t) :
      ItemsSpelling item false (v :: vs) (ws ++ (s ++ t))
  | next (ws ws' s t : Bytes) (v : Value) (vs : List Value) (hws : Blank ws) (hws' : Blank ws')
      (hv : item v s) (hvs : ItemsSpelling item true vs t) :
      ItemsSpelling item true (v :: vs) (ws ++ 0x2C :: (ws' ++ (s ++ t)))

/-- The spellings of a member: a key in quotes, a colon and a value. -/
inductive MemberSpelling (item : Value → Bytes → Prop) : String → Value → Bytes → Prop
  | mk (key : List Char) (k ws ws' s : Bytes) (v : Value) (hkey : StringSpelling key k)
      (hws : Blank ws) (hws' : Blank ws') (hv : item v s) :
      MemberSpelling item (String.ofList key) v (0x22 :: (k ++ 0x22 :: (ws ++ 0x3A :: (ws' ++ s))))

theorem MemberSpelling.quoted {item : Value → Bytes → Prop} {k : String} {v : Value} {s : Bytes}
    (h : MemberSpelling item k v s) : ∃ t, s = 0x22 :: t := by
  cases h
  exact ⟨_, rfl⟩

/-- The spellings of what follows the opening brace of an object. -/
inductive MembersSpelling (item : Value → Bytes → Prop) :
    Bool → List (String × Value) → Bytes → Prop
  | close (more : Bool) (ws : Bytes) (hws : Blank ws) :
      MembersSpelling item more [] (ws ++ [0x7D])
  | first (ws s t : Bytes) (k : String) (v : Value) (ms : List (String × Value)) (hws : Blank ws)
      (hm : MemberSpelling item k v s) (hms : MembersSpelling item true ms t) :
      MembersSpelling item false ((k, v) :: ms) (ws ++ (s ++ t))
  | next (ws ws' s t : Bytes) (k : String) (v : Value) (ms : List (String × Value))
      (hws : Blank ws) (hws' : Blank ws') (hm : MemberSpelling item k v s)
      (hms : MembersSpelling item true ms t) :
      MembersSpelling item true ((k, v) :: ms) (ws ++ 0x2C :: (ws' ++ (s ++ t)))

/-- What is said of the members is said of each. -/
theorem exists_of_membersSpelling {item : Value → Bytes → Prop} {more : Bool}
    {ms : List (String × Value)} {s : Bytes} (h : MembersSpelling item more ms s) :
    ∀ m ∈ ms, ∃ s, item m.2 s := by
  have hmember : ∀ {k v s}, MemberSpelling item k v s → ∃ s, item v s := by
    intro k v s h
    cases h with
    | mk key k ws ws' s v hkey hws hws' hv => exact ⟨s, hv⟩
  induction h with
  | close more ws hws =>
      intro m hm
      cases hm
  | first ws s t k v ms hws hm hms ih => exact List.forall_mem_cons.mpr ⟨hmember hm, ih⟩
  | next ws ws' s t k v ms hws hws' hm hms ih => exact List.forall_mem_cons.mpr ⟨hmember hm, ih⟩

/-- What spells a member one way spells it another way, if its value is spelled that way. -/
theorem MembersSpelling.imp {item item' : Value → Bytes → Prop}
    (himp : ∀ v s, item v s → item' v s) {more : Bool} {ms : List (String × Value)} {s : Bytes}
    (h : MembersSpelling item more ms s) : MembersSpelling item' more ms s := by
  have hmember : ∀ {k v s}, MemberSpelling item k v s → MemberSpelling item' k v s := by
    intro k v s h
    cases h with
    | mk key k ws ws' s v hkey hws hws' hv =>
        exact .mk key k ws ws' s v hkey hws hws' (himp v s hv)
  induction h with
  | close more ws hws => exact .close more ws hws
  | first ws s t k v ms hws hm hms ih => exact .first ws s t k v ms hws (hmember hm) ih
  | next ws ws' s t k v ms hws hws' hm hms ih =>
      exact .next ws ws' s t k v ms hws hws' (hmember hm) ih

/-- A reader that reads every spelling of an item, blanks before it or not. -/
structure Reads (item : Value → Bytes → Prop) (read : Bytes → Except Fault (Value × Bytes)) :
    Prop where
  opens : ∀ v s, item v s → Opens s
  ok : ∀ v s, item v s → ∀ ws rest, Blank ws → Stops isNumberOctet rest →
    read (ws ++ (s ++ rest)) = .ok (v, rest)

/-- Blanks end a number. -/
theorem stops_of_blank (ws : Bytes) (hws : Blank ws) : Stops isNumberOctet ws := by
  intro b hb
  have hb := hws b (List.mem_of_mem_head? hb)
  unfold isSpace at hb
  simp only [Bool.or_eq_true, beq_iff_eq] at hb
  rcases hb with ((rfl | rfl) | rfl) | rfl <;> decide

/-- Blanks and what is no part of a number end a number. -/
theorem stops_blank (ws : Bytes) (b : UInt8) (s : Bytes) (hws : Blank ws)
    (hb : isNumberOctet b = false) : Stops isNumberOctet (ws ++ b :: s) := by
  cases ws with
  | nil => exact (stops_cons _ b s).mpr hb
  | cons w ws =>
      rw [List.cons_append, stops_cons]
      exact stops_of_blank (w :: ws) hws w rfl

theorem stops_items {item : Value → Bytes → Prop} {vs : List Value} {s : Bytes}
    (h : ItemsSpelling item true vs s) (rest : Bytes) : Stops isNumberOctet (s ++ rest) := by
  cases h with
  | close more ws hws =>
      rw [List.append_assoc]
      exact stops_blank ws 0x5D rest hws (by decide)
  | next ws ws' s t v vs hws hws' hv hvs =>
      rw [List.append_assoc, List.cons_append]
      exact stops_blank ws 0x2C _ hws (by decide)

theorem stops_members {item : Value → Bytes → Prop} {ms : List (String × Value)} {s : Bytes}
    (h : MembersSpelling item true ms s) (rest : Bytes) : Stops isNumberOctet (s ++ rest) := by
  cases h with
  | close more ws hws =>
      rw [List.append_assoc]
      exact stops_blank ws 0x7D rest hws (by decide)
  | next ws ws' s t k v ms hws hws' hm hms =>
      rw [List.append_assoc, List.cons_append]
      exact stops_blank ws 0x2C _ hws (by decide)

theorem itemAhead_close (more : Bool) (ws s : Bytes) (hws : Blank ws) :
    itemAhead more (ws ++ 0x5D :: s) = .ok (false, 0x5D :: s) := by
  unfold itemAhead
  rw [skipSpace_cons ws 0x5D s hws (by decide)]
  rfl

theorem itemAhead_first (ws s t : Bytes) (hws : Blank ws) (hs : Opens s) :
    itemAhead false (ws ++ (s ++ t)) = .ok (true, s ++ t) := by
  obtain ⟨b, r, rfl, hspace, hclose, -⟩ := hs
  unfold itemAhead
  rw [List.cons_append, skipSpace_cons ws b (r ++ t) hws hspace]
  dsimp only
  rw [beq_eq_false_iff_ne.mpr hclose, if_neg Bool.false_ne_true, if_neg Bool.false_ne_true]

theorem itemAhead_next (ws ws' s t : Bytes) (hws : Blank ws) (hws' : Blank ws') (hs : Opens s) :
    itemAhead true (ws ++ 0x2C :: (ws' ++ (s ++ t))) = .ok (true, s ++ t) := by
  obtain ⟨b, r, rfl, hspace, hclose, -⟩ := hs
  have hnext := skipSpace_cons ws' b (r ++ t) hws' hspace
  unfold itemAhead
  rw [skipSpace_cons ws 0x2C _ hws (by decide), List.cons_append]
  dsimp only
  rw [if_neg (by decide), if_pos rfl, if_pos (by decide), hnext]
  dsimp only
  rw [beq_eq_false_iff_ne.mpr hclose, if_neg Bool.false_ne_true]

/-- What is done with an item of an array. -/
def pushItem {α : Type} (read : Bytes → Except Fault (α × Bytes)) (vs : List α) (s : Bytes) :
    Except Fault (List α × Bytes) := do
  let (v, rest) ← read s
  return (v :: vs, rest)

theorem pushItem_eq_ok {α : Type} (read : Bytes → Except Fault (α × Bytes)) (vs vs' : List α)
    (s rest : Bytes) : pushItem read vs s = .ok (vs', rest)
      ↔ ∃ v, read s = .ok (v, rest) ∧ vs' = v :: vs := by
  rw [pushItem, bind_eq_ok]
  constructor
  · rintro ⟨⟨v, u⟩, hv, h⟩
    cases h
    exact ⟨v, hv, rfl⟩
  · rintro ⟨v, hv, rfl⟩
    exact ⟨(v, rest), hv, rfl⟩

/-- **Spelled items are read in order.** -/
theorem sequence_spelling (item : Value → Bytes → Prop)
    (read : Bytes → Except Fault (Value × Bytes)) (hread : Reads item read) (more : Bool)
    (vs : List Value) (s : Bytes) (h : ItemsSpelling item more vs s) (fuel : Nat)
    (hfuel : s.length ≤ fuel) (state : List Value) (rest : Bytes) :
    sequence (pushItem read) fuel more state (s ++ rest) = .ok (vs.reverse ++ state, rest) := by
  -- an item that was found is read, and the others follow
  have hitem : ∀ (more : Bool) (v : Value) (s t u : Bytes) (fuel : Nat) (vs state : List Value),
      item v s → ItemsSpelling item true vs t → itemAhead more u = .ok (true, s ++ (t ++ rest)) →
      sequence (pushItem read) fuel true (v :: state) (t ++ rest)
        = .ok (vs.reverse ++ (v :: state), rest) →
      sequence (pushItem read) (fuel + 1) more state u
        = .ok ((v :: vs).reverse ++ state, rest) := by
    intro more v s t u fuel vs state hv hvs hu hmore
    have hv := hread.ok v s hv [] (t ++ rest) blank_nil (stops_items hvs rest)
    have hpush := (pushItem_eq_ok read state _ _ _).mpr ⟨v, hv, rfl⟩
    rw [sequence_succ, hu]
    show (pushItem read state (s ++ (t ++ rest))).bind
      (fun r => sequence (pushItem read) fuel true r.1 r.2) = _
    rw [List.nil_append] at hpush
    rw [hpush, List.reverse_cons, List.append_assoc]
    exact hmore
  induction h generalizing fuel state with
  | close more ws hws =>
      rw [List.length_append, List.length_singleton] at hfuel
      obtain ⟨fuel, rfl⟩ : ∃ n, fuel = n + 1 := ⟨fuel - 1, by omega⟩
      rw [List.append_assoc, List.singleton_append, sequence_succ,
        itemAhead_close more ws rest hws]
      rfl
  | first ws s t v vs hws hv hvs ih =>
      have hs := hread.opens v s hv
      have hlength := hs.length_pos
      rw [List.length_append, List.length_append] at hfuel
      obtain ⟨fuel, rfl⟩ : ∃ n, fuel = n + 1 := ⟨fuel - 1, by omega⟩
      rw [List.append_assoc, List.append_assoc]
      exact hitem false v s t _ fuel vs state hv hvs (itemAhead_first ws s _ hws hs)
        (ih fuel (by omega) (v :: state))
  | next ws ws' s t v vs hws hws' hv hvs ih =>
      have hs := hread.opens v s hv
      rw [List.length_append, List.length_cons, List.length_append, List.length_append] at hfuel
      obtain ⟨fuel, rfl⟩ : ∃ n, fuel = n + 1 := ⟨fuel - 1, by omega⟩
      rw [List.append_assoc, List.cons_append, List.append_assoc, List.append_assoc]
      exact hitem true v s t _ fuel vs state hv hvs (itemAhead_next ws ws' s _ hws hws' hs)
        (ih fuel (by omega) (v :: state))

theorem keyAhead_close (more : Bool) (ws s : Bytes) (hws : Blank ws) :
    keyAhead more (ws ++ 0x7D :: s) = .ok (false, s) := by
  unfold keyAhead
  rw [skipSpace_cons ws 0x7D s hws (by decide)]
  rfl

theorem keyAhead_first (ws s : Bytes) (hws : Blank ws) :
    keyAhead false (ws ++ 0x22 :: s) = .ok (true, s) := by
  unfold keyAhead
  rw [skipSpace_cons ws 0x22 s hws (by decide)]
  rfl

theorem keyAhead_next (ws ws' s : Bytes) (hws : Blank ws) (hws' : Blank ws') :
    keyAhead true (ws ++ 0x2C :: (ws' ++ 0x22 :: s)) = .ok (true, s) := by
  have hnext := skipSpace_cons ws' 0x22 s hws' (by decide)
  unfold keyAhead
  rw [skipSpace_cons ws 0x2C _ hws (by decide)]
  dsimp only
  rw [if_neg (by decide), if_pos rfl, if_pos (by decide), hnext]
  rfl

theorem colon_cons (ws s : Bytes) (hws : Blank ws) : colon (ws ++ 0x3A :: s) = .ok s := by
  unfold colon
  rw [skipSpace_cons ws 0x3A s hws (by decide)]
  rfl

/-- A state that is reached over some members, one step for each. -/
def Steps {σ : Type} (step : σ → String → Value → σ → Prop) :
    σ → List (String × Value) → σ → Prop
  | a, [], b => b = a
  | a, (k, v) :: ms, b => ∃ a', step a k v a' ∧ Steps step a' ms b

/-- **Spelled members are taken one after the other.**  Where a reader takes a member exactly
if a step says so, it reads the members exactly if they are so many steps. -/
theorem members_steps {σ : Type} (item : Value → Bytes → Prop)
    (entry : σ → String → Bytes → Except Fault (σ × Bytes))
    (step : σ → String → Value → σ → Prop)
    (hentry : ∀ a k v s ws ws' rest a' rest', item v s → Blank ws → Blank ws' →
      Stops isNumberOctet rest →
      (entry a k (ws ++ 0x3A :: (ws' ++ (s ++ rest))) = .ok (a', rest')
        ↔ rest' = rest ∧ step a k v a'))
    (more : Bool) (ms : List (String × Value)) (s : Bytes) (h : MembersSpelling item more ms s)
    (fuel : Nat) (hfuel : s.length ≤ fuel) (a : σ) (rest : Bytes) (b : σ) (rest' : Bytes) :
    members entry fuel more a (s ++ rest) = .ok (b, rest') ↔ rest' = rest ∧ Steps step a ms b := by
  -- a key that was found is read, the member is taken, and the others follow
  have hmember : ∀ (more : Bool) (k : String) (v : Value) (s t u : Bytes) (fuel : Nat)
      (ms : List (String × Value)) (a : σ), MemberSpelling item k v (0x22 :: s) →
      MembersSpelling item true ms t → keyAhead more u = .ok (true, s ++ (t ++ rest)) →
      (∀ a', members entry fuel true a' (t ++ rest) = .ok (b, rest')
        ↔ rest' = rest ∧ Steps step a' ms b) →
      (members entry (fuel + 1) more a u = .ok (b, rest')
        ↔ rest' = rest ∧ Steps step a ((k, v) :: ms) b) := by
    intro more k v s t u fuel ms a hm hms hu hmore
    obtain ⟨w, hkey, htake⟩ : ∃ w, string (s ++ (t ++ rest)) = .ok (k, w)
        ∧ ∀ a' rest', entry a k w = .ok (a', rest') ↔ rest' = t ++ rest ∧ step a k v a' := by
      cases hm with
      | mk key ks ws ws' s v hks hws hws' hv =>
          have hkey := string_spelling key ks hks (ws ++ 0x3A :: (ws' ++ (s ++ (t ++ rest))))
          simp only [List.append_assoc, List.cons_append]
          exact ⟨_, hkey, fun a' rest' =>
            hentry a _ v s ws ws' _ a' rest' hv hws hws' (stops_members hms rest)⟩
    rw [members_succ, hu]
    show ((string (s ++ (t ++ rest))).bind fun key => (entry a key.1 key.2).bind
      fun r => members entry fuel true r.1 r.2) = _ ↔ _
    rw [hkey]
    show ((entry a k w).bind fun r => members entry fuel true r.1 r.2) = _ ↔ _
    constructor
    · intro h
      obtain ⟨⟨a', t'⟩, ha', h⟩ := (bind_eq_ok _ _ _).mp h
      obtain ⟨rfl, hstep⟩ := (htake a' t').mp ha'
      obtain ⟨hrest, hsteps⟩ := (hmore a').mp h
      exact ⟨hrest, a', hstep, hsteps⟩
    · rintro ⟨hrest, a', hstep, hsteps⟩
      exact (bind_eq_ok _ _ _).mpr
        ⟨(a', t ++ rest), (htake a' _).mpr ⟨rfl, hstep⟩, (hmore a').mpr ⟨hrest, hsteps⟩⟩
  induction h generalizing fuel a with
  | close more ws hws =>
      rw [List.length_append, List.length_singleton] at hfuel
      obtain ⟨fuel, rfl⟩ : ∃ n, fuel = n + 1 := ⟨fuel - 1, by omega⟩
      rw [List.append_assoc, List.singleton_append, members_succ, keyAhead_close more ws rest hws]
      show Except.ok (a, rest) = Except.ok (b, rest') ↔ rest' = rest ∧ b = a
      rw [Except.ok.injEq, Prod.mk.injEq, and_comm, eq_comm, @eq_comm _ a b]
  | first ws s t k v ms hws hm hms ih =>
      obtain ⟨u, rfl⟩ := hm.quoted
      rw [List.length_append, List.length_append, List.length_cons] at hfuel
      obtain ⟨fuel, rfl⟩ : ∃ n, fuel = n + 1 := ⟨fuel - 1, by omega⟩
      rw [List.append_assoc, List.append_assoc, List.cons_append]
      exact hmember false k v u t _ fuel ms a hm hms (keyAhead_first ws _ hws)
        fun a' => ih fuel (by omega) a'
  | next ws ws' s t k v ms hws hws' hm hms ih =>
      obtain ⟨u, rfl⟩ := hm.quoted
      rw [List.length_append, List.length_cons, List.length_append, List.length_append] at hfuel
      obtain ⟨fuel, rfl⟩ : ∃ n, fuel = n + 1 := ⟨fuel - 1, by omega⟩
      rw [List.append_assoc, List.cons_append, List.append_assoc, List.append_assoc,
        List.cons_append]
      exact hmember true k v u t _ fuel ms a hm hms (keyAhead_next ws ws' _ hws hws')
        fun a' => ih fuel (by omega) a'

/-- What is done with a member of an object. -/
def putMember (read : Bytes → Except Fault (Value × Bytes)) (ms : List (String × Value))
    (key : String) (s : Bytes) : Except Fault (List (String × Value) × Bytes) := do
  let s ← colon s
  let (v, rest) ← read s
  return (insertMember key v ms, rest)

theorem putMember_eq_ok (read : Bytes → Except Fault (Value × Bytes))
    (ms ms' : List (String × Value)) (key : String) (s rest : Bytes) :
    putMember read ms key s = .ok (ms', rest)
      ↔ ∃ t v, colon s = .ok t ∧ read t = .ok (v, rest) ∧ ms' = insertMember key v ms := by
  rw [putMember, bind_eq_ok]
  constructor
  · rintro ⟨t, ht, h⟩
    obtain ⟨⟨v, u⟩, hv, h⟩ := (bind_eq_ok _ _ _).mp h
    cases h
    exact ⟨t, v, ht, hv, rfl⟩
  · rintro ⟨t, v, ht, hv, rfl⟩
    exact ⟨t, ht, (bind_eq_ok _ _ _).mpr ⟨(v, rest), hv, rfl⟩⟩

/-- Steps that put in one member each. -/
theorem steps_insertMember (a ms b : List (String × Value)) :
    Steps (fun a k v a' => a' = insertMember k v a) a ms b
      ↔ b = ms.foldl (fun acc m => insertMember m.1 m.2 acc) a := by
  induction ms generalizing a with
  | nil => exact Iff.rfl
  | cons m ms ih =>
      rw [Steps, List.foldl_cons]
      constructor
      · rintro ⟨_, rfl, h⟩
        exact (ih _).mp h
      · intro h
        exact ⟨_, rfl, (ih _).mpr h⟩

/-- **Spelled members are put in one after the other.** -/
theorem members_spelling (item : Value → Bytes → Prop)
    (read : Bytes → Except Fault (Value × Bytes)) (hread : Reads item read) (more : Bool)
    (ms : List (String × Value)) (s : Bytes) (h : MembersSpelling item more ms s) (fuel : Nat)
    (hfuel : s.length ≤ fuel) (state : List (String × Value)) (rest : Bytes) :
    members (putMember read) fuel more state (s ++ rest)
      = .ok (ms.foldl (fun acc m => insertMember m.1 m.2 acc) state, rest) := by
  refine (members_steps item (putMember read) (fun a k v a' => a' = insertMember k v a) ?_ more ms
    s h fuel hfuel state rest _ rest).mpr ⟨rfl, (steps_insertMember _ _ _).mpr rfl⟩
  intro a k v s ws ws' rest a' rest' hv hws hws' hrest
  have hread := hread.ok v s hv ws' rest hws' hrest
  rw [putMember_eq_ok, colon_cons ws _ hws]
  constructor
  · rintro ⟨t, w, ht, hw, rfl⟩
    cases ht
    rw [hread] at hw
    cases hw
    exact ⟨rfl, rfl⟩
  · rintro ⟨rfl, rfl⟩
    exact ⟨_, v, rfl, hread, rfl⟩

/-! ## §6. Documents. -/

/-- The spellings of a document with at most `levels` arrays and objects inside one
another.  Of the members with one key the last counts. -/
def Spelling : (levels : Nat) → Value → Bytes → Prop
  | 0, v, s => ScalarSpelling v s
  | levels + 1, v, s =>
      ScalarSpelling v s
        ∨ (∃ vs t, v = .array vs ∧ s = 0x5B :: t ∧ ItemsSpelling (Spelling levels) false vs t)
        ∨ (∃ ms t, v = .object (sortMembers ms) ∧ s = 0x7B :: t
          ∧ MembersSpelling (Spelling levels) false ms t)

theorem value_array (levels : Nat) (ws s : Bytes) (hws : Blank ws) :
    value (levels + 1) (ws ++ 0x5B :: s) = (do
      let (vs, rest) ← sequence (pushItem (value levels)) (s.length + 1) false [] s
      return (.array vs.reverse, rest)) := by
  rw [value, scalarOr, skipSpace_cons ws 0x5B s hws (by decide)]
  rfl

theorem value_object (levels : Nat) (ws s : Bytes) (hws : Blank ws) :
    value (levels + 1) (ws ++ 0x7B :: s) = (do
      let (ms, rest) ← members (putMember (value levels)) (s.length + 1) false [] s
      return (.object ms, rest)) := by
  rw [value, scalarOr, skipSpace_cons ws 0x7B s hws (by decide)]
  rfl

/-- **A spelled document is read**, whatever follows it. -/
theorem reads_spelling (levels : Nat) : Reads (Spelling levels) (value levels) := by
  induction levels with
  | zero => exact ⟨fun v s h => h.opens, fun v s h => scalarOr_spelling _ _ v s h⟩
  | succ levels ih =>
      constructor
      · rintro v s (h | ⟨vs, t, -, rfl, -⟩ | ⟨ms, t, -, rfl, -⟩)
        · exact h.opens
        · exact ⟨0x5B, t, rfl, by decide, by decide, by decide⟩
        · exact ⟨0x7B, t, rfl, by decide, by decide, by decide⟩
      · rintro v s (h | ⟨vs, t, rfl, rfl, h⟩ | ⟨ms, t, rfl, rfl, h⟩) ws rest hws hrest
        · rw [value]
          exact scalarOr_spelling _ _ v s h ws rest hws hrest
        · have hitems := sequence_spelling _ _ ih false vs t h ((t ++ rest).length + 1)
            (by rw [List.length_append]; omega) [] rest
          rw [List.cons_append, value_array levels ws _ hws, hitems]
          simp [pure, Except.pure, bind, Except.bind]
        · have hmembers := members_spelling _ _ ih false ms t h ((t ++ rest).length + 1)
            (by rw [List.length_append]; omega) [] rest
          rw [List.cons_append, value_object levels ws _ hws, hmembers]
          rfl

/-- Blanks may follow a document. -/
theorem finish_blank (ws : Bytes) (hws : Blank ws) : finish ws = .ok () := by
  have hskip := skipSpace_append ws [] hws (stops_nil _)
  rw [List.append_nil] at hskip
  unfold finish
  rw [hskip]

/-- **A text that spells a document is read as that document**, blanks around it apart. -/
theorem read_spelling (v : Value) (ws s ws' : Bytes) (hws : Blank ws) (hws' : Blank ws')
    (h : Spelling nestingLimit v s) : Value.read (ws ++ (s ++ ws')) = .ok v := by
  have hread := (reads_spelling nestingLimit).ok v s h ws ws' hws (stops_of_blank ws' hws')
  unfold Value.read
  rw [hread]
  show (finish ws').bind _ = _
  rw [finish_blank ws' hws']
  rfl

end FormUpload.Json
