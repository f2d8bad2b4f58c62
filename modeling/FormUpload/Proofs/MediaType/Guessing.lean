import FormUpload.Proofs.MediaType.Reading
import FormUpload.Proofs.Text.Utf8

/-!
# Guessed media types

Every media type of the registry is plain: two runs of small letters, digits and a few
marks, with a slash between them.  So what a file name stands for is always a media type
(`parse?_guess`), and it is written as it is.
-/

namespace FormUpload.MediaType

open FormUpload.Text

/-! ## §1. Plain types. -/

/-- The numbers of small letters, digits, `+`, `-`, `.` and `_`. -/
def isPlainNumber (n : Nat) : Bool :=
  (Nat.ble 97 n && Nat.ble n 122) || (Nat.ble 48 n && Nat.ble n 57) || n.beq 43 || n.beq 45
    || n.beq 46 || n.beq 95

/-- Two runs of such numbers with the number of the slash between them. -/
def isPlainType (ns : List Nat) : Bool :=
  match ns.takeWhile isPlainNumber, ns.dropWhile isPlainNumber with
  | _ :: _, slash :: n :: r => slash.beq 47 && (n :: r).all isPlainNumber
  | _, _ => false

theorem isPlainNumber_iff (n : Nat) : isPlainNumber n = true
    ↔ (97 ≤ n ∧ n ≤ 122) ∨ (48 ≤ n ∧ n ≤ 57) ∨ n = 43 ∨ n = 45 ∨ n = 46 ∨ n = 95 := by
  unfold isPlainNumber
  simp only [Bool.or_eq_true, Bool.and_eq_true, Nat.ble_eq, Nat.beq_eq]
  omega

/-- Every media type of the registry is plain, by a look at its octets. -/
theorem registry_plain :
    (registry.all fun row => isPlainType (row.1.toByteArray.data.toList.map UInt8.toNat))
      = true := by
  decide +kernel

/-! ## §2. Octets and characters. -/

/-- What is written with octets of ASCII only has one octet for each character. -/
theorem utf8EncodeChar_ascii (c : Char)
    (h : ∀ b ∈ String.utf8EncodeChar c, b.toNat < 0x80) :
    (String.utf8EncodeChar c).map UInt8.toNat = [c.toNat] := by
  unfold String.utf8EncodeChar at h ⊢
  simp only at h ⊢
  split
  · next hlow =>
    rw [List.map_singleton, Utf8.toNat_ofNat _ (by omega)]
    rfl
  · next hhigh =>
    -- beyond ASCII the first octet is beyond ASCII
    exfalso
    rw [if_neg hhigh] at h
    split at h
    · have := h _ List.mem_cons_self
      rw [Utf8.toNat_ofNat _ (by omega)] at this
      omega
    · split at h
      · have := h _ List.mem_cons_self
        rw [Utf8.toNat_ofNat _ (by omega)] at this
        omega
      · have := h _ List.mem_cons_self
        rw [Utf8.toNat_ofNat _ (by omega)] at this
        omega

theorem octets_ascii (s : String) (h : ∀ n ∈ s.toByteArray.data.toList.map UInt8.toNat, n < 0x80) :
    s.toByteArray.data.toList.map UInt8.toNat = s.toList.map Char.toNat := by
  have hoctets : s.toByteArray.data.toList = s.toList.flatMap String.utf8EncodeChar := by
    rw [← String.utf8Encode_toList]
    unfold List.utf8Encode
    rw [List.toList_data_toByteArray]
  rw [hoctets] at h ⊢
  generalize s.toList = cs at h
  induction cs with
  | nil => rfl
  | cons c cs ih =>
      rw [List.flatMap_cons, List.map_append] at h ⊢
      rw [utf8EncodeChar_ascii c, ih, List.map_cons]
      · rfl
      · intro n hn
        exact h n (List.mem_append_right _ hn)
      · intro b hb
        exact h b.toNat (List.mem_append_left _ (List.mem_map_of_mem hb))

/-! ## §3. Plain characters. -/

/-- Small letters, digits, `+`, `-`, `.` and `_`. -/
def isPlainChar (c : Char) : Bool := isPlainNumber c.toNat

/-- Two runs of plain characters with a slash between them. -/
def PlainType (cs : List Char) : Prop :=
  ∃ c type d subtype, (∀ x ∈ c :: type, isPlainChar x = true)
    ∧ (∀ x ∈ d :: subtype, isPlainChar x = true) ∧ cs = c :: type ++ '/' :: d :: subtype

theorem isTokenChar_of_plain (c : Char) (h : isPlainChar c = true) : isTokenChar c = true := by
  -- letters and digits are told by their numbers, the four marks by the table
  have hmark : ∀ d : Char, c.toNat = d.toNat → d ∈ tokenMarks → isTokenChar c = true := by
    intro d hd hmem
    rw [Char.toNat_inj.mp hd]
    unfold isTokenChar
    rw [Bool.or_eq_true, List.contains_iff_mem]
    exact Or.inr hmem
  rcases (isPlainNumber_iff _).mp h with h | h | h | h | h | h
  · unfold isTokenChar
    rw [Bool.or_eq_true, Bool.or_eq_true, isLetter_iff]
    exact Or.inl (Or.inl (Or.inl h))
  · unfold isTokenChar
    rw [Bool.or_eq_true, Bool.or_eq_true, isDigitChar_iff]
    exact Or.inl (Or.inr h)
  · exact hmark '+' h (by decide)
  · exact hmark '-' h (by decide)
  · exact hmark '.' h (by decide)
  · exact hmark '_' h (by decide)

theorem lowerChar_of_plain (c : Char) (h : isPlainChar c = true) : lowerChar c = c := by
  have h := (isPlainNumber_iff _).mp h
  unfold lowerChar
  rw [if_neg]
  simp only [Bool.and_eq_true, decide_eq_true_eq, Char.le_def, UInt32.le_iff_toNat_le]
  rintro ⟨hlow, hhigh⟩
  have hlow : 65 ≤ c.toNat := hlow
  have hhigh : c.toNat ≤ 90 := hhigh
  omega

theorem plainType_of_numbers (cs : List Char) (h : isPlainType (cs.map Char.toNat) = true) :
    PlainType cs := by
  have htake : (cs.map Char.toNat).takeWhile isPlainNumber
      = (cs.takeWhile isPlainChar).map Char.toNat := List.takeWhile_map
  have hdrop : (cs.map Char.toNat).dropWhile isPlainNumber
      = (cs.dropWhile isPlainChar).map Char.toNat := List.dropWhile_map
  have hcs : cs = cs.takeWhile isPlainChar ++ cs.dropWhile isPlainChar :=
    List.takeWhile_append_dropWhile.symm
  have hrun : ∀ c ∈ cs.takeWhile isPlainChar, isPlainChar c = true :=
    fun c hc => List.mem_takeWhile_imp hc
  unfold isPlainType at h
  rw [htake, hdrop] at h
  -- the numbers are those of the runs of plain characters
  generalize cs.takeWhile isPlainChar = type at h hcs hrun
  generalize cs.dropWhile isPlainChar = rest at h hcs
  match type, rest, h with
  | c :: type, slash :: d :: subtype, h =>
      simp only [List.map_cons, Bool.and_eq_true, Nat.beq_eq] at h
      obtain ⟨hslash, hsub⟩ := h
      have hslash : slash = '/' := Char.toNat_inj.mp hslash
      refine ⟨c, type, d, subtype, hrun, ?_, by rw [hcs, hslash]⟩
      intro x hx
      rw [← List.map_cons] at hsub
      exact List.all_eq_true.mp hsub _ (List.mem_map_of_mem hx)

/-! ## §4. What is guessed. -/

/-- Every media type of the registry is plain. -/
theorem plainType_of_row (row : String × String) (h : row ∈ registry) :
    PlainType row.1.toList := by
  have hrow := List.all_eq_true.mp registry_plain row h
  have hsmall : ∀ n ∈ row.1.toByteArray.data.toList.map UInt8.toNat, n < 0x80 := by
    -- plain numbers and the slash are all below 128
    generalize row.1.toByteArray.data.toList.map UInt8.toNat = ns at hrow ⊢
    have hns : ns = ns.takeWhile isPlainNumber ++ ns.dropWhile isPlainNumber :=
      List.takeWhile_append_dropWhile.symm
    have hrun : ∀ n ∈ ns.takeWhile isPlainNumber, n < 0x80 := by
      intro n hn
      have := (isPlainNumber_iff n).mp (List.mem_takeWhile_imp hn)
      omega
    unfold isPlainType at hrow
    generalize ns.takeWhile isPlainNumber = type at hrow hns hrun
    generalize ns.dropWhile isPlainNumber = rest at hrow hns
    match type, rest, hrow with
    | m :: type, slash :: k :: subtype, hrow =>
        simp only [Bool.and_eq_true, Nat.beq_eq] at hrow
        intro n hn
        rw [hns] at hn
        rcases List.mem_append.mp hn with hn | hn
        · exact hrun n hn
        · rcases List.mem_cons.mp hn with rfl | hn
          · rw [hrow.1]
            decide
          · have := (isPlainNumber_iff n).mp (List.all_eq_true.mp hrow.2 n hn)
            omega
  rw [octets_ascii _ hsmall] at hrow
  exact plainType_of_numbers _ hrow

/-- What a file name stands for is plain. -/
theorem plainType_guess (fileName : String) : PlainType (guess fileName).toList := by
  have hany : PlainType anyContent.toList := plainType_of_numbers _ (by decide)
  unfold guess
  split
  · exact hany
  · next extension _ =>
    unfold ofExtension?
    cases hrow : registry.find? fun row => inRow (extension.flatMap foldCase) row.2 with
    | none => exact hany
    | some row => exact plainType_of_row row (List.mem_of_find?_eq_some hrow)

/-- A plain type is a media type that is written as it is. -/
theorem parse_plain (cs : List Char) (h : PlainType cs) : parseChars? cs = some ⟨cs, []⟩ := by
  obtain ⟨c, type, d, subtype, htype, hsub, rfl⟩ := h
  have hlower : (c :: type ++ '/' :: d :: subtype).map lowerChar
      = c :: type ++ '/' :: d :: subtype := by
    have hsame : ∀ x ∈ c :: type ++ '/' :: d :: subtype, lowerChar x = x := by
      intro x hx
      rcases List.mem_append.mp hx with hx | hx
      · exact lowerChar_of_plain x (htype x hx)
      · rcases List.mem_cons.mp hx with rfl | hx
        · decide
        · exact lowerChar_of_plain x (hsub x hx)
    exact (List.map_congr_left hsame).trans (List.map_id _)
  have h := parseChars?_essence c type (d :: subtype)
    (fun x hx => isTokenChar_of_plain x (htype x hx))
    (fun x hx => isTokenChar_of_plain x (hsub x hx))
  rw [hlower] at h
  exact h

/-- Plain types are written in visible characters. -/
theorem PlainType.visible {cs : List Char} (h : PlainType cs) :
    ∀ c ∈ cs, 0x20 < c.toNat ∧ c.toNat < 0x7F := by
  obtain ⟨c, type, d, subtype, htype, hsub, rfl⟩ := h
  have hplain : ∀ x, isPlainChar x = true → 0x20 < x.toNat ∧ x.toNat < 0x7F := by
    intro x hx
    have := (isPlainNumber_iff _).mp hx
    omega
  intro x hx
  rcases List.mem_append.mp hx with hx | hx
  · exact hplain x (htype x hx)
  · rcases List.mem_cons.mp hx with rfl | hx
    · decide
    · exact hplain x (hsub x hx)

/-- **What a file name stands for is a media type**, and it is written as it is. -/
theorem parse?_guess (fileName : String) :
    parse? (guess fileName) = some ⟨(guess fileName).toList, []⟩ :=
  parse_plain _ (plainType_guess fileName)

end FormUpload.MediaType
