import FormUpload.Proofs.Text.Utf8
import FormUpload.Text.Ascii
import Mathlib.Tactic.IntervalCases

/-!
# Letters and digits

Letters and digits by their numbers, and how to prove what putting a character in lower
case keeps (`lowerChar_cases`).  Octets of ASCII can be put in lower case before or after they
are read as text (`stringLossy_lowerByte`).
-/

namespace FormUpload.Text

/-! ## §1. Numbers. -/

theorem isLetter_iff (c : Char) : isLetter c = true
    ↔ (97 ≤ c.toNat ∧ c.toNat ≤ 122) ∨ (65 ≤ c.toNat ∧ c.toNat ≤ 90) := by
  unfold isLetter
  simp only [Bool.or_eq_true, Bool.and_eq_true, decide_eq_true_eq, Char.le_def,
    UInt32.le_iff_toNat_le]
  rfl

theorem isDigitChar_iff (c : Char) : isDigitChar c = true ↔ 48 ≤ c.toNat ∧ c.toNat ≤ 57 := by
  unfold isDigitChar
  simp only [Bool.and_eq_true, decide_eq_true_eq, Char.le_def, UInt32.le_iff_toNat_le]
  rfl

theorem isDigit_iff (b : UInt8) : isDigit b = true ↔ 48 ≤ b.toNat ∧ b.toNat ≤ 57 := by
  unfold isDigit
  simp only [Bool.and_eq_true, decide_eq_true_eq, UInt8.le_iff_toNat_le]
  rfl

/-! ## §2. Lower case. -/

/-- The capital letters of ASCII. -/
def capitals : List Char := "ABCDEFGHIJKLMNOPQRSTUVWXYZ".toList

theorem mem_capitals (c : Char) (h : ('A' ≤ c && c ≤ 'Z') = true) : c ∈ capitals := by
  simp only [Bool.and_eq_true, decide_eq_true_eq, Char.le_def, UInt32.le_iff_toNat_le] at h
  have hlow : 65 ≤ c.toNat := h.1
  have hhigh : c.toNat ≤ 90 := h.2
  rw [← Char.ofNat_toNat c]
  -- there are few capitals: each is looked at
  generalize c.toNat = n at hlow hhigh ⊢
  interval_cases n <;> decide

/-- What holds of the small letters and of everything but the capitals holds of a
character put in lower case. -/
theorem lowerChar_cases (P : Char → Char → Prop) [∀ c d, Decidable (P c d)]
    (hcapital : (capitals.all fun c => P c (lowerChar c)) = true)
    (hother : ∀ c, P c c) (c : Char) : P c (lowerChar c) := by
  by_cases h : ('A' ≤ c && c ≤ 'Z') = true
  · exact of_decide_eq_true (List.all_eq_true.mp hcapital c (mem_capitals c h))
  · unfold lowerChar
    rw [if_neg h]
    exact hother c

theorem isLetter_lowerChar (c : Char) (h : isLetter c = true) : isLetter (lowerChar c) = true :=
  lowerChar_cases (fun c d => isLetter c = true → isLetter d = true) (by decide) (fun _ h => h) c h

theorem lowerChar_lowerChar (c : Char) : lowerChar (lowerChar c) = lowerChar c :=
  lowerChar_cases (fun c d => lowerChar d = lowerChar c) (by decide) (fun _ => rfl) c

/-- What is in lower case stays as it is. -/
theorem lower_lower (s : String) : lower (lower s) = lower s := by
  unfold lower
  rw [String.toList_ofList, List.map_map]
  congr 2
  funext c
  exact lowerChar_lowerChar c

/-! ## §3. Octets of ASCII. -/

/-- An octet of ASCII is read as the character of its number. -/
theorem lossy_ascii (s : Bytes) (h : ∀ b ∈ s, b.toNat < 0x80) :
    Utf8.lossy s = s.map fun b => Char.ofNat b.toNat := by
  induction s with
  | nil => rfl
  | cons b s ih =>
      obtain ⟨hb, hs⟩ := List.forall_mem_cons.mp h
      have hstart : Utf8.start b = .single (Char.ofNat b.toNat) := by
        unfold Utf8.start
        rw [if_pos (UInt8.lt_iff_toNat_lt.mpr hb)]
      rw [List.map_cons, ← ih hs]
      unfold Utf8.lossy
      rw [Utf8.pieces, hstart]
      rfl

theorem lowerByte_ascii (b : UInt8) (h : b.toNat < 0x80) :
    (lowerByte b).toNat < 0x80
      ∧ Char.ofNat (lowerByte b).toNat = lowerChar (Char.ofNat b.toNat) := by
  rw [← UInt8.ofNat_toNat (x := b)]
  generalize b.toNat = n at h ⊢
  -- ASCII has few octets: each is looked at
  revert n
  decide

/-- **Octets of ASCII are put in lower case before or after they are read.** -/
theorem stringLossy_lowerByte (s : Bytes) (h : ∀ b ∈ s, b.toNat < 0x80) :
    stringLossy (s.map lowerByte) = lower (stringLossy s) := by
  have hlower : ∀ b ∈ s.map lowerByte, b.toNat < 0x80 := by
    intro b hb
    obtain ⟨c, hc, rfl⟩ := List.mem_map.mp hb
    exact (lowerByte_ascii c (h c hc)).1
  unfold stringLossy lower
  rw [lossy_ascii _ hlower, lossy_ascii s h, String.toList_ofList, List.map_map, List.map_map]
  congr 1
  apply List.map_congr_left
  intro b hb
  exact (lowerByte_ascii b (h b hb)).2

end FormUpload.Text
