import FormUpload.Proofs.Text.Ascii
import FormUpload.Proofs.Text.Utf8

/-!
# Decimal digits

What `decimal` writes are digits, without a zero in front but for zero itself
(`decimal_head`), and adding them up from the left gives the number again, on characters
(`Nat.ofDigitChars`) and on octets (`foldl_encode`).
-/

namespace FormUpload.Text

/-! ## §1. Digits. -/

theorem isDigitChar_of_mem (n : Nat) (c : Char) (h : c ∈ decimal n) : isDigitChar c = true := by
  have hd := Nat.isDigit_of_mem_toDigits (by decide) (by decide) h
  rw [isDigitChar_iff]
  unfold Char.isDigit at hd
  simp only [Bool.and_eq_true, decide_eq_true_eq, ge_iff_le, UInt32.le_iff_toNat_le] at hd
  exact hd

/-- The octet of a digit. -/
theorem encodeChar_digit (c : Char) (h : isDigitChar c = true) :
    ∃ b, Utf8.encodeChar c = [b] ∧ isDigit b = true ∧ digitValue b = c.toNat - 48 := by
  rw [isDigitChar_iff] at h
  have hb : (UInt8.ofNat c.toNat).toNat = c.toNat := Utf8.toNat_ofNat _ (by omega)
  refine ⟨UInt8.ofNat c.toNat, Utf8.encodeChar_ascii c (by omega), ?_, ?_⟩
  · rw [isDigit_iff, hb]
    exact h
  · unfold digitValue
    rw [hb]

theorem isDigit_of_mem_encode (cs : List Char) (hcs : ∀ c ∈ cs, isDigitChar c = true) (b : UInt8)
    (h : b ∈ Utf8.encode cs) : isDigit b = true := by
  obtain ⟨c, hc, hb⟩ := List.mem_flatMap.mp h
  obtain ⟨d, hd, hdigit, -⟩ := encodeChar_digit c (hcs c hc)
  rw [hd, List.mem_singleton] at hb
  rw [hb]
  exact hdigit

/-! ## §2. Numbers. -/

theorem decimal_ne_nil (n : Nat) : decimal n ≠ [] := Nat.toDigits_ne_nil

/-- Only zero begins with a zero. -/
theorem decimal_head (n : Nat) (hn : 0 < n) : ∃ c cs, decimal n = c :: cs ∧ c ≠ '0' := by
  induction n using Nat.strongRecOn with
  | ind n ih =>
      by_cases hlt : n < 10
      -- one digit, and it is not zero since `n` is not
      · refine ⟨Nat.digitChar n, [], Nat.toDigits_of_lt_base hlt, ?_⟩
        interval_cases n <;> decide
      -- the first digit is that of the number without its last digit
      · obtain ⟨c, cs, hcs, hc⟩ := ih (n / 10) (by omega) (by omega)
        refine ⟨c, cs ++ [Nat.digitChar (n % 10)], ?_, hc⟩
        unfold decimal at hcs ⊢
        rw [Nat.toDigits_of_base_le (by decide) (by omega), hcs]
        rfl

/-- Adding a digit makes no number smaller. -/
theorem le_ofDigitChars (cs : List Char) (m : Nat) : m ≤ Nat.ofDigitChars 10 cs m := by
  induction cs generalizing m with
  | nil => rw [Nat.ofDigitChars_nil]
  | cons c cs ih =>
      rw [Nat.ofDigitChars_cons]
      have := ih (10 * m + (c.toNat - '0'.toNat))
      omega

/-- Digits are added up alike as octets. -/
theorem foldl_encode (cs : List Char) (hcs : ∀ c ∈ cs, isDigitChar c = true) (m : Nat) :
    (Utf8.encode cs).foldl (fun n b => n * 10 + digitValue b) m = Nat.ofDigitChars 10 cs m := by
  induction cs generalizing m with
  | nil => rfl
  | cons c cs ih =>
      obtain ⟨hc, hcs⟩ := List.forall_mem_cons.mp hcs
      obtain ⟨b, hb, -, hvalue⟩ := encodeChar_digit c hc
      rw [Utf8.encode_cons, hb, List.singleton_append, List.foldl_cons, ih hcs,
        Nat.ofDigitChars_cons, hvalue, Nat.mul_comm]
      rfl

/-- **The digits of a number add up to it.** -/
theorem ofDigitChars_decimal (n : Nat) : Nat.ofDigitChars 10 (decimal n) 0 = n :=
  Nat.ofDigitChars_ten_toDigits

/-- A number of at most `k` digits is written with as many. -/
theorem length_decimal_le (n k : Nat) (hk : 0 < k) (h : n < 10 ^ k) : (decimal n).length ≤ k :=
  (Nat.length_toDigits_le_iff (by decide) hk).mpr h

end FormUpload.Text
