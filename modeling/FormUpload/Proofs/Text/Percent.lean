import FormUpload.Proofs.Text.Utf8
import FormUpload.Text.Percent

/-!
# Reading what was percent-encoded

Decoding takes back what encoding wrote, whatever set of characters is encoded, as long
as the percent sign is among them (`percentDecode_percentEncode`).  What is written is
ASCII and holds no character of the set but percent signs and digits
(`mem_percentEncode`).
-/

namespace FormUpload.Text

/-! ## §1. One octet. -/

/-- The percent sign and the digits that follow it. -/
def percentMarks : List Char :=
  ['%', '0', '1', '2', '3', '4', '5', '6', '7', '8', '9', 'A', 'B', 'C', 'D', 'E', 'F']

theorem hexDigitUpper_mem (n : Nat) (h : n < 16) : hexDigitUpper n ∈ percentMarks := by
  interval_cases n <;> decide

theorem hexValue?_hexDigitUpper (n : Nat) (h : n < 16) :
    hexValue? (UInt8.ofNat (hexDigitUpper n).toNat) = some n := by
  interval_cases n <;> decide

theorem lt_of_mem_percentMarks (c : Char) (h : c ∈ percentMarks) : c.toNat < 0x80 := by
  have hall : (percentMarks.all fun c => c.toNat < 0x80) = true := by decide
  exact of_decide_eq_true (List.all_eq_true.mp hall c h)

theorem mem_percentOctet (b : UInt8) (c : Char) (h : c ∈ percentOctet b) : c ∈ percentMarks := by
  have hb := b.toNat_lt
  unfold percentOctet at h
  simp only [List.mem_cons, List.not_mem_nil, or_false] at h
  rcases h with rfl | rfl | rfl
  · exact List.mem_cons_self
  · exact hexDigitUpper_mem _ (by omega)
  · exact hexDigitUpper_mem _ (by omega)

theorem encode_percentOctet (b : UInt8) :
    Utf8.encode (percentOctet b)
      = [0x25, UInt8.ofNat (hexDigitUpper (b.toNat / 16)).toNat,
          UInt8.ofNat (hexDigitUpper (b.toNat % 16)).toNat] := by
  rw [Utf8.encode_ascii]
  · rfl
  · intro c hc
    exact lt_of_mem_percentMarks c (mem_percentOctet b c hc)

/-- **One encoded octet is read back.** -/
theorem percentDecode_percentOctet (b : UInt8) (s : Bytes) :
    percentDecode (Utf8.encode (percentOctet b) ++ s) = b :: percentDecode s := by
  have hb := b.toNat_lt
  rw [encode_percentOctet]
  -- a percent sign and two digits: the digits make up the octet
  show percentDecode (0x25 :: _ :: _ :: s) = _
  rw [percentDecode, hexValue?_hexDigitUpper _ (by omega), hexValue?_hexDigitUpper _ (by omega)]
  show UInt8.ofNat (b.toNat / 16 * 16 + b.toNat % 16) :: _ = _
  rw [show b.toNat / 16 * 16 + b.toNat % 16 = b.toNat by omega, UInt8.ofNat_toNat]

theorem percentDecode_octets (bs : Bytes) (s : Bytes) :
    percentDecode (Utf8.encode (bs.flatMap percentOctet) ++ s) = bs ++ percentDecode s := by
  induction bs with
  | nil => rfl
  | cons b bs ih =>
      rw [List.flatMap_cons, Utf8.encode_append, List.append_assoc, percentDecode_percentOctet, ih]
      rfl

/-- An octet that is no percent sign stands for itself. -/
theorem percentDecode_cons (b : UInt8) (s : Bytes) (h : b ≠ 0x25) :
    percentDecode (b :: s) = b :: percentDecode s := by
  rw [percentDecode.eq_def]
  split
  · next hs => cases hs
  · next hs => exact absurd (List.cons.inj hs).1 h
  · next hs =>
    rw [(List.cons.inj hs).1, (List.cons.inj hs).2]

/-! ## §2. Texts. -/

theorem percentEncode_cons (inSet : Char → Bool) (c : Char) (cs : List Char) :
    percentEncode inSet (c :: cs) = percentChar inSet c ++ percentEncode inSet cs := rfl

theorem mem_percentChar (inSet : Char → Bool) (c d : Char) (h : d ∈ percentChar inSet c) :
    d ∈ percentMarks ∨ (d = c ∧ d.toNat < 0x80 ∧ inSet d = false) := by
  unfold percentChar at h
  split at h
  · next hc =>
    rw [List.mem_singleton] at h
    simp only [Bool.and_eq_true, decide_eq_true_eq, Bool.not_eq_true'] at hc
    rw [h]
    exact Or.inr ⟨rfl, hc⟩
  · obtain ⟨b, _, hb⟩ := List.mem_flatMap.mp h
    exact Or.inl (mem_percentOctet b d hb)

theorem mem_percentEncode (inSet : Char → Bool) (cs : List Char) (d : Char)
    (h : d ∈ percentEncode inSet cs) :
    d.toNat < 0x80 ∧ (d ∈ percentMarks ∨ inSet d = false) := by
  unfold percentEncode at h
  obtain ⟨c, _, hd⟩ := List.mem_flatMap.mp h
  rcases mem_percentChar inSet c d hd with hd | ⟨_, hlt, hset⟩
  · exact ⟨lt_of_mem_percentMarks d hd, Or.inl hd⟩
  · exact ⟨hlt, Or.inr hset⟩

/-- What is encoded is not written, the marks of the encoding apart. -/
theorem not_mem_percentEncode (inSet : Char → Bool) (cs : List Char) (d : Char)
    (hset : inSet d = true) (hmark : d ∉ percentMarks) : d ∉ percentEncode inSet cs := by
  intro h
  rcases (mem_percentEncode inSet cs d h).2 with h | h
  · exact hmark h
  · rw [hset] at h
    cases h

theorem percentDecode_percentChar (inSet : Char → Bool) (hset : inSet '%' = true) (c : Char)
    (s : Bytes) :
    percentDecode (Utf8.encode (percentChar inSet c) ++ s)
      = Utf8.encodeChar c ++ percentDecode s := by
  unfold percentChar
  split
  · next hc =>
    simp only [Bool.and_eq_true, decide_eq_true_eq, Bool.not_eq_true'] at hc
    -- the percent sign is encoded itself, so this character is another one
    have hne : UInt8.ofNat c.toNat ≠ 0x25 := by
      intro h
      have hn := congrArg UInt8.toNat h
      rw [Utf8.toNat_ofNat _ (by omega)] at hn
      have hp : c = '%' := Char.toNat_inj.mp hn
      rw [hp, hset] at hc
      exact Bool.noConfusion hc.2
    rw [Utf8.encode_cons, Utf8.encodeChar_ascii c hc.1]
    exact percentDecode_cons _ _ hne
  · exact percentDecode_octets (Utf8.encodeChar c) s

/-- **A percent-encoded text is read back.** -/
theorem percentDecode_percentEncode (inSet : Char → Bool) (hset : inSet '%' = true)
    (cs : List Char) :
    percentDecode (Utf8.encode (percentEncode inSet cs)) = Utf8.encode cs := by
  induction cs with
  | nil => rfl
  | cons c cs ih =>
      rw [percentEncode_cons, Utf8.encode_append, percentDecode_percentChar inSet hset, ih]
      rfl

end FormUpload.Text
