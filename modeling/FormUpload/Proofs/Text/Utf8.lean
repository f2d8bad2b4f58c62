import FormUpload.Text.Utf8
import Mathlib.Data.List.Basic
import Mathlib.Tactic.IntervalCases

/-!
# Reading what was written as UTF-8

Both readers take back every text that was written (`decode?_encode`, `lossy_encode`),
so a text is known by its octets (`encode_injective`).  Octets below `0x80` stand for
themselves alone: whatever is looked for by such an octet is not found inside another
character.
-/

namespace FormUpload.Text.Utf8

/-! ## §1. Octets of one character. -/

theorem toNat_ofNat (n : Nat) (h : n < 256) : (UInt8.ofNat n).toNat = n := by
  rw [UInt8.toNat_ofNat']
  omega

/-- What a character's number can be. -/
theorem scalar (c : Char) : c.toNat < 0xD800 ∨ (0xDFFF < c.toNat ∧ c.toNat < 0x110000) :=
  c.valid

theorem encodeChar_ascii (c : Char) (h : c.toNat < 0x80) :
    encodeChar c = [UInt8.ofNat c.toNat] := by
  unfold encodeChar
  rw [if_pos h]

/-- A character beyond ASCII is written with octets beyond ASCII only. -/
theorem le_of_mem_encodeChar (c : Char) (h : 0x80 ≤ c.toNat) (b : UInt8)
    (hb : b ∈ encodeChar c) : 0x80 ≤ b.toNat := by
  have hv := scalar c
  unfold encodeChar at hb
  -- each octet is a leading mark or `0x80`, plus what is below it
  simp only [if_neg (show ¬ c.toNat < 0x80 by omega)] at hb
  split at hb
  · simp only [List.mem_cons, List.not_mem_nil, or_false] at hb
    rcases hb with rfl | rfl <;> rw [toNat_ofNat _ (by omega)] <;> omega
  · split at hb
    · simp only [List.mem_cons, List.not_mem_nil, or_false] at hb
      rcases hb with rfl | rfl | rfl <;> rw [toNat_ofNat _ (by omega)] <;> omega
    · simp only [List.mem_cons, List.not_mem_nil, or_false] at hb
      rcases hb with rfl | rfl | rfl | rfl <;> rw [toNat_ofNat _ (by omega)] <;> omega

theorem encodeChar_ne_nil (c : Char) : encodeChar c ≠ [] := by
  unfold encodeChar
  simp only
  split
  · exact List.cons_ne_nil _ _
  · split
    · exact List.cons_ne_nil _ _
    · split <;> exact List.cons_ne_nil _ _

/-- An octet of ASCII is in a text only where its character is. -/
theorem mem_encode_ascii (cs : List Char) (b : UInt8) (hb : b.toNat < 0x80)
    (h : b ∈ encode cs) : Char.ofNat b.toNat ∈ cs := by
  unfold encode at h
  obtain ⟨c, hc, hbc⟩ := List.mem_flatMap.mp h
  by_cases hlt : c.toNat < 0x80
  · rw [encodeChar_ascii c hlt, List.mem_singleton] at hbc
    rw [hbc, toNat_ofNat _ (by omega), Char.ofNat_toNat]
    exact hc
  · have := le_of_mem_encodeChar c (by omega) b hbc
    omega

/-! ## §2. Texts. -/

@[simp] theorem encode_nil : encode [] = [] := rfl

theorem encode_cons (c : Char) (cs : List Char) : encode (c :: cs) = encodeChar c ++ encode cs :=
  rfl

@[simp] theorem encode_append (cs ds : List Char) : encode (cs ++ ds) = encode cs ++ encode ds :=
  List.flatMap_append

/-- A text ends with an octet of ASCII exactly if it ends with its character. -/
theorem getLast?_encode (cs : List Char) (d : Char) (hd : d.toNat < 0x80) :
    (encode cs).getLast? = some (UInt8.ofNat d.toNat) ↔ cs.getLast? = some d := by
  rcases List.eq_nil_or_concat cs with rfl | ⟨cs, c, rfl⟩
  · simp
  · have hlast : encode (cs ++ [c]) = encode cs ++ encodeChar c := by
      rw [encode_append, encode_cons, encode_nil, List.append_nil]
    rw [List.concat_eq_append, hlast, List.getLast?_append_of_ne_nil _ (encodeChar_ne_nil c),
      List.getLast?_concat, Option.some.injEq]
    by_cases hc : c.toNat < 0x80
    · rw [encodeChar_ascii c hc, List.getLast?_singleton, Option.some.injEq]
      constructor
      · intro h
        have h := congrArg UInt8.toNat h
        rw [toNat_ofNat _ (by omega), toNat_ofNat _ (by omega)] at h
        exact Char.toNat_inj.mp h
      · rintro rfl
        rfl
    -- a longer character ends with an octet beyond ASCII
    · constructor
      · intro h
        have hmem := le_of_mem_encodeChar c (by omega) _ (List.mem_of_getLast? h)
        rw [toNat_ofNat _ (by omega)] at hmem
        omega
      · rintro rfl
        exact absurd hd hc

/-- A text of ASCII has one octet for each character. -/
theorem encode_ascii (cs : List Char) (h : ∀ c ∈ cs, c.toNat < 0x80) :
    encode cs = cs.map fun c => UInt8.ofNat c.toNat := by
  induction cs with
  | nil => rfl
  | cons c cs ih =>
      rw [encode_cons, encodeChar_ascii c (h c List.mem_cons_self),
        ih fun d hd => h d (List.mem_cons_of_mem c hd)]
      rfl

/-! ## §3. Reading one character. -/

theorem pieces_longer (b : UInt8) (p : Partial) (s : Bytes) (h : start b = .longer p) :
    pieces none (b :: s) = pieces (some p) s := by
  rw [pieces, h]

theorem pieces_last (p : Partial) (b : UInt8) (s : Bytes) (h : p.accepts b = true)
    (hm : p.missing ≤ 1) :
    pieces (some p) (b :: s) = some (Char.ofNat (p.bitsWith b)) :: pieces none s := by
  rw [pieces, if_pos h, if_pos hm]

theorem pieces_inner (missing bits : Nat) (low high b : UInt8) (s : Bytes)
    (h : (Partial.mk (missing + 2) low high bits).accepts b = true) :
    pieces (some ⟨missing + 2, low, high, bits⟩) (b :: s)
      = pieces (some ⟨missing + 1, 0x80, 0xBF, (Partial.mk (missing + 2) low high bits).bitsWith b⟩)
          s := by
  rw [pieces, if_pos h, if_neg (by simp)]
  rfl

/-- An octet is accepted if its number lies in the range. -/
theorem accepts_ofNat (missing low high bits n : Nat) (hlow : low < 256) (hhigh : high < 256)
    (hn : n < 256) (h : low ≤ n ∧ n ≤ high) :
    (Partial.mk missing (UInt8.ofNat low) (UInt8.ofNat high) bits).accepts (UInt8.ofNat n)
      = true := by
  simp only [Partial.accepts, Bool.and_eq_true, decide_eq_true_eq, UInt8.le_iff_toNat_le]
  rw [toNat_ofNat low hlow, toNat_ofNat high hhigh, toNat_ofNat n hn]
  exact h

theorem bitsWith_ofNat (missing bits n : Nat) (low high : UInt8) (hn : 0x80 + n < 256) :
    (Partial.mk missing low high bits).bitsWith (UInt8.ofNat (0x80 + n)) = bits * 64 + n := by
  unfold Partial.bitsWith
  rw [toNat_ofNat _ hn, Nat.add_sub_cancel_left]

theorem start_ascii (c : Char) (h : c.toNat < 0x80) :
    start (UInt8.ofNat c.toNat) = .single c := by
  unfold start
  have hn := toNat_ofNat c.toNat (by omega)
  rw [if_pos (by rw [UInt8.lt_iff_toNat_lt, hn]; exact h), hn, Char.ofNat_toNat]

theorem start_two (k : Nat) (h : 2 ≤ k ∧ k < 32) :
    start (UInt8.ofNat (0xC0 + k)) = .longer ⟨1, 0x80, 0xBF, k⟩ := by
  obtain ⟨hlow, hhigh⟩ := h
  interval_cases k <;> rfl

/-- After a first octet the range of the second keeps out what has a shorter form or is a
surrogate. -/
theorem start_three (k : Nat) (h : k < 16) :
    start (UInt8.ofNat (0xE0 + k))
      = .longer ⟨2, UInt8.ofNat (if k = 0 then 0xA0 else 0x80),
          UInt8.ofNat (if k = 13 then 0x9F else 0xBF), k⟩ := by
  interval_cases k <;> rfl

theorem start_four (k : Nat) (h : k < 5) :
    start (UInt8.ofNat (0xF0 + k))
      = .longer ⟨3, UInt8.ofNat (if k = 0 then 0x90 else 0x80),
          UInt8.ofNat (if k = 4 then 0x8F else 0xBF), k⟩ := by
  interval_cases k <;> rfl

/-- An octet that follows in a character, whatever came before it. -/
theorem accepts_tail (missing bits n : Nat) (hn : n < 64) :
    (Partial.mk missing 0x80 0xBF bits).accepts (UInt8.ofNat (0x80 + n)) = true :=
  accepts_ofNat missing 0x80 0xBF bits (0x80 + n) (by omega) (by omega) (by omega) (by omega)

/-- **One written character is read back.** -/
theorem pieces_encodeChar (c : Char) (s : Bytes) :
    pieces none (encodeChar c ++ s) = some c :: pieces none s := by
  have hv := scalar c
  have hc := Char.ofNat_toNat c
  unfold encodeChar
  simp only
  split
  · next h =>
    -- one octet: it is the character
    rw [List.singleton_append, pieces, start_ascii c h]
  · next h1 =>
    split
    · next h2 =>
      -- two octets: five bits, then six
      rw [List.cons_append, pieces_longer _ _ _ (start_two (c.toNat / 64) (by omega)),
        List.singleton_append,
        pieces_last _ _ _ (accepts_tail 1 _ (c.toNat % 64) (by omega)) (by simp),
        bitsWith_ofNat _ _ _ _ _ (by omega)]
      rw [show c.toNat / 64 * 64 + c.toNat % 64 = c.toNat by omega, hc]
    · next h2 =>
      split
      · next h3 =>
        -- three octets: the second is in range since `c` is no surrogate and has no shorter form
        rw [List.cons_append, pieces_longer _ _ _ (start_three (c.toNat / 4096) (by omega)),
          List.cons_append,
          pieces_inner 0 _ _ _ _ _ (accepts_ofNat 2 _ _ _ (0x80 + c.toNat / 64 % 64)
            (by split <;> omega) (by split <;> omega) (by omega)
            (by constructor <;> split <;> omega)),
          bitsWith_ofNat _ _ _ _ _ (by omega), List.singleton_append,
          pieces_last _ _ _ (accepts_tail 1 _ (c.toNat % 64) (by omega)) (by simp),
          bitsWith_ofNat _ _ _ _ _ (by omega)]
        rw [show (c.toNat / 4096 * 64 + c.toNat / 64 % 64) * 64 + c.toNat % 64 = c.toNat by omega,
          hc]
      · next h3 =>
        -- four octets: the second is in range since `c` lies beyond `0xFFFF` and below `0x110000`
        rw [List.cons_append, pieces_longer _ _ _ (start_four (c.toNat / 262144) (by omega)),
          List.cons_append,
          pieces_inner 1 _ _ _ _ _ (accepts_ofNat 3 _ _ _ (0x80 + c.toNat / 4096 % 64)
            (by split <;> omega) (by split <;> omega) (by omega)
            (by constructor <;> split <;> omega)),
          bitsWith_ofNat _ _ _ _ _ (by omega), List.cons_append,
          pieces_inner 0 _ _ _ _ _ (accepts_tail 2 _ (c.toNat / 64 % 64) (by omega)),
          bitsWith_ofNat _ _ _ _ _ (by omega), List.singleton_append,
          pieces_last _ _ _ (accepts_tail 1 _ (c.toNat % 64) (by omega)) (by simp),
          bitsWith_ofNat _ _ _ _ _ (by omega)]
        rw [show ((c.toNat / 262144 * 64 + c.toNat / 4096 % 64) * 64 + c.toNat / 64 % 64) * 64
            + c.toNat % 64 = c.toNat by omega, hc]

/-! ## §4. Reading texts. -/

theorem pieces_encode (cs : List Char) (s : Bytes) :
    pieces none (encode cs ++ s) = cs.map some ++ pieces none s := by
  induction cs with
  | nil => rfl
  | cons c cs ih =>
      rw [encode_cons, List.append_assoc, pieces_encodeChar, ih]
      rfl

theorem mapM_some (cs : List Char) : (cs.map some).mapM id = some cs := by
  induction cs with
  | nil => rfl
  | cons c cs ih =>
      rw [List.map_cons, List.mapM_cons, ih]
      rfl

/-- **A written text is read back.** -/
theorem decode?_encode (cs : List Char) : decode? (encode cs) = some cs := by
  have h := pieces_encode cs []
  rw [List.append_nil] at h
  unfold decode?
  rw [h, pieces, List.append_nil]
  exact mapM_some cs

theorem lossy_encode (cs : List Char) : lossy (encode cs) = cs := by
  have h := pieces_encode cs []
  rw [List.append_nil] at h
  unfold lossy
  rw [h]
  simp [pieces]

theorem encode_injective {cs ds : List Char} (h : encode cs = encode ds) : cs = ds := by
  have hd := decode?_encode cs
  rw [h, decode?_encode ds] at hd
  exact (Option.some.inj hd).symm

/-! ## §5. Lengths. -/

theorem length_encodeChar_le (c : Char) : (encodeChar c).length ≤ 4 := by
  unfold encodeChar
  simp only
  split
  · simp
  · split
    · simp
    · split <;> simp

theorem length_encode_le (cs : List Char) : (encode cs).length ≤ 4 * cs.length := by
  induction cs with
  | nil => simp
  | cons c cs ih =>
      have hc := length_encodeChar_le c
      rw [encode_cons, List.length_append, List.length_cons]
      omega

/-- Every piece takes an octet, but for one that was begun before. -/
theorem length_pieces_le (p : Option Partial) (s : Bytes) :
    (pieces p s).length ≤ s.length + p.toList.length := by
  induction s generalizing p with
  | nil => cases p <;> simp [pieces]
  | cons b s ih =>
      -- the rest may be read from a fresh start or inside the character begun here
      have hnone := ih none
      have hsome := fun q => ih (some q)
      simp only [Option.toList_none, Option.toList_some, List.length_nil, List.length_singleton]
        at hnone hsome
      rw [List.length_cons]
      cases p with
      | none =>
          rw [pieces]
          split
          · rw [List.length_cons]
            omega
          · next q _ =>
            have := hsome q
            omega
          · rw [List.length_cons]
            omega
      | some p =>
          rw [pieces, Option.toList_some, List.length_singleton]
          split
          · split
            · rw [List.length_cons]
              omega
            -- the octet belongs to the character, which is not complete
            · exact (hsome _).trans (by omega)
          -- it does not: one piece for what was begun, then `b` is looked at anew
          · rw [List.length_cons]
            split
            · rw [List.length_cons]
              omega
            · next q _ =>
              have := hsome q
              omega
            · rw [List.length_cons]
              omega

theorem length_lossy_le (s : Bytes) : (lossy s).length ≤ s.length := by
  unfold lossy
  rw [List.length_map]
  exact length_pieces_le none s

theorem length_of_mapM_id (ps : List (Option Char)) (cs : List Char) (h : ps.mapM id = some cs) :
    cs.length = ps.length := by
  induction ps generalizing cs with
  | nil =>
      cases h
      rfl
  | cons p ps ih =>
      rw [List.mapM_cons] at h
      obtain ⟨c, -, h⟩ := Option.bind_eq_some_iff.mp h
      obtain ⟨ds, hds, h⟩ := Option.bind_eq_some_iff.mp h
      cases h
      rw [List.length_cons, List.length_cons, ih ds hds]

theorem length_decode?_le (s : Bytes) (cs : List Char) (h : decode? s = some cs) :
    cs.length ≤ s.length := by
  rw [length_of_mapM_id _ cs h]
  exact length_pieces_le none s

end FormUpload.Text.Utf8

namespace FormUpload.Text

@[simp] theorem string?_bytesOf (s : String) : string? (bytesOf s) = some s := by
  unfold string? bytesOf
  rw [Utf8.decode?_encode, Option.map_some, String.ofList_toList]

theorem string?_encode (cs : List Char) : string? (Utf8.encode cs) = some (String.ofList cs) := by
  unfold string?
  rw [Utf8.decode?_encode, Option.map_some]

@[simp] theorem stringLossy_bytesOf (s : String) : stringLossy (bytesOf s) = s := by
  unfold stringLossy bytesOf
  rw [Utf8.lossy_encode, String.ofList_toList]

theorem bytesOf_injective {s t : String} (h : bytesOf s = bytesOf t) : s = t :=
  String.toList_injective (Utf8.encode_injective h)

theorem bytesOf_append (s t : String) : bytesOf (s ++ t) = bytesOf s ++ bytesOf t := by
  unfold bytesOf
  rw [String.toList_append, Utf8.encode_append]

theorem bytesOf_ofList (cs : List Char) : bytesOf (String.ofList cs) = Utf8.encode cs := by
  unfold bytesOf
  rw [String.toList_ofList]

theorem length_string?_le (bs : Bytes) (s : String) (h : string? bs = some s) :
    s.toList.length ≤ bs.length := by
  obtain ⟨cs, hcs, rfl⟩ := Option.map_eq_some_iff.mp h
  rw [String.toList_ofList]
  exact Utf8.length_decode?_le bs cs hcs

theorem length_stringLossy_le (bs : Bytes) : (stringLossy bs).toList.length ≤ bs.length := by
  unfold stringLossy
  rw [String.toList_ofList]
  exact Utf8.length_lossy_le bs

end FormUpload.Text
