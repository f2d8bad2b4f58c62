import FormUpload.Json.Printer
import FormUpload.Proofs.Json.Spelling
import FormUpload.Response

/-!
# Reading what was printed

The compact text of a document is one of its spellings (`spelling_compact`), so it is read
as that document (`read_text`), as long as its numbers are whole and it does not nest too
deeply.
-/

namespace FormUpload.Json

open FormUpload.Text

/-! ## §1. Documents that are printed exactly. -/

mutual

/-- Whether every number of a document is whole and fits, and every object keeps its
members sorted. -/
def Regular : Value → Prop
  | .null => True
  | .bool _ => True
  | .number (.whole i) => Number.fits i
  | .number (.real _) => False
  | .string _ => True
  | .array items => RegularItems items
  | .object members => sortMembers members = members ∧ RegularMembers members

/-- The same of all items. -/
def RegularItems : List Value → Prop
  | [] => True
  | v :: r => Regular v ∧ RegularItems r

/-- The same of all members. -/
def RegularMembers : List (String × Value) → Prop
  | [] => True
  | (_, v) :: r => Regular v ∧ RegularMembers r

end

theorem regular_natural (n : Nat) (hn : n < 0x10000000000000000) :
    Regular (.number (.whole n)) := by
  show -0x8000000000000000 ≤ (n : Int) ∧ (n : Int) < 0x10000000000000000
  omega

/-- A member whose key comes before all others is put in front. -/
theorem insertMember_first (k k' : String) (v v' : Value) (ms : List (String × Value))
    (h : k < k') : insertMember k v ((k', v') :: ms) = (k, v) :: (k', v') :: ms := by
  rw [insertMember, if_pos h]

/-- A member whose key comes after all others is put at the end. -/
theorem insertMember_last (k : String) (v : Value) (ms : List (String × Value))
    (h : ∀ k' ∈ ms.map (·.1), k' < k) : insertMember k v ms = ms ++ [(k, v)] := by
  induction ms with
  | nil => rfl
  | cons m ms ih =>
      obtain ⟨k', v'⟩ := m
      rw [List.map_cons, List.forall_mem_cons] at h
      -- the key comes after `k'`, so it is looked for further on
      have hne : k ≠ k' := by
        rintro rfl
        exact String.lt_irrefl _ h.1
      rw [insertMember, if_neg (String.lt_asymm h.1), if_neg hne, ih h.2, List.cons_append]

/-- **Members in the order of their keys stay as they are.** -/
theorem sortMembers_of_sorted (ms : List (String × Value))
    (h : (ms.map (·.1)).Pairwise (· < ·)) : sortMembers ms = ms := by
  induction ms using List.reverseRecOn with
  | nil => rfl
  | append_singleton ms m ih =>
      rw [List.map_append, List.pairwise_append] at h
      have hlast := insertMember_last m.1 m.2 ms fun k hk => h.2.2 k hk m.1 List.mem_cons_self
      unfold sortMembers at ih ⊢
      rw [List.foldl_append, ih h.1]
      exact hlast

/-! ## §2. Strings. -/

theorem hexValue?_hexDigit (n : Nat) (h : n < 16) :
    hexValue? (UInt8.ofNat (hexDigit n).toNat) = some n := by
  interval_cases n <;> decide

theorem encodeChar_hexDigit (n : Nat) (h : n < 16) :
    Utf8.encodeChar (hexDigit n) = [UInt8.ofNat (hexDigit n).toNat] := by
  apply Utf8.encodeChar_ascii
  interval_cases n <;> decide

/-- A character as it is escaped, before the spelling of other characters. -/
theorem spelling_escapeChar (c : Char) (cs : List Char) (s : Bytes) (h : StringSpelling cs s) :
    StringSpelling (c :: cs) (Utf8.encode (escapeChar c) ++ s) := by
  unfold escapeChar
  split
  -- the seven characters with an escape of one letter
  · next hc => subst hc; exact .short 0x22 0x22 cs s rfl h
  split
  · next hc => subst hc; exact .short 0x5C 0x5C cs s rfl h
  split
  · next hc => subst hc; exact .short 0x62 0x08 cs s rfl h
  split
  · next hc => subst hc; exact .short 0x74 0x09 cs s rfl h
  split
  · next hc => subst hc; exact .short 0x6E 0x0A cs s rfl h
  split
  · next hc => subst hc; exact .short 0x66 0x0C cs s rfl h
  split
  · next hc => subst hc; exact .short 0x72 0x0D cs s rfl h
  split
  · next hlow =>
    -- the other controls are written by their numbers, which are below 32
    have hdiv : c.toNat / 16 < 16 := by omega
    have hmod : c.toNat % 16 < 16 := by omega
    have hcode : hexFour? 0x30 0x30 (UInt8.ofNat (hexDigit (c.toNat / 16)).toNat)
        (UInt8.ofNat (hexDigit (c.toNat % 16)).toNat) = some c.toNat := by
      have hzero : hexValue? 0x30 = some 0 := rfl
      unfold hexFour?
      simp only [hzero, hexValue?_hexDigit _ hdiv, hexValue?_hexDigit _ hmod, Option.bind_eq_bind,
        Option.bind_some, Option.pure_def, Option.some.injEq]
      omega
    have hs : Utf8.encode ['\\', 'u', '0', '0', hexDigit (c.toNat / 16), hexDigit (c.toNat % 16)]
        = [0x5C, 0x75, 0x30, 0x30, UInt8.ofNat (hexDigit (c.toNat / 16)).toNat,
            UInt8.ofNat (hexDigit (c.toNat % 16)).toNat] := by
      simp only [Utf8.encode_cons, encodeChar_hexDigit _ hdiv, encodeChar_hexDigit _ hmod]
      rfl
    have hnot : isLowSurrogate c.toNat = false ∧ isHighSurrogate c.toNat = false := by
      unfold isLowSurrogate isHighSurrogate
      simp only [Bool.and_eq_false_iff, decide_eq_false_iff_not]
      omega
    have h := StringSpelling.code _ _ _ _ _ cs s hcode hnot.1 hnot.2 h
    rw [Char.ofNat_toNat] at h
    rw [hs]
    exact h
  -- all other characters stand for themselves
  · next hquote hslash _ _ _ _ _ hlow =>
    rw [Utf8.encode_cons, Utf8.encode_nil, List.append_nil]
    exact .raw c cs s (by omega) hquote hslash h

theorem spelling_escaped (cs : List Char) :
    StringSpelling cs (Utf8.encode (cs.flatMap escapeChar)) := by
  induction cs with
  | nil => exact .nil
  | cons c cs ih =>
      rw [List.flatMap_cons, Utf8.encode_append]
      exact spelling_escapeChar c cs _ ih

theorem encode_quoted (s : String) :
    Utf8.encode (quoted s) = 0x22 :: (Utf8.encode (s.toList.flatMap escapeChar) ++ [0x22]) := by
  unfold quoted
  rw [List.cons_append, Utf8.encode_cons, Utf8.encode_append]
  rfl

theorem spelling_quoted (s : String) : ScalarSpelling (.string s) (Utf8.encode (quoted s)) := by
  have h := ScalarSpelling.string s.toList _ (spelling_escaped s.toList)
  rw [String.ofList_toList] at h
  rw [encode_quoted]
  exact h

/-! ## §3. Documents. -/

theorem spelling_scalar (levels : Nat) (v : Value) (s : Bytes) (h : ScalarSpelling v s) :
    Spelling levels v s := by
  cases levels with
  | zero => exact h
  | succ levels => exact Or.inl h

theorem encodeChar_colon : Utf8.encodeChar ':' = [0x3A] := rfl

theorem encodeChar_comma : Utf8.encodeChar ',' = [0x2C] := rfl

/-- The member with a key and a printed value. -/
theorem spelling_member (item : Value → Bytes → Prop) (k : String) (v : Value) (s : Bytes)
    (h : item v s) : MemberSpelling item k v (Utf8.encode (quoted k) ++ 0x3A :: s) := by
  have h := MemberSpelling.mk k.toList _ [] [] s v (spelling_escaped k.toList) blank_nil blank_nil h
  rw [String.ofList_toList] at h
  rw [encode_quoted, List.cons_append, List.append_assoc]
  exact h

/-- Printed items are spelled if each of them is. -/
theorem spelling_items (item : Value → Bytes → Prop) (vs : List Value)
    (h : ∀ v ∈ vs, item v (Utf8.encode (compact v))) :
    ItemsSpelling item false vs (Utf8.encode (compactItems vs) ++ [0x5D]) := by
  have hmore : ∀ vs, (∀ v ∈ vs, item v (Utf8.encode (compact v))) →
      ItemsSpelling item true vs (Utf8.encode (compactMoreItems vs) ++ [0x5D]) := by
    intro vs h
    induction vs with
    | nil => exact .close true [] blank_nil
    | cons v vs ih =>
        obtain ⟨hv, hvs⟩ := List.forall_mem_cons.mp h
        have h := ItemsSpelling.next [] [] _ _ v vs blank_nil blank_nil hv (ih hvs)
        rw [compactMoreItems, List.cons_append, Utf8.encode_cons, Utf8.encode_append,
          List.append_assoc, List.append_assoc]
        exact h
  cases vs with
  | nil => exact .close false [] blank_nil
  | cons v vs =>
      obtain ⟨hv, hvs⟩ := List.forall_mem_cons.mp h
      rw [compactItems, Utf8.encode_append, List.append_assoc]
      exact .first [] _ _ v vs blank_nil hv (hmore vs hvs)

/-- Printed members are spelled if the value of each is. -/
theorem spelling_members (item : Value → Bytes → Prop) (ms : List (String × Value))
    (h : ∀ m ∈ ms, item m.2 (Utf8.encode (compact m.2))) :
    MembersSpelling item false ms (Utf8.encode (compactMembers ms) ++ [0x7D]) := by
  have hmore : ∀ ms, (∀ m ∈ ms, item m.2 (Utf8.encode (compact m.2))) →
      MembersSpelling item true ms (Utf8.encode (compactMoreMembers ms) ++ [0x7D]) := by
    intro ms h
    induction ms with
    | nil => exact .close true [] blank_nil
    | cons m ms ih =>
        obtain ⟨k, v⟩ := m
        obtain ⟨hv, hms⟩ := List.forall_mem_cons.mp h
        have hm := spelling_member item k v _ hv
        have h := MembersSpelling.next [] [] _ _ k v ms blank_nil blank_nil hm (ih hms)
        rw [compactMoreMembers]
        simpa [Utf8.encode_cons, Utf8.encode_append, encodeChar_colon, encodeChar_comma] using h
  cases ms with
  | nil => exact .close false [] blank_nil
  | cons m ms =>
      obtain ⟨k, v⟩ := m
      obtain ⟨hv, hms⟩ := List.forall_mem_cons.mp h
      have hm := spelling_member item k v _ hv
      have h := MembersSpelling.first [] _ _ k v ms blank_nil hm (hmore ms hms)
      rw [compactMembers]
      simpa [Utf8.encode_cons, Utf8.encode_append, encodeChar_colon] using h

/-- The octets of a printed object. -/
theorem encode_compact_object (ms : List (String × Value)) :
    Utf8.encode (compact (.object ms)) = 0x7B :: (Utf8.encode (compactMembers ms) ++ [0x7D]) := by
  rw [compact, List.cons_append, Utf8.encode_cons, Utf8.encode_append]
  rfl

mutual

/-- **The compact text of a document spells it.** -/
theorem spelling_compact (v : Value) (levels : Nat) (hv : Regular v) (hd : v.depth ≤ levels) :
    Spelling levels v (Utf8.encode (compact v)) := by
  match v with
  | .null => exact spelling_scalar levels _ _ .null
  | .bool true => exact spelling_scalar levels _ _ .true
  | .bool false => exact spelling_scalar levels _ _ .false
  | .number (.whole i) => exact spelling_scalar levels _ _ (.whole i hv)
  | .number (.real x) => exact hv.elim
  | .string s => exact spelling_scalar levels _ _ (spelling_quoted s)
  | .array vs =>
      rw [Value.depth] at hd
      obtain ⟨levels, rfl⟩ : ∃ n, levels = n + 1 := ⟨levels - 1, by omega⟩
      refine Or.inr (Or.inl ⟨vs, Utf8.encode (compactItems vs) ++ [0x5D], rfl, ?_,
        spelling_items _ vs (spelling_compactItems vs levels hv (by omega))⟩)
      rw [compact, List.cons_append, Utf8.encode_cons, Utf8.encode_append]
      rfl
  | .object ms =>
      rw [Value.depth] at hd
      obtain ⟨levels, rfl⟩ : ∃ n, levels = n + 1 := ⟨levels - 1, by omega⟩
      refine Or.inr (Or.inr ⟨ms, Utf8.encode (compactMembers ms) ++ [0x7D], ?_,
        encode_compact_object ms,
        spelling_members _ ms (spelling_compactMembers ms levels hv.2 (by omega))⟩)
      rw [hv.1]

theorem spelling_compactItems (vs : List Value) (levels : Nat) (hvs : RegularItems vs)
    (hd : Value.depthOfItems vs ≤ levels) :
    ∀ v ∈ vs, Spelling levels v (Utf8.encode (compact v)) := by
  match vs with
  | [] =>
      intro v hv
      cases hv
  | v :: vs =>
      rw [Value.depthOfItems] at hd
      exact List.forall_mem_cons.mpr ⟨spelling_compact v levels hvs.1 (by omega),
        spelling_compactItems vs levels hvs.2 (by omega)⟩

theorem spelling_compactMembers (ms : List (String × Value)) (levels : Nat)
    (hms : RegularMembers ms) (hd : Value.depthOfMembers ms ≤ levels) :
    ∀ m ∈ ms, Spelling levels m.2 (Utf8.encode (compact m.2)) := by
  match ms with
  | [] =>
      intro m hm
      cases hm
  | (k, v) :: ms =>
      rw [Value.depthOfMembers] at hd
      exact List.forall_mem_cons.mpr ⟨spelling_compact v levels hms.1 (by omega),
        spelling_compactMembers ms levels hms.2 (by omega)⟩

end

/-- **A document is read back from its compact text.** -/
theorem read_text (v : Value) (hv : Regular v) (hd : v.depth ≤ nestingLimit) :
    Value.read (bytesOf v.text) = .ok v := by
  have h := read_spelling v [] _ [] blank_nil blank_nil (spelling_compact v _ hv hd)
  rw [List.nil_append, List.append_nil] at h
  unfold Value.text
  rw [bytesOf_ofList]
  exact h

/-- The document of a body is what is read from it. -/
theorem dataOfBody_of_ok (body : Bytes) (v : Value) (h : Value.read body = .ok v) :
    Response.dataOfBody body = v := by
  cases body with
  | nil => cases h
  | cons b r =>
      unfold Response.dataOfBody
      rw [List.isEmpty_cons, if_neg Bool.false_ne_true, h]

/-- **The document of a body** that holds its compact text. -/
theorem dataOfBody_text (v : Value) (hv : Regular v) (hd : v.depth ≤ nestingLimit) :
    Response.dataOfBody (bytesOf v.text) = v := dataOfBody_of_ok _ v (read_text v hv hd)

/-! ## §4. Lengths. -/

theorem length_escapeChar_le (c : Char) : (escapeChar c).length ≤ 6 := by
  unfold escapeChar
  split_ifs <;> simp

theorem length_escaped_le (cs : List Char) : (cs.flatMap escapeChar).length ≤ 6 * cs.length := by
  induction cs with
  | nil => exact Nat.zero_le _
  | cons c cs ih =>
      have := length_escapeChar_le c
      rw [List.flatMap_cons, List.length_append, List.length_cons]
      omega

theorem length_quoted_le (s : String) : (quoted s).length ≤ 6 * s.toList.length + 2 := by
  have := length_escaped_le s.toList
  unfold quoted
  rw [List.length_append, List.length_cons]
  simp only [List.length_singleton]
  omega

theorem length_compactMoreItems_le (n : Nat) (vs : List Value)
    (h : ∀ v ∈ vs, (compact v).length ≤ n) :
    (compactMoreItems vs).length ≤ vs.length * (n + 1) := by
  induction vs with
  | nil => exact Nat.zero_le _
  | cons v vs ih =>
      obtain ⟨hv, hvs⟩ := List.forall_mem_cons.mp h
      have := ih hvs
      rw [compactMoreItems, List.length_append, List.length_cons, List.length_cons, Nat.succ_mul]
      omega

/-- Items of bounded length take no more than their number times as much, commas
included. -/
theorem length_compactItems_le (n : Nat) (vs : List Value)
    (h : ∀ v ∈ vs, (compact v).length ≤ n) :
    (compactItems vs).length ≤ vs.length * (n + 1) := by
  cases vs with
  | nil => exact Nat.zero_le _
  | cons v vs =>
      obtain ⟨hv, hvs⟩ := List.forall_mem_cons.mp h
      have := length_compactMoreItems_le n vs hvs
      rw [compactItems, List.length_append, List.length_cons, Nat.succ_mul]
      omega

end FormUpload.Json
