import FormUpload.Proofs.Json.Compact

/-!
# Reading what was printed with line breaks

The pretty text of a document differs from the compact one by blanks between tokens only,
so it spells the same document (`spelling_pretty`), with as many levels of brackets.
-/

namespace FormUpload.Json

open FormUpload.Text

/-! ## §1. Blanks. -/

/-- A line break and its indentation are blanks. -/
theorem blank_newLine (level : Nat) : Blank (Utf8.encode (newLine level)) := by
  have hfeed : Utf8.encodeChar '\n' = [0x0A] := rfl
  have hblank : Utf8.encodeChar ' ' = [0x20] := rfl
  intro b hb
  unfold newLine at hb
  rw [Utf8.encode_cons, hfeed, List.singleton_append, List.mem_cons] at hb
  rcases hb with rfl | hb
  · rfl
  · obtain ⟨c, hc, hb⟩ := List.mem_flatMap.mp hb
    obtain ⟨-, rfl⟩ := List.mem_replicate.mp hc
    rw [hblank, List.mem_singleton] at hb
    rw [hb]
    rfl

/-- The member with a key, a blank behind the colon, and a printed value. -/
theorem spelling_spacedMember (item : Value → Bytes → Prop) (k : String) (v : Value) (s : Bytes)
    (h : item v s) : MemberSpelling item k v (Utf8.encode (quoted k) ++ 0x3A :: 0x20 :: s) := by
  have h := MemberSpelling.mk k.toList _ [] [0x20] s v (spelling_escaped k.toList) blank_nil
    (blank_singleton 0x20 rfl) h
  rw [String.ofList_toList] at h
  rw [encode_quoted, List.cons_append, List.append_assoc]
  exact h

/-! ## §2. Documents. -/

mutual

/-- A document spelled on lines of its own, inside any level of indentation. -/
theorem spelling_prettyAt (v : Value) (indent levels : Nat) (hv : Regular v)
    (hd : v.depth ≤ levels) : Spelling levels v (Utf8.encode (prettyAt indent v)) := by
  match v with
  | .null => exact spelling_scalar levels _ _ .null
  | .bool true => exact spelling_scalar levels _ _ .true
  | .bool false => exact spelling_scalar levels _ _ .false
  | .number (.whole i) => exact spelling_scalar levels _ _ (.whole i hv)
  | .number (.real x) => exact hv.elim
  | .string s => exact spelling_scalar levels _ _ (spelling_quoted s)
  | .array [] =>
      rw [Value.depth] at hd
      obtain ⟨levels, rfl⟩ : ∃ n, levels = n + 1 := ⟨levels - 1, by omega⟩
      exact Or.inr (Or.inl ⟨[], [0x5D], rfl, rfl, .close false [] blank_nil⟩)
  | .array (v :: vs) =>
      rw [Value.depth, Value.depthOfItems] at hd
      obtain ⟨levels, rfl⟩ : ∃ n, levels = n + 1 := ⟨levels - 1, by omega⟩
      refine Or.inr (Or.inl ⟨v :: vs, Utf8.encode (newLine (indent + 1))
        ++ (Utf8.encode (prettyAt (indent + 1) v) ++ (Utf8.encode (prettyMoreItems (indent + 1) vs)
          ++ (Utf8.encode (newLine indent) ++ [0x5D]))), rfl, ?_, ?_⟩)
      · simp only [prettyAt, List.cons_append, Utf8.encode_cons, Utf8.encode_append,
          List.append_assoc]
        rfl
      · exact .first _ _ _ v vs (blank_newLine _)
          (spelling_prettyAt v (indent + 1) levels hv.1 (by omega))
          (spelling_prettyMoreItems vs (indent + 1) levels _ (blank_newLine _) hv.2 (by omega))
  | .object [] =>
      rw [Value.depth] at hd
      obtain ⟨levels, rfl⟩ : ∃ n, levels = n + 1 := ⟨levels - 1, by omega⟩
      exact Or.inr (Or.inr ⟨[], [0x7D], rfl, rfl, .close false [] blank_nil⟩)
  | .object ((k, v) :: ms) =>
      rw [Value.depth, Value.depthOfMembers] at hd
      obtain ⟨levels, rfl⟩ : ∃ n, levels = n + 1 := ⟨levels - 1, by omega⟩
      refine Or.inr (Or.inr ⟨(k, v) :: ms, Utf8.encode (newLine (indent + 1))
        ++ ((Utf8.encode (quoted k) ++ 0x3A :: 0x20 :: Utf8.encode (prettyAt (indent + 1) v))
          ++ (Utf8.encode (prettyMoreMembers (indent + 1) ms)
            ++ (Utf8.encode (newLine indent) ++ [0x7D]))), by rw [hv.1], ?_, ?_⟩)
      · simp only [prettyAt, List.cons_append, Utf8.encode_cons, Utf8.encode_append,
          List.append_assoc]
        rfl
      · have hm := spelling_spacedMember _ k v _
          (spelling_prettyAt v (indent + 1) levels hv.2.1 (by omega))
        exact .first _ _ _ k v ms (blank_newLine _) hm
          (spelling_prettyMoreMembers ms (indent + 1) levels _ (blank_newLine _) hv.2.2 (by omega))

/-- Further items, each on a line of its own, up to the bracket behind some blanks. -/
theorem spelling_prettyMoreItems (vs : List Value) (indent levels : Nat) (ws : Bytes)
    (hws : Blank ws) (hvs : RegularItems vs) (hd : Value.depthOfItems vs ≤ levels) :
    ItemsSpelling (Spelling levels) true vs
      (Utf8.encode (prettyMoreItems indent vs) ++ (ws ++ [0x5D])) := by
  match vs with
  | [] => exact .close true ws hws
  | v :: vs =>
      rw [Value.depthOfItems] at hd
      have hv := spelling_prettyAt v indent levels hvs.1 (by omega)
      have hmore := spelling_prettyMoreItems vs indent levels ws hws hvs.2 (by omega)
      have h := ItemsSpelling.next [] _ _ _ v vs blank_nil (blank_newLine indent) hv hmore
      simpa [prettyMoreItems, Utf8.encode_cons, Utf8.encode_append, encodeChar_comma] using h

/-- Further members, each on a line of its own, up to the brace behind some blanks. -/
theorem spelling_prettyMoreMembers (ms : List (String × Value)) (indent levels : Nat) (ws : Bytes)
    (hws : Blank ws) (hms : RegularMembers ms) (hd : Value.depthOfMembers ms ≤ levels) :
    MembersSpelling (Spelling levels) true ms
      (Utf8.encode (prettyMoreMembers indent ms) ++ (ws ++ [0x7D])) := by
  match ms with
  | [] => exact .close true ws hws
  | (k, v) :: ms =>
      rw [Value.depthOfMembers] at hd
      have hm := spelling_spacedMember _ k v _ (spelling_prettyAt v indent levels hms.1 (by omega))
      have hmore := spelling_prettyMoreMembers ms indent levels ws hws hms.2 (by omega)
      have h := MembersSpelling.next [] _ _ _ k v ms blank_nil (blank_newLine indent) hm hmore
      have hspace : Utf8.encodeChar ' ' = [0x20] := rfl
      simpa [prettyMoreMembers, Utf8.encode_cons, Utf8.encode_append, encodeChar_comma,
        encodeChar_colon, hspace] using h

end

/-- **The pretty text of a document spells it.** -/
theorem spelling_pretty (v : Value) (levels : Nat) (hv : Regular v) (hd : v.depth ≤ levels) :
    Spelling levels v (bytesOf v.prettyText) := by
  unfold Value.prettyText pretty
  rw [bytesOf_ofList]
  exact spelling_prettyAt v 0 levels hv hd

end FormUpload.Json
