import FormUpload.Proofs.Json.Spelling

/-!
# The nesting limit

How many arrays and objects may be opened inside one another decides whether a text is read,
and nothing else about it:

* with more room nothing is read otherwise (`value_mono`),
* what is read nests no deeper than there was room (`depth_value_le`),
* so a document that nests too deep is refused, however it is spelled (`value_of_deep`).

`value_cases` says how the reading of a value can go; the rest is proved from it.
-/

namespace FormUpload.Json

open FormUpload.Text

/-! ## §1. How a value is read. -/

/-- Where no bracket is opened, it does not matter what would be done with one. -/
theorem scalarOr_congr (array object array' object' : Bytes → Except Fault (Value × Bytes))
    (s : Bytes) (harray : ∀ r, skipSpace s ≠ 0x5B :: r) (hobject : ∀ r, skipSpace s ≠ 0x7B :: r) :
    scalarOr array object s = scalarOr array' object' s := by
  unfold scalarOr
  cases hs : skipSpace s with
  | nil => rfl
  | cons b r =>
      have hbracket : (b == 0x5B) = false := by
        rw [beq_eq_false_iff_ne]
        rintro rfl
        exact harray r hs
      have hbrace : (b == 0x7B) = false := by
        rw [beq_eq_false_iff_ne]
        rintro rfl
        exact hobject r hs
      simp only [hbracket, hbrace, Bool.false_eq_true, if_false]

/-- A value is a scalar, or it begins with an opening bracket or brace. -/
theorem scalarOr_cases (array object : Bytes → Except Fault (Value × Bytes)) (s : Bytes)
    (v : Value) (rest : Bytes) (h : scalarOr array object s = .ok (v, rest)) :
    (∀ array' object', scalarOr array' object' s = .ok (v, rest))
      ∨ (∃ r, skipSpace s = 0x5B :: r ∧ array (0x5B :: r) = .ok (v, rest))
      ∨ (∃ r, skipSpace s = 0x7B :: r ∧ object (0x7B :: r) = .ok (v, rest)) := by
  by_cases harray : ∃ r, skipSpace s = 0x5B :: r
  · obtain ⟨r, hr⟩ := harray
    refine Or.inr (Or.inl ⟨r, hr, ?_⟩)
    unfold scalarOr at h
    rw [hr] at h
    exact h
  by_cases hobject : ∃ r, skipSpace s = 0x7B :: r
  · obtain ⟨r, hr⟩ := hobject
    refine Or.inr (Or.inr ⟨r, hr, ?_⟩)
    unfold scalarOr at h
    rw [hr] at h
    exact h
  push Not at harray hobject
  refine Or.inl fun array' object' => ?_
  rw [scalarOr_congr array' object' array object s harray hobject]
  exact h

/-- What a scalar is read from, up to `rest`: its first octet, and those behind it. -/
inductive ScalarRead (rest : Bytes) : UInt8 → Bytes → Value → Prop
  | null (r : Bytes) (h : word [0x75, 0x6C, 0x6C] r = .ok rest) : ScalarRead rest 0x6E r .null
  | true (r : Bytes) (h : word [0x72, 0x75, 0x65] r = .ok rest) :
      ScalarRead rest 0x74 r (.bool true)
  | false (r : Bytes) (h : word [0x61, 0x6C, 0x73, 0x65] r = .ok rest) :
      ScalarRead rest 0x66 r (.bool false)
  | negative (r : Bytes) (n : Number) (h : number true r = .ok (n, rest)) :
      ScalarRead rest 0x2D r (.number n)
  | digit (b : UInt8) (r : Bytes) (n : Number) (hb : isDigit b = true)
      (h : number false (b :: r) = .ok (n, rest)) : ScalarRead rest b r (.number n)
  | string (r : Bytes) (t : String) (h : string r = .ok (t, rest)) :
      ScalarRead rest 0x22 r (.string t)

theorem ScalarRead.depth {rest : Bytes} {b : UInt8} {r : Bytes} {v : Value}
    (h : ScalarRead rest b r v) : v.depth = 0 := by
  cases h <;> rfl

/-- **How a scalar is read.** -/
theorem scalar_iff (s : Bytes) (v : Value) (rest : Bytes) :
    value 0 s = .ok (v, rest) ↔ ∃ b r, skipSpace s = b :: r ∧ ScalarRead rest b r v := by
  rw [value, scalarOr]
  constructor
  · intro h
    split at h
    · cases h
    next b r hr =>
    refine ⟨b, r, hr, ?_⟩
    split_ifs at h with hnull htrue hfalse hminus hdigit hquote
    · obtain ⟨u, hu, h⟩ := (bind_eq_ok _ _ _).mp h
      cases h
      cases beq_iff_eq.mp hnull
      exact .null r hu
    · obtain ⟨u, hu, h⟩ := (bind_eq_ok _ _ _).mp h
      cases h
      cases beq_iff_eq.mp htrue
      exact .true r hu
    · obtain ⟨u, hu, h⟩ := (bind_eq_ok _ _ _).mp h
      cases h
      cases beq_iff_eq.mp hfalse
      exact .false r hu
    · obtain ⟨⟨n, u⟩, hn, h⟩ := (bind_eq_ok _ _ _).mp h
      cases h
      cases beq_iff_eq.mp hminus
      exact .negative r n hn
    · obtain ⟨⟨n, u⟩, hn, h⟩ := (bind_eq_ok _ _ _).mp h
      cases h
      exact .digit b r n hdigit hn
    · obtain ⟨⟨t, u⟩, ht, h⟩ := (bind_eq_ok _ _ _).mp h
      cases h
      cases beq_iff_eq.mp hquote
      exact .string r t ht
  · rintro ⟨b, r, hr, h⟩
    rw [hr]
    cases h with
    | null _ h =>
        show (word _ r).bind _ = _
        rw [h]
        rfl
    | true _ h =>
        show (word _ r).bind _ = _
        rw [h]
        rfl
    | false _ h =>
        show (word _ r).bind _ = _
        rw [h]
        rfl
    | negative _ n h =>
        show (number true r).bind _ = _
        rw [h]
        rfl
    | digit _ _ n hb h =>
        simp only [ne_of_isDigit b 0x6E hb rfl, ne_of_isDigit b 0x74 hb rfl,
          ne_of_isDigit b 0x66 hb rfl, ne_of_isDigit b 0x2D hb rfl, Bool.false_eq_true, if_false,
          hb, if_true, h]
        rfl
    | string _ t h =>
        show (Json.string r).bind _ = _
        rw [h]
        rfl

/-- Every text begins with blanks, if with none at all. -/
theorem exists_blank (s : Bytes) : ∃ ws, Blank ws ∧ s = ws ++ skipSpace s :=
  ⟨s.takeWhile isSpace, fun _ hb => List.mem_takeWhile_imp hb,
    List.takeWhile_append_dropWhile.symm⟩

/-- **How the reading of a value goes**: a scalar is read with any room; an array or object
takes one level, and its items or members are read with those that are left. -/
theorem value_cases (levels : Nat) (s : Bytes) (v : Value) (rest : Bytes)
    (h : value levels s = .ok (v, rest)) :
    (v.depth = 0 ∧ ∀ levels', value levels' s = .ok (v, rest))
      ∨ (∃ n ws r vs, levels = n + 1 ∧ Blank ws ∧ s = ws ++ 0x5B :: r ∧ v = .array vs.reverse
        ∧ sequence (pushItem (value n)) (r.length + 1) false [] r = .ok (vs, rest))
      ∨ (∃ n ws r ms, levels = n + 1 ∧ Blank ws ∧ s = ws ++ 0x7B :: r ∧ v = .object ms
        ∧ members (putMember (value n)) (r.length + 1) false [] r = .ok (ms, rest)) := by
  have hscalar : (∀ array object, scalarOr array object s = .ok (v, rest)) →
      v.depth = 0 ∧ ∀ levels', value levels' s = .ok (v, rest) := by
    intro h
    have hvalue : ∀ levels', value levels' s = .ok (v, rest) := by
      intro levels'
      cases levels' with
      | zero => exact h _ _
      | succ n =>
          rw [value]
          exact h _ _
    obtain ⟨b, r, -, hread⟩ := (scalar_iff s v rest).mp (hvalue 0)
    exact ⟨hread.depth, hvalue⟩
  obtain ⟨ws, hws, hs⟩ := exists_blank s
  cases levels with
  | zero =>
      rw [value] at h
      obtain h | ⟨r, -, h⟩ | ⟨r, -, h⟩ := scalarOr_cases _ _ s v rest h
      · exact Or.inl (hscalar h)
      · cases h
      · cases h
  | succ n =>
      have hvalue := h
      rw [value] at h
      obtain h | ⟨r, hr, -⟩ | ⟨r, hr, -⟩ := scalarOr_cases _ _ s v rest h
      · exact Or.inl (hscalar h)
      · rw [hr] at hs
        rw [hs, value_array n ws r hws, bind_eq_ok] at hvalue
        obtain ⟨⟨vs, u⟩, hitems, hvs⟩ := hvalue
        cases hvs
        exact Or.inr (Or.inl ⟨n, ws, r, vs, rfl, hws, hs, rfl, hitems⟩)
      · rw [hr] at hs
        rw [hs, value_object n ws r hws, bind_eq_ok] at hvalue
        obtain ⟨⟨ms, u⟩, hmembers, hms⟩ := hvalue
        cases hms
        exact Or.inr (Or.inr ⟨n, ws, r, ms, rfl, hws, hs, rfl, hmembers⟩)

theorem value_of_items (n : Nat) (ws r : Bytes) (hws : Blank ws) (vs : List Value) (rest : Bytes)
    (h : sequence (pushItem (value n)) (r.length + 1) false [] r = .ok (vs, rest)) :
    value (n + 1) (ws ++ 0x5B :: r) = .ok (.array vs.reverse, rest) := by
  rw [value_array n ws r hws, h]
  rfl

theorem value_of_members (n : Nat) (ws r : Bytes) (hws : Blank ws) (ms : List (String × Value))
    (rest : Bytes)
    (h : members (putMember (value n)) (r.length + 1) false [] r = .ok (ms, rest)) :
    value (n + 1) (ws ++ 0x7B :: r) = .ok (.object ms, rest) := by
  rw [value_object n ws r hws, h]
  rfl

/-! ## §2. More room. -/

/-- One more level changes nothing: the scalars are read with any room, and the items and
members by induction. -/
theorem value_succ (levels : Nat) (s : Bytes) (v : Value) (rest : Bytes)
    (h : value levels s = .ok (v, rest)) : value (levels + 1) s = .ok (v, rest) := by
  induction levels generalizing s v rest with
  | zero =>
      obtain ⟨-, h⟩ | ⟨n, ws, r, vs, hn, -⟩ | ⟨n, ws, r, vs, hn, -⟩ := value_cases 0 s v rest h
      · exact h 1
      · exact absurd hn.symm (Nat.succ_ne_zero n)
      · exact absurd hn.symm (Nat.succ_ne_zero n)
  | succ levels ih =>
      have hitem : ∀ vs us s vs' rest, vs = us → pushItem (value levels) vs s = .ok (vs', rest) →
          ∃ us', pushItem (value (levels + 1)) us s = .ok (us', rest) ∧ vs' = us' := by
        rintro vs _ s vs' rest rfl hitem
        obtain ⟨v, hv, rfl⟩ := (pushItem_eq_ok _ _ _ _ _).mp hitem
        exact ⟨v :: vs, (pushItem_eq_ok _ _ _ _ _).mpr ⟨v, ih s v rest hv, rfl⟩, rfl⟩
      have hentry : ∀ ms ns key s ms' rest, ms = ns →
          putMember (value levels) ms key s = .ok (ms', rest) →
          ∃ ns', putMember (value (levels + 1)) ns key s = .ok (ns', rest) ∧ ms' = ns' := by
        rintro ms _ key s ms' rest rfl hentry
        obtain ⟨t, v, ht, hv, rfl⟩ := (putMember_eq_ok _ _ _ _ _ _).mp hentry
        exact ⟨_, (putMember_eq_ok _ _ _ _ _ _).mpr ⟨t, v, ht, ih t v rest hv, rfl⟩, rfl⟩
      obtain ⟨-, h⟩ | ⟨n, ws, r, vs, hn, hws, rfl, rfl, h⟩ | ⟨n, ws, r, ms, hn, hws, rfl, rfl, h⟩ :=
        value_cases (levels + 1) s v rest h
      · exact h (levels + 1 + 1)
      · cases hn
        obtain ⟨vs', h', rfl⟩ := sequence_related Eq _ _ hitem _ _ _ _ _ _ _ rfl h
        exact value_of_items _ ws r hws vs rest h'
      · cases hn
        obtain ⟨ms', h', rfl⟩ := members_related Eq _ _ hentry _ _ _ _ _ _ _ rfl h
        exact value_of_members _ ws r hws ms rest h'

/-- **A value that is read is read alike with more room.** -/
theorem value_mono (levels levels' : Nat) (hle : levels ≤ levels') (s : Bytes) (v : Value)
    (rest : Bytes) (h : value levels s = .ok (v, rest)) : value levels' s = .ok (v, rest) := by
  induction hle with
  | refl => exact h
  | step _ ih => exact value_succ _ s v rest ih

/-! ## §3. Depths. -/

theorem depthOfItems_append (vs ws : List Value) : Value.depthOfItems (vs ++ ws)
    = max (Value.depthOfItems vs) (Value.depthOfItems ws) := by
  induction vs with
  | nil => simp [Value.depthOfItems]
  | cons v vs ih => rw [List.cons_append, Value.depthOfItems, Value.depthOfItems, ih, max_assoc]

theorem depthOfItems_reverse (vs : List Value) :
    Value.depthOfItems vs.reverse = Value.depthOfItems vs := by
  induction vs with
  | nil => rfl
  | cons v vs ih =>
      rw [List.reverse_cons, depthOfItems_append, ih, Value.depthOfItems, Value.depthOfItems,
        Value.depthOfItems, max_comm, Nat.max_zero]

theorem depthOfMembers_insertMember (k : String) (v : Value) (ms : List (String × Value)) :
    Value.depthOfMembers (insertMember k v ms) ≤ max v.depth (Value.depthOfMembers ms) := by
  induction ms with
  | nil => exact Nat.le_refl _
  | cons m ms ih =>
      obtain ⟨k', v'⟩ := m
      rw [insertMember]
      split
      · exact Nat.le_refl _
      · split
        · simp only [Value.depthOfMembers]
          omega
        · simp only [Value.depthOfMembers]
          omega

/-- **What is read nests no deeper than there was room.** -/
theorem depth_value_le (levels : Nat) (s : Bytes) (v : Value) (rest : Bytes)
    (h : value levels s = .ok (v, rest)) : v.depth ≤ levels := by
  induction levels generalizing s v rest with
  | zero =>
      obtain ⟨hdepth, -⟩ | ⟨n, ws, r, vs, hn, -⟩ | ⟨n, ws, r, vs, hn, -⟩ := value_cases 0 s v rest h
      · exact hdepth.le
      · exact absurd hn.symm (Nat.succ_ne_zero n)
      · exact absurd hn.symm (Nat.succ_ne_zero n)
  | succ levels ih =>
      have hitem : ∀ vs s vs' rest, Value.depthOfItems vs ≤ levels →
          pushItem (value levels) vs s = .ok (vs', rest) → Value.depthOfItems vs' ≤ levels := by
        intro vs s vs' rest hdepth hitem
        obtain ⟨v, hv, rfl⟩ := (pushItem_eq_ok _ _ _ _ _).mp hitem
        exact max_le (ih s v rest hv) hdepth
      have hentry : ∀ ms key s ms' rest, Value.depthOfMembers ms ≤ levels →
          putMember (value levels) ms key s = .ok (ms', rest) →
          Value.depthOfMembers ms' ≤ levels := by
        intro ms key s ms' rest hdepth hentry
        obtain ⟨t, v, -, hv, rfl⟩ := (putMember_eq_ok _ _ _ _ _ _).mp hentry
        exact (depthOfMembers_insertMember key v ms).trans (max_le (ih t v rest hv) hdepth)
      obtain ⟨hdepth, -⟩ | ⟨n, ws, r, vs, hn, hws, rfl, rfl, h⟩
          | ⟨n, ws, r, ms, hn, hws, rfl, rfl, h⟩ := value_cases (levels + 1) s v rest h
      · omega
      · cases hn
        have hdepth := sequence_keeps _ _ hitem _ _ _ _ _ _ (Nat.zero_le _) h
        rw [Value.depth, depthOfItems_reverse]
        omega
      · cases hn
        have hdepth := members_keeps _ _ hentry _ _ _ _ _ _ (Nat.zero_le _) h
        rw [Value.depth]
        omega

/-- **A document that nests too deep is refused**, however it is spelled. -/
theorem value_of_deep (limit levels : Nat) (v : Value) (s : Bytes) (h : Spelling levels v s)
    (hdeep : limit < v.depth) (ws rest : Bytes) (hws : Blank ws)
    (hrest : Stops isNumberOctet rest) :
    ∃ fault, value limit (ws ++ (s ++ rest)) = .error fault := by
  cases hread : value limit (ws ++ (s ++ rest)) with
  | error fault => exact ⟨fault, rfl⟩
  | ok r =>
      obtain ⟨w, u⟩ := r
      -- with room enough the text is read as `v`, which nests deeper than the limit allows
      have hw := depth_value_le limit _ w u hread
      have hv := (reads_spelling levels).ok v s h ws rest hws hrest
      have hboth := value_mono limit (max limit levels) (le_max_left _ _) _ w u hread
      rw [value_mono levels (max limit levels) (le_max_right _ _) _ v rest hv] at hboth
      cases hboth
      exact absurd hw (by omega)

/-- **A text that spells a document beyond the limit is refused.** -/
theorem read_of_deep (v : Value) (ws s ws' : Bytes) (hws : Blank ws) (hws' : Blank ws')
    (levels : Nat) (h : Spelling levels v s) (hdeep : nestingLimit < v.depth) :
    ∃ fault, Value.read (ws ++ (s ++ ws')) = .error fault := by
  obtain ⟨fault, hvalue⟩ := value_of_deep nestingLimit levels v s h hdeep ws ws' hws
    (stops_of_blank ws' hws')
  refine ⟨fault, ?_⟩
  unfold Value.read
  rw [hvalue]
  rfl

end FormUpload.Json
