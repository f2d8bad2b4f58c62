import FormUpload.Proofs.Json.Skipping

/-!
# Typed fields

A reader that wants a type takes exactly what the reader of values takes as a value of that
type, and takes it up to the same place:

* strings (`typedString_eq_ok`) and statuses (`typedStatus_eq_ok`), which are scalars,
* pairs of strings (`stringPair_eq_ok`) and arrays of them (`stringPairs_eq_ok`).

So what a typed reader does at a value can be told from the value.  Arrays are compared by
their items, one by one (`Items`).
-/

namespace FormUpload.Json

open FormUpload.Text

/-! ## §1. Scalars. -/

/-- With any room a scalar is read as with none. -/
theorem value_eq_scalar (levels : Nat) (s : Bytes) (v : Value) (rest : Bytes)
    (hv : v.depth = 0) : value levels s = .ok (v, rest) ↔ value 0 s = .ok (v, rest) := by
  constructor
  · intro h
    obtain ⟨-, h⟩ | ⟨_, _, _, _, -, -, -, rfl, -⟩ | ⟨_, _, _, _, -, -, -, rfl, -⟩ :=
      value_cases levels s v rest h
    · exact h 0
    · exact absurd hv (Nat.succ_ne_zero _)
    · exact absurd hv (Nat.succ_ne_zero _)
  · exact value_mono 0 levels (Nat.zero_le _) s v rest

theorem opening_eq_ok (byte : UInt8) (wanted : String) (s t : Bytes) :
    opening byte wanted s = .ok t ↔ skipSpace s = byte :: t := by
  unfold opening
  cases skipSpace s with
  | nil => simp
  | cons b r =>
      dsimp only
      by_cases hb : (b == byte) = true
      · rw [if_pos hb, beq_iff_eq.mp hb]
        simp
      · rw [if_neg hb]
        rw [beq_iff_eq] at hb
        simp [hb]

/-- **A string is read where a value is read that is a string.** -/
theorem typedString_eq_ok (levels : Nat) (s : Bytes) (t : String) (rest : Bytes) :
    typedString s = .ok (t, rest) ↔ value levels s = .ok (.string t, rest) := by
  rw [value_eq_scalar levels s _ rest rfl, scalar_iff, typedString, bind_eq_ok]
  constructor
  · rintro ⟨r, hr, ht⟩
    exact ⟨0x22, r, (opening_eq_ok _ _ s r).mp hr, .string r t ht⟩
  · rintro ⟨b, r, hr, h⟩
    cases h with
    | string _ _ ht => exact ⟨r, (opening_eq_ok _ _ s r).mpr hr, ht⟩

theorem statusOf_eq_ok (n : Number) (s : Bytes) (x : UInt16) (rest : Bytes) :
    statusOf n s = .ok (x, rest) ↔ rest = s ∧ n = .whole x.toNat := by
  have hx : x.toNat < 65536 := x.toNat_lt
  cases n with
  | real r => simp [statusOf]
  | whole i =>
      rw [statusOf]
      split
      · next hi =>
        simp only [Except.ok.injEq, Prod.mk.injEq, Number.whole.injEq]
        constructor
        · rintro ⟨rfl, rfl⟩
          rw [UInt16.toNat_ofNat_of_lt' (by show i.toNat < 65536; omega)]
          exact ⟨rfl, by omega⟩
        · rintro ⟨rfl, rfl⟩
          rw [Int.toNat_natCast, UInt16.ofNat_toNat]
          exact ⟨rfl, rfl⟩
      · next hi =>
        simp only [reduceCtorEq, Number.whole.injEq, false_iff, not_and]
        rintro - rfl
        omega

/-- **A status is read where a value is read that is a number of 16 bits.** -/
theorem typedStatus_eq_ok (levels : Nat) (s : Bytes) (x : UInt16) (rest : Bytes) :
    typedStatus s = .ok (x, rest) ↔ value levels s = .ok (.number (.whole x.toNat), rest) := by
  rw [value_eq_scalar levels s _ rest rfl, scalar_iff, typedStatus]
  constructor
  · intro h
    split at h
    · cases h
    next b r hr =>
    refine ⟨b, r, hr, ?_⟩
    split_ifs at h with hminus hdigit
    · obtain ⟨⟨n, u⟩, hn, h⟩ := (bind_eq_ok _ _ _).mp h
      obtain ⟨rfl, rfl⟩ := (statusOf_eq_ok n u x rest).mp h
      cases beq_iff_eq.mp hminus
      exact .negative r _ hn
    · obtain ⟨⟨n, u⟩, hn, h⟩ := (bind_eq_ok _ _ _).mp h
      obtain ⟨rfl, rfl⟩ := (statusOf_eq_ok n u x rest).mp h
      exact .digit b r _ hdigit hn
  · rintro ⟨b, r, hr, h⟩
    have hstatus := (statusOf_eq_ok (.whole x.toNat) rest x rest).mpr ⟨rfl, rfl⟩
    rw [hr]
    cases h with
    | negative _ _ hn => exact (bind_eq_ok _ _ _).mpr ⟨_, hn, hstatus⟩
    | digit _ _ _ hb hn =>
        dsimp only
        rw [ne_of_isDigit b 0x2D hb rfl, if_neg Bool.false_ne_true, if_pos hb]
        exact (bind_eq_ok _ _ _).mpr ⟨_, hn, hstatus⟩

/-! ## §2. Items one by one. -/

/-- The items that a reader finds, each where the one before ended, up to the closing
bracket. -/
def Items {α : Type} (read : Bytes → Except Fault (α × Bytes)) :
    (more : Bool) → List α → (s rest : Bytes) → Prop
  | more, [], s, rest => itemAhead more s = .ok (false, 0x5D :: rest)
  | more, x :: xs, s, rest => ∃ t u, itemAhead more s = .ok (true, t)
      ∧ read t = .ok (x, u) ∧ Items read true xs u rest

/-- Readers that take the same, one a type and the other its values, find the same items. -/
theorem items_map {α β : Type} (read : Bytes → Except Fault (α × Bytes))
    (read' : Bytes → Except Fault (β × Bytes)) (f : α → β)
    (hread : ∀ s x rest, read s = .ok (x, rest) ↔ read' s = .ok (f x, rest)) (more : Bool)
    (xs : List α) (s rest : Bytes) :
    Items read more xs s rest ↔ Items read' more (xs.map f) s rest := by
  induction xs generalizing more s with
  | nil => exact Iff.rfl
  | cons x xs ih =>
      rw [List.map_cons, Items, Items]
      simp only [hread, ih]

theorem length_itemAhead_le (more : Bool) (s : Bytes) (ahead : Bool) (t : Bytes)
    (h : itemAhead more s = .ok (ahead, t)) : t.length ≤ s.length := by
  have hs := length_skipSpace_le s
  obtain ⟨-, r, rfl, hr⟩ | ⟨-, -, ⟨-, rfl⟩ | ⟨-, r, hr, rfl⟩⟩ := itemAhead_cases more s ahead t h
  · rw [hr] at hs
    exact hs
  · exact hs
  · rw [hr, List.length_cons] at hs
    have := length_skipSpace_le r
    omega

theorem items_of_sequence {α : Type} (read : Bytes → Except Fault (α × Bytes)) (fuel : Nat)
    (more : Bool) (state : List α) (s : Bytes) (ys : List α) (rest : Bytes)
    (h : sequence (pushItem read) fuel more state s = .ok (ys, rest)) :
    ∃ xs, ys = xs.reverse ++ state ∧ Items read more xs s rest := by
  induction fuel generalizing more state s with
  | zero => cases h
  | succ fuel ih =>
      rw [sequence_succ, bind_eq_ok] at h
      obtain ⟨⟨ahead, t⟩, ht, h⟩ := h
      cases ahead with
      | false =>
          obtain ⟨-, r, rfl, -⟩ | ⟨hahead, -⟩ := itemAhead_cases more s false t ht
          · cases h
            exact ⟨[], rfl, ht⟩
          · cases hahead
      | true =>
          obtain ⟨⟨state', u⟩, hitem, h⟩ := (bind_eq_ok _ _ _).mp h
          obtain ⟨x, hx, rfl⟩ := (pushItem_eq_ok _ _ _ _ _).mp hitem
          obtain ⟨xs, rfl, hxs⟩ := ih true (x :: state) u h
          exact ⟨x :: xs, by simp, t, u, ht, hx, hxs⟩

/-- The items that are found are read, as long as every one of them takes an octet. -/
theorem sequence_of_items {α : Type} (read : Bytes → Except Fault (α × Bytes))
    (hread : ∀ s x rest, read s = .ok (x, rest) → rest.length < s.length) (more : Bool)
    (xs : List α) (s rest : Bytes) (h : Items read more xs s rest) (fuel : Nat)
    (hfuel : s.length < fuel) (state : List α) :
    sequence (pushItem read) fuel more state s = .ok (xs.reverse ++ state, rest) := by
  induction xs generalizing more s fuel state with
  | nil =>
      obtain ⟨fuel, rfl⟩ : ∃ n, fuel = n + 1 := ⟨fuel - 1, by omega⟩
      rw [sequence_succ, h]
      rfl
  | cons x xs ih =>
      obtain ⟨fuel, rfl⟩ : ∃ n, fuel = n + 1 := ⟨fuel - 1, by omega⟩
      obtain ⟨t, u, ht, hx, hxs⟩ := h
      have ht' := length_itemAhead_le more s true t ht
      have hu := hread t x u hx
      have hpush := (pushItem_eq_ok read state _ t u).mpr ⟨x, hx, rfl⟩
      rw [sequence_succ, ht]
      show (pushItem read state t).bind (fun r => sequence (pushItem read) fuel true r.1 r.2) = _
      rw [hpush, List.reverse_cons, List.append_assoc]
      exact ih true u hxs fuel (by omega) (x :: state)

theorem sequence_eq_ok {α : Type} (read : Bytes → Except Fault (α × Bytes))
    (hread : ∀ s x rest, read s = .ok (x, rest) → rest.length < s.length) (s : Bytes)
    (xs : List α) (rest : Bytes) :
    sequence (pushItem read) (s.length + 1) false [] s = .ok (xs.reverse, rest)
      ↔ Items read false xs s rest := by
  constructor
  · intro h
    obtain ⟨ys, hys, h⟩ := items_of_sequence read _ false [] s _ rest h
    rw [List.append_nil] at hys
    rw [List.reverse_injective hys]
    exact h
  · intro h
    have h := sequence_of_items read hread false xs s rest h (s.length + 1) (Nat.lt_succ_self _) []
    rw [List.append_nil] at h
    exact h

/-- **An array is read where a bracket opens and its items are found.** -/
theorem value_eq_array (levels : Nat) (s : Bytes) (vs : List Value) (rest : Bytes) :
    value (levels + 1) s = .ok (.array vs, rest)
      ↔ ∃ r, skipSpace s = 0x5B :: r ∧ Items (value levels) false vs r rest := by
  have hitems := sequence_eq_ok (value levels) (length_value_lt levels)
  constructor
  · intro h
    obtain ⟨hdepth, -⟩ | ⟨n, ws, r, us, hn, hws, rfl, hvs, hus⟩ | ⟨_, _, _, _, -, -, -, hvs, -⟩ :=
      value_cases (levels + 1) s _ rest h
    · exact absurd hdepth (Nat.succ_ne_zero _)
    · cases hn
      cases hvs
      refine ⟨r, skipSpace_cons ws 0x5B r hws (by decide), (hitems r _ rest).mp ?_⟩
      rw [List.reverse_reverse]
      exact hus
    · cases hvs
  · rintro ⟨r, hr, h⟩
    obtain ⟨ws, hws, hs⟩ := exists_blank s
    rw [hs, hr, value_of_items levels ws r hws _ rest ((hitems r vs rest).mpr h),
      List.reverse_reverse]

/-! ## §3. Pairs of strings. -/

theorem closing_eq_ok (s rest : Bytes) :
    closing s = .ok rest ↔ itemAhead true s = .ok (false, 0x5D :: rest) := by
  unfold closing itemAhead
  cases skipSpace s with
  | nil => simp
  | cons b r =>
      dsimp only
      by_cases hclose : (b == 0x5D) = true
      · rw [if_pos hclose, if_pos hclose, beq_iff_eq.mp hclose]
        simp
      · rw [if_neg hclose, if_neg hclose, if_pos rfl]
        by_cases hcomma : (b == 0x2C) = true
        · rw [if_pos hcomma, if_pos hcomma]
          cases skipSpace r with
          | nil => simp
          | cons c t =>
              dsimp only
              split <;> simp
        · rw [if_neg hcomma, if_neg hcomma]
          simp

theorem itemAt_eq_ok {α : Type} (place : Nat) (wanted : String)
    (item : Bytes → Except Fault (α × Bytes)) (s : Bytes) (x : α) (u : Bytes) :
    itemAt place wanted item s = .ok (x, u)
      ↔ ∃ t, itemAhead (place != 0) s = .ok (true, t) ∧ item t = .ok (x, u) := by
  rw [itemAt, bind_eq_ok]
  constructor
  · rintro ⟨⟨ahead, t⟩, ht, h⟩
    cases ahead with
    | false => cases h
    | true => exact ⟨t, ht, h⟩
  · rintro ⟨t, ht, h⟩
    exact ⟨(true, t), ht, h⟩

/-- The document that stands for a pair. -/
def pairItems (p : String × String) : Value := .array [.string p.1, .string p.2]

/-- **A pair of strings is read where a value is read that is one.** -/
theorem stringPair_eq_ok (levels : Nat) (s : Bytes) (p : String × String) (rest : Bytes) :
    stringPair s = .ok (p, rest) ↔ value (levels + 1) s = .ok (pairItems p, rest) := by
  have hitems := items_map typedString (value levels) Value.string (typedString_eq_ok levels) false
    [p.1, p.2]
  rw [pairItems, value_eq_array, stringPair, bind_eq_ok]
  constructor
  · rintro ⟨r, hr, h⟩
    obtain ⟨⟨a, u⟩, ha, h⟩ := (bind_eq_ok _ _ _).mp h
    obtain ⟨⟨b, w⟩, hb, h⟩ := (bind_eq_ok _ _ _).mp h
    obtain ⟨x, hx, h⟩ := (bind_eq_ok _ _ _).mp h
    cases h
    obtain ⟨t, ht, ha⟩ := (itemAt_eq_ok _ _ _ _ _ _).mp ha
    obtain ⟨t', ht', hb⟩ := (itemAt_eq_ok _ _ _ _ _ _).mp hb
    exact ⟨r, (opening_eq_ok _ _ s r).mp hr,
      (hitems r rest).mp ⟨t, u, ht, ha, t', w, ht', hb, (closing_eq_ok _ _).mp hx⟩⟩
  · rintro ⟨r, hr, h⟩
    obtain ⟨t, u, ht, ha, t', w, ht', hb, hx⟩ := (hitems r rest).mpr h
    refine ⟨r, (opening_eq_ok _ _ s r).mpr hr, (bind_eq_ok _ _ _).mpr
      ⟨(p.1, u), (itemAt_eq_ok _ _ _ _ _ _).mpr ⟨t, ht, ha⟩, (bind_eq_ok _ _ _).mpr
        ⟨(p.2, w), (itemAt_eq_ok _ _ _ _ _ _).mpr ⟨t', ht', hb⟩, (bind_eq_ok _ _ _).mpr
          ⟨rest, (closing_eq_ok _ _).mpr hx, rfl⟩⟩⟩⟩

/-- **An array of pairs of strings is read where a value is read that is one.** -/
theorem stringPairs_eq_ok (levels : Nat) (s : Bytes) (ps : List (String × String))
    (rest : Bytes) : stringPairs s = .ok (ps, rest)
      ↔ value (levels + 2) s = .ok (.array (ps.map pairItems), rest) := by
  have hitems := items_map stringPair (value (levels + 1)) pairItems (stringPair_eq_ok levels) false
  have hpairs := sequence_eq_ok stringPair fun s p rest h =>
    length_value_lt 1 s _ rest ((stringPair_eq_ok 0 s p rest).mp h)
  have hread : stringPairs s = (opening 0x5B "a sequence" s >>= fun r =>
      sequence (pushItem stringPair) (r.length + 1) false [] r >>= fun qs =>
        pure (qs.1.reverse, qs.2)) := rfl
  rw [value_eq_array, hread, bind_eq_ok]
  constructor
  · rintro ⟨r, hr, h⟩
    obtain ⟨⟨qs, u⟩, hqs, h⟩ := (bind_eq_ok _ _ _).mp h
    cases h
    refine ⟨r, (opening_eq_ok _ _ s r).mp hr, (hitems _ r u).mp ((hpairs r _ u).mp ?_)⟩
    rw [List.reverse_reverse]
    exact hqs
  · rintro ⟨r, hr, h⟩
    have hqs := (hpairs r ps rest).mpr ((hitems ps r rest).mpr h)
    refine ⟨r, (opening_eq_ok _ _ s r).mpr hr, (bind_eq_ok _ _ _).mpr ⟨(ps.reverse, rest), hqs, ?_⟩⟩
    dsimp only
    rw [List.reverse_reverse]
    rfl

end FormUpload.Json
