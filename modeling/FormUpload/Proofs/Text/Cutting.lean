import FormUpload.Text.Split
import Mathlib.Data.List.DropRight

/-!
# Where a pattern is found

`cutAt` looks for the first occurrence of a pattern.  `Skips pattern s t` says that none
begins inside `s` when `t` follows.  It is put together piece by piece (`skips_append`),
and it is all that is needed to know where a cut is made (`cutAt_skip`):

    Skips pattern s (pattern ++ t)  →  cutAt pattern (s ++ (pattern ++ t)) = some (s, t)

A cut is made if the pattern occurs (`cutAt_eq_none_iff`), and stays where it is when more
follows (`cutAt_append`).  `splitAtAll` cuts at every occurrence.

A run of elements of one kind ends where `Stops` says so.
-/

namespace FormUpload.Text

variable {α : Type}

/-! ## §1. Runs. -/

/-- No element of a kind comes first. -/
def Stops (p : α → Bool) (s : List α) : Prop := ∀ c, s.head? = some c → p c = false

theorem stops_nil (p : α → Bool) : Stops p [] := by
  intro c hc
  cases hc

theorem stops_cons (p : α → Bool) (c : α) (s : List α) : Stops p (c :: s) ↔ p c = false := by
  constructor
  · intro h
    exact h c rfl
  · rintro h d hd
    cases hd
    exact h

theorem stops_dropWhile (p : α → Bool) (s : List α) : Stops p (s.dropWhile p) := by
  induction s with
  | nil => exact stops_nil p
  | cons c s ih =>
      rw [List.dropWhile_cons]
      split
      · exact ih
      · next hc => exact (stops_cons p c s).mpr (Bool.eq_false_iff.mpr hc)

theorem dropWhile_of_stops (p : α → Bool) (s : List α) (h : Stops p s) : s.dropWhile p = s := by
  cases s with
  | nil => rfl
  | cons c s => rw [List.dropWhile_cons_of_neg (by rw [(stops_cons p c s).mp h]; simp)]

theorem takeWhile_of_stops (p : α → Bool) (s : List α) (h : Stops p s) : s.takeWhile p = [] := by
  cases s with
  | nil => rfl
  | cons c s => rw [List.takeWhile_cons_of_neg (by rw [(stops_cons p c s).mp h]; simp)]

/-- **A run is taken whole and nothing beyond it.** -/
theorem takeWhile_run (p : α → Bool) (r s : List α) (hr : ∀ c ∈ r, p c = true)
    (hs : Stops p s) : (r ++ s).takeWhile p = r := by
  rw [List.takeWhile_append_of_pos hr, takeWhile_of_stops p s hs, List.append_nil]

theorem dropWhile_run (p : α → Bool) (r s : List α) (hr : ∀ c ∈ r, p c = true)
    (hs : Stops p s) : (r ++ s).dropWhile p = s := by
  rw [List.dropWhile_append_of_pos hr, dropWhile_of_stops p s hs]

/-- What stands up to an element that stays, stays. -/
theorem rdropWhile_append_cons (p : α → Bool) (s : List α) (c : α) (r : List α)
    (hc : p c = false) : (s ++ c :: r).rdropWhile p = s ++ c :: r.rdropWhile p := by
  induction r using List.reverseRecOn with
  | nil => rw [List.rdropWhile_concat_neg p s c (Bool.eq_false_iff.mp hc), List.rdropWhile_nil]
  | append_singleton r d ih =>
      have hs : s ++ c :: (r ++ [d]) = (s ++ c :: r) ++ [d] := by simp
      rw [hs, List.rdropWhile_concat, List.rdropWhile_concat]
      split
      · exact ih
      · rw [hs]

/-- Nothing that stays is lost with the end of a text. -/
theorem mem_rdropWhile (p : α → Bool) (s : List α) (c : α) (hc : p c = false) (h : c ∈ s) :
    c ∈ s.rdropWhile p := by
  obtain ⟨before, after, rfl⟩ := List.append_of_mem h
  rw [rdropWhile_append_cons p before c after hc]
  simp

/-- A text without separator is one piece. -/
theorem splitWhere_of_none (p : α → Bool) (s : List α) (h : ∀ c ∈ s, p c = false) :
    splitWhere p s = [s] := by
  induction s with
  | nil => rfl
  | cons c s ih =>
      obtain ⟨hc, hs⟩ := List.forall_mem_cons.mp h
      rw [splitWhere, hc, if_neg Bool.false_ne_true, ih hs]

/-- Splitting adds nothing. -/
theorem mem_of_mem_splitWhere (p : α → Bool) (s piece : List α) (hpiece : piece ∈ splitWhere p s)
    (c : α) (hc : c ∈ piece) : c ∈ s := by
  induction s generalizing piece with
  | nil =>
      rw [splitWhere, List.mem_singleton] at hpiece
      exact hpiece ▸ hc
  | cons d s ih =>
      rw [splitWhere] at hpiece
      split at hpiece
      · rcases List.mem_cons.mp hpiece with rfl | hpiece
        · cases hc
        · exact List.mem_cons_of_mem d (ih piece hpiece hc)
      · split at hpiece
        · rw [List.mem_singleton.mp hpiece, List.mem_singleton] at hc
          exact hc ▸ List.mem_cons_self
        · next first rest hsplit =>
          rw [hsplit] at ih
          rcases List.mem_cons.mp hpiece with rfl | hpiece
          · rcases List.mem_cons.mp hc with rfl | hc
            · exact List.mem_cons_self
            · exact List.mem_cons_of_mem d (ih first List.mem_cons_self hc)
          · exact List.mem_cons_of_mem d (ih piece (List.mem_cons_of_mem first hpiece) hc)

/-- Joining adds nothing but what is put between. -/
theorem mem_of_mem_joinWith (sep : List α) (pieces : List (List α)) (c : α)
    (hc : c ∈ joinWith sep pieces) : c ∈ sep ∨ ∃ piece ∈ pieces, c ∈ piece := by
  induction pieces with
  | nil => cases hc
  | cons p pieces ih =>
      cases pieces with
      | nil => exact Or.inr ⟨p, List.mem_cons_self, hc⟩
      | cons q r =>
          rw [joinWith, List.mem_append, List.mem_append] at hc
          rcases hc with (hc | hc) | hc
          · exact Or.inr ⟨p, List.mem_cons_self, hc⟩
          · exact Or.inl hc
          · rcases ih hc with hsep | ⟨piece, hpiece, hc⟩
            · exact Or.inl hsep
            · exact Or.inr ⟨piece, List.mem_cons_of_mem p hpiece, hc⟩

theorem cutWhere_of_none (p : α → Bool) (s : List α) (h : ∀ c ∈ s, p c = false) :
    cutWhere p s = none := by
  induction s with
  | nil => rfl
  | cons c s ih =>
      obtain ⟨hc, hs⟩ := List.forall_mem_cons.mp h
      rw [cutWhere, hc, if_neg Bool.false_ne_true, ih hs]
      rfl

/-- **A cut is made at the first such element.** -/
theorem cutWhere_eq_some_iff (p : α → Bool) (s a b : List α) :
    cutWhere p s = some (a, b) ↔ (∀ c ∈ a, p c = false) ∧ ∃ c, p c = true ∧ s = a ++ c :: b := by
  induction s generalizing a with
  | nil => simp [cutWhere]
  | cons d s ih =>
      rw [cutWhere]
      cases hd : p d with
      | true =>
          rw [if_pos rfl]
          constructor
          · intro h
            cases h
            exact ⟨List.forall_mem_nil _, d, hd, rfl⟩
          · rintro ⟨ha, c, -, hs⟩
            cases a with
            | nil =>
                cases hs
                rfl
            | cons x a =>
                cases hs
                rw [ha d List.mem_cons_self] at hd
                cases hd
      | false =>
          rw [if_neg Bool.false_ne_true, Option.map_eq_some_iff]
          constructor
          · rintro ⟨⟨a', b'⟩, hcut, h⟩
            cases h
            obtain ⟨ha, c, hc, rfl⟩ := (ih a').mp hcut
            exact ⟨List.forall_mem_cons.mpr ⟨hd, ha⟩, c, hc, rfl⟩
          · rintro ⟨ha, c, hc, hs⟩
            cases a with
            | nil =>
                cases hs
                rw [hd] at hc
                cases hc
            | cons x a =>
                cases hs
                exact ⟨(a, b), (ih a).mpr ⟨(List.forall_mem_cons.mp ha).2, c, hc, rfl⟩, rfl⟩

/-! ## §2. Passing over a text. -/

/-- No occurrence of the pattern begins inside `s` when `t` follows. -/
def Skips (pattern s t : List α) : Prop := ∀ z, z ≠ [] → z <:+ s → ¬ pattern <+: z ++ t

theorem skips_nil (pattern t : List α) : Skips pattern [] t := by
  intro z hz hs
  exact absurd (List.suffix_nil.mp hs) hz

theorem skips_cons (pattern : List α) (c : α) (s t : List α) :
    Skips pattern (c :: s) t ↔ ¬ pattern <+: c :: (s ++ t) ∧ Skips pattern s t := by
  constructor
  · intro h
    refine ⟨h (c :: s) (List.cons_ne_nil c s) List.suffix_rfl, fun z hz hs => ?_⟩
    exact h z hz (hs.trans (List.suffix_cons c s))
  · rintro ⟨hc, hs⟩ z hz hzs
    rcases List.suffix_cons_iff.mp hzs with rfl | hzs
    · exact hc
    · exact hs z hz hzs

theorem skips_append (pattern s s' t : List α) :
    Skips pattern (s ++ s') t ↔ Skips pattern s (s' ++ t) ∧ Skips pattern s' t := by
  induction s with
  | nil => simp [skips_nil]
  | cons c s ih =>
      rw [List.cons_append, skips_cons, skips_cons, ih, List.append_assoc]
      exact and_assoc.symm

/-- What skips the beginning of a pattern skips the pattern. -/
theorem Skips.longer {p q s t : List α} (h : Skips p s t) (hpq : p <+: q) : Skips q s t := by
  intro z hz hs hq
  exact h z hz hs (hpq.trans hq)

/-- A text without the first element of a pattern. -/
theorem skips_of_not_mem (c : α) (q s t : List α) (h : c ∉ s) : Skips (c :: q) s t := by
  induction s with
  | nil => exact skips_nil _ _
  | cons d s ih =>
      rw [skips_cons]
      refine ⟨?_, ih fun hc => h (List.mem_cons_of_mem d hc)⟩
      intro hp
      have hcd : c = d := (List.cons_prefix_cons.mp hp).1
      exact h (hcd ▸ List.mem_cons_self)

/-- A text without the second element of a pattern, if that does not come next. -/
theorem skips_of_second_not_mem (c d : α) (s t : List α) (hs : d ∉ s) (ht : t.head? ≠ some d) :
    Skips [c, d] s t := by
  induction s with
  | nil => exact skips_nil _ _
  | cons e s ih =>
      rw [List.mem_cons, not_or] at hs
      rw [skips_cons]
      refine ⟨?_, ih hs.2⟩
      rintro ⟨r, hr⟩
      have hd : d :: r = s ++ t := (List.cons.inj hr).2
      cases s with
      | nil =>
          -- the second element would be the first of `t`
          rw [List.nil_append] at hd
          rw [← hd] at ht
          exact ht rfl
      | cons f s =>
          -- or stand in `s` itself
          apply hs.2
          rw [(List.cons.inj hd).1]
          exact List.mem_cons_self

/-- A beginning without an element ends before it. -/
theorem prefix_of_not_mem (q x : List α) (c : α) (y : List α) (hc : c ∉ q)
    (h : q <+: x ++ c :: y) : q <+: x := by
  induction x generalizing q with
  | nil =>
      cases q with
      | nil => exact List.nil_prefix
      | cons d q =>
          rw [List.nil_append, List.cons_prefix_cons] at h
          rw [h.1] at hc
          exact absurd List.mem_cons_self hc
  | cons e x ih =>
      cases q with
      | nil => exact List.nil_prefix
      | cons d q =>
          rw [List.cons_append, List.cons_prefix_cons] at h
          exact List.cons_prefix_cons.mpr ⟨h.1, ih q (fun hq => hc (List.mem_cons_of_mem d hq)) h.2⟩

/-- **A pattern whose first element occurs in it only once is found where it was
put**, if the text before it does not hold it. -/
theorem skips_of_not_infix (c : α) (q s t : List α) (hc : c ∉ q) (h : ¬ (c :: q) <:+: s) :
    Skips (c :: q) s (c :: q ++ t) := by
  intro z hz hs hp
  cases z with
  | nil => exact hz rfl
  | cons d z =>
      rw [List.cons_append, List.cons_prefix_cons] at hp
      -- the pattern does not overlap itself, so the whole of it would lie inside `s`
      have htail := prefix_of_not_mem q z c (q ++ t) hc hp.2
      exact h ((List.cons_prefix_cons.mpr ⟨hp.1, htail⟩).isInfix.trans hs.isInfix)

/-- **A pattern that lies across an element begins with it**, if the element is nowhere
else in the pattern. -/
theorem infix_append_cons (p : α) (ps x : List α) (c : α) (y : List α) (hc : c ∉ ps)
    (h : (p :: ps) <:+: x ++ c :: y) : (p :: ps) <:+: x ∨ (p :: ps) <:+: c :: y := by
  induction x with
  | nil => exact Or.inr h
  | cons d x ih =>
      rw [List.cons_append, List.infix_cons_iff] at h
      rcases h with h | h
      · rw [List.cons_prefix_cons] at h
        have htail := prefix_of_not_mem ps x c y hc h.2
        exact Or.inl (List.cons_prefix_cons.mpr ⟨h.1, htail⟩).isInfix
      · rcases ih h with h | h
        · exact Or.inl (h.trans (List.infix_cons_iff.mpr (Or.inr List.infix_rfl)))
        · exact Or.inr h

/-- A pattern does not lie across an element that it does not hold. -/
theorem infix_append_of_not_mem (p : α) (ps x : List α) (c : α) (y : List α) (hc : c ∉ p :: ps)
    (h : (p :: ps) <:+: x ++ c :: y) : (p :: ps) <:+: x ∨ (p :: ps) <:+: y := by
  rw [List.mem_cons, not_or] at hc
  rcases infix_append_cons p ps x c y hc.2 h with h | h
  · exact Or.inl h
  · rw [List.infix_cons_iff, List.cons_prefix_cons] at h
    rcases h with h | h
    · exact absurd h.1.symm hc.1
    · exact Or.inr h

/-! ## §3. Beginnings. -/

variable [DecidableEq α]

theorem afterStart?_append (pattern t : List α) : afterStart? pattern (pattern ++ t) = some t := by
  induction pattern with
  | nil => rfl
  | cons p ps ih =>
      rw [List.cons_append, afterStart?, if_pos rfl]
      exact ih

theorem afterStart?_eq_some_iff (pattern s t : List α) :
    afterStart? pattern s = some t ↔ s = pattern ++ t := by
  constructor
  · intro h
    induction pattern generalizing s with
    | nil =>
        simp only [afterStart?, Option.some.injEq] at h
        rw [h]
        rfl
    | cons p ps ih =>
        cases s with
        | nil => cases h
        | cons c s =>
            rw [afterStart?] at h
            split at h
            · next hpc =>
              subst hpc
              rw [ih s h]
              rfl
            · cases h
  · rintro rfl
    exact afterStart?_append pattern t

theorem afterStart?_eq_none_iff (pattern s : List α) :
    afterStart? pattern s = none ↔ ¬ pattern <+: s := by
  constructor
  · rintro h ⟨t, rfl⟩
    rw [afterStart?_append] at h
    cases h
  · intro h
    cases hs : afterStart? pattern s with
    | none => rfl
    | some t =>
        rw [afterStart?_eq_some_iff] at hs
        exact absurd ⟨t, hs.symm⟩ h

/-! ## §4. Cuts. -/

theorem cutAt_self (pattern t : List α) : cutAt pattern (pattern ++ t) = some ([], t) := by
  cases hs : pattern ++ t with
  | nil =>
      obtain ⟨rfl, rfl⟩ := List.append_eq_nil_iff.mp hs
      rfl
  | cons c s => rw [cutAt, ← hs, afterStart?_append]

/-- **A cut is made behind everything that is skipped.** -/
theorem cutAt_skip (pattern s t : List α) (h : Skips pattern s t) :
    cutAt pattern (s ++ t) = (cutAt pattern t).map fun r => (s ++ r.1, r.2) := by
  induction s with
  | nil => simp
  | cons c s ih =>
      rw [skips_cons] at h
      rw [List.cons_append, cutAt, (afterStart?_eq_none_iff pattern _).mpr h.1]
      show (cutAt pattern (s ++ t)).map _ = _
      rw [ih h.2, Option.map_map]
      rfl

theorem cutAt_of_skips (pattern s t : List α) (h : Skips pattern s (pattern ++ t)) :
    cutAt pattern (s ++ (pattern ++ t)) = some (s, t) := by
  rw [cutAt_skip pattern s _ h, cutAt_self]
  simp

theorem cutAt_eq_none_of_skips (pattern s : List α) (hp : pattern ≠ [])
    (h : Skips pattern s []) : cutAt pattern s = none := by
  have hs := cutAt_skip pattern s [] h
  rw [List.append_nil] at hs
  rw [hs, cutAt, List.isEmpty_eq_false_iff.mpr hp]
  rfl

theorem cutAt_eq_none_iff (pattern s : List α) (hp : pattern ≠ []) :
    cutAt pattern s = none ↔ ¬ pattern <:+: s := by
  induction s with
  | nil =>
      rw [cutAt, List.isEmpty_eq_false_iff.mpr hp, List.infix_nil]
      simpa using hp
  | cons c s ih =>
      rw [cutAt, List.infix_cons_iff, not_or, ← ih, ← afterStart?_eq_none_iff]
      cases afterStart? pattern (c :: s) with
      | none => simp
      | some t => simp

theorem occurs_iff (pattern s : List α) : occurs pattern s = true ↔ pattern <:+: s := by
  unfold occurs
  rcases eq_or_ne pattern [] with rfl | hp
  · have hself := cutAt_self [] s
    rw [List.nil_append] at hself
    simp [hself]
  · have hnone := cutAt_eq_none_iff pattern s hp
    rw [Option.isSome_iff_ne_none, ne_eq, hnone, not_not]

/-- A cut takes one occurrence of the pattern out. -/
theorem cutAt_eq_some (pattern s before after : List α)
    (h : cutAt pattern s = some (before, after)) : s = before ++ (pattern ++ after) := by
  induction s generalizing before with
  | nil =>
      rw [cutAt] at h
      split at h
      · next hp =>
        cases h
        rw [List.isEmpty_iff.mp hp]
        rfl
      · cases h
  | cons c s ih =>
      rw [cutAt] at h
      split at h
      · next rest hrest =>
        cases h
        rw [List.nil_append]
        exact (afterStart?_eq_some_iff _ _ _).mp hrest
      · obtain ⟨⟨b, a⟩, hcut, h⟩ := Option.map_eq_some_iff.mp h
        cases h
        rw [ih b hcut]
        rfl

/-- **A cut stays where it is when more follows.** -/
theorem cutAt_append (pattern s t before after : List α) (hp : pattern ≠ [])
    (h : cutAt pattern s = some (before, after)) :
    cutAt pattern (s ++ t) = some (before, after ++ t) := by
  induction s generalizing before with
  | nil =>
      rw [cutAt, List.isEmpty_eq_false_iff.mpr hp] at h
      cases h
  | cons c s ih =>
      rw [cutAt] at h
      split at h
      · next rest hrest =>
        cases h
        rw [(afterStart?_eq_some_iff _ _ _).mp hrest, List.append_assoc, cutAt_self]
      · next hno =>
        obtain ⟨⟨b, a⟩, hcut, h⟩ := Option.map_eq_some_iff.mp h
        cases h
        -- the occurrence lies inside `s`, and one that begins earlier also ends earlier
        have hlength : pattern.length ≤ (c :: s).length := by
          rw [cutAt_eq_some pattern s b after hcut]
          simp only [List.length_cons, List.length_append]
          omega
        have hnone : afterStart? pattern (c :: s ++ t) = none := by
          rw [afterStart?_eq_none_iff] at hno ⊢
          exact fun h => hno (List.prefix_of_prefix_length_le h (List.prefix_append _ t) hlength)
        rw [List.cons_append] at hnone ⊢
        rw [cutAt, hnone, ih b hcut]
        rfl

/-! ## §5. Cutting at every occurrence. -/

/-- The pieces between the occurrences of a pattern.  Each cut takes some elements away,
so `fuel` beyond their number is never used up. -/
def splitAtAll (pattern : List α) : (fuel : Nat) → List α → List (List α)
  | 0, s => [s]
  | fuel + 1, s =>
      match cutAt pattern s with
      | none => [s]
      | some (a, b) => a :: splitAtAll pattern fuel b

theorem splitAtAll_of_skips (pattern s t : List α) (fuel : Nat)
    (h : Skips pattern s (pattern ++ t)) :
    splitAtAll pattern (fuel + 1) (s ++ (pattern ++ t)) = s :: splitAtAll pattern fuel t := by
  rw [splitAtAll, cutAt_of_skips pattern s t h]

theorem splitAtAll_last (pattern s : List α) (fuel : Nat) (hp : pattern ≠ [])
    (h : Skips pattern s []) : splitAtAll pattern fuel s = [s] := by
  cases fuel with
  | zero => rfl
  | succ fuel => rw [splitAtAll, cutAt_eq_none_of_skips pattern s hp h]

end FormUpload.Text
