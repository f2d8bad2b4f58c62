import FormUpload.Response.Reader
import FormUpload.Proofs.Text.Cutting

/-!
# Running through items and members

`sequence` and `members` do the same again and again: they find the next item or key
(`itemAhead`, `keyAhead`), hand it on, and go on behind it (`sequence_succ`, `members_succ`).
All that is said of them follows from one round:

* where the next item or key is found (`itemAhead_cases`, `keyAhead_cases`),
* what two readers that agree on every item or member have in common
  (`sequence_related`, `members_related`),
* what a reader keeps that keeps it at every item or member (`sequence_keeps`, `members_keeps`).
-/

namespace FormUpload.Json

open FormUpload.Text

/-! ## §1. Steps that succeed. -/

/-- What is done with what was read succeeds only if the reading did. -/
theorem bind_eq_ok {α β : Type} (x : Except Fault α) (f : α → Except Fault β) (b : β) :
    (x >>= f) = .ok b ↔ ∃ a, x = .ok a ∧ f a = .ok b := by
  cases x with
  | error e => simp [bind, Except.bind]
  | ok a => simp [bind, Except.bind]

theorem skipSpace_skipSpace (s : Bytes) : skipSpace (skipSpace s) = skipSpace s :=
  dropWhile_of_stops _ _ (stops_dropWhile isSpace s)

theorem length_skipSpace_le (s : Bytes) : (skipSpace s).length ≤ s.length :=
  List.length_dropWhile_le isSpace s

/-! ## §2. One round through the items of an array. -/

theorem sequence_succ {σ : Type} (item : σ → Bytes → Except Fault (σ × Bytes)) (fuel : Nat)
    (more : Bool) (state : σ) (s : Bytes) :
    sequence item (fuel + 1) more state s = (do
      let (ahead, s) ← itemAhead more s
      if ahead then do
        let (state, rest) ← item state s
        sequence item fuel true state rest
      else .ok (state, s.tail)) := by
  rw [sequence, itemAhead]
  cases skipSpace s with
  | nil => rfl
  | cons b r =>
      dsimp only
      by_cases hclose : (b == 0x5D) = true
      · rw [if_pos hclose, if_pos hclose]
        rfl
      rw [if_neg hclose, if_neg hclose]
      cases more with
      | false => rfl
      | true =>
          rw [if_pos rfl, if_pos rfl]
          by_cases hcomma : (b == 0x2C) = true
          · rw [if_pos hcomma, if_pos hcomma]
            cases skipSpace r with
            | nil => rfl
            | cons c t =>
                dsimp only
                by_cases hlast : (c == 0x5D) = true
                · rw [if_pos hlast, if_pos hlast]
                  rfl
                · rw [if_neg hlast, if_neg hlast]
                  rfl
          · rw [if_neg hcomma, if_neg hcomma]
            rfl

/-- Where the next item is found. -/
theorem itemAhead_cases (more : Bool) (s : Bytes) (ahead : Bool) (t : Bytes)
    (h : itemAhead more s = .ok (ahead, t)) :
    (ahead = false ∧ ∃ r, t = 0x5D :: r ∧ skipSpace s = 0x5D :: r)
      ∨ (ahead = true ∧ (∃ c u, t = c :: u ∧ c ≠ 0x5D)
        ∧ (more = false ∧ t = skipSpace s
          ∨ more = true ∧ ∃ r, skipSpace s = 0x2C :: r ∧ t = skipSpace r)) := by
  unfold itemAhead at h
  cases hs : skipSpace s with
  | nil =>
      rw [hs] at h
      cases h
  | cons b r =>
      rw [hs] at h
      dsimp only at h
      by_cases hclose : (b == 0x5D) = true
      · rw [if_pos hclose] at h
        cases h
        rw [beq_iff_eq] at hclose
        exact Or.inl ⟨rfl, r, by rw [hclose], by rw [hclose]⟩
      rw [if_neg hclose] at h
      rw [beq_iff_eq] at hclose
      cases more with
      | false =>
          cases h
          exact Or.inr ⟨rfl, ⟨b, r, rfl, hclose⟩, Or.inl ⟨rfl, rfl⟩⟩
      | true =>
          rw [if_pos rfl] at h
          split at h
          · next hcomma =>
            rw [beq_iff_eq] at hcomma
            cases hr : skipSpace r with
            | nil =>
                rw [hr] at h
                cases h
            | cons c u =>
                rw [hr] at h
                dsimp only at h
                split at h
                · cases h
                · next hlast =>
                  cases h
                  rw [beq_iff_eq] at hlast
                  exact Or.inr ⟨rfl, ⟨c, u, rfl, hlast⟩,
                    Or.inr ⟨rfl, r, by rw [hcomma], hr.symm⟩⟩
          · cases h

/-! ## §3. One round through the members of an object. -/

/-- Whether another member follows in an object, and the octets after the quote of its key,
or after the closing brace.  `more` says that a member has been read. -/
def keyAhead (more : Bool) (s : Bytes) : Except Fault (Bool × Bytes) :=
  match skipSpace s with
  | [] => .error (.with .endInObject [])
  | b :: r =>
      if b == 0x7D then .ok (false, r)
      else if more then
        if b == 0x2C then
          match skipSpace r with
          | [] => .error (.with .endInValue [])
          | c :: t =>
              if c == 0x22 then .ok (true, t)
              else if c == 0x7D then .error (.with .trailingComma (c :: t))
              else .error (.with .keyNotString (c :: t))
        else .error (.with .expectedCommaOrBrace (b :: r))
      else if b == 0x22 then .ok (true, r)
      else .error (.with .keyNotString (b :: r))

theorem members_succ {σ : Type} (entry : σ → String → Bytes → Except Fault (σ × Bytes))
    (fuel : Nat) (more : Bool) (state : σ) (s : Bytes) :
    members entry (fuel + 1) more state s = (do
      let (ahead, s) ← keyAhead more s
      if ahead then do
        let (key, rest) ← string s
        let (state, rest) ← entry state key rest
        members entry fuel true state rest
      else .ok (state, s)) := by
  rw [members, keyAhead]
  cases skipSpace s with
  | nil => rfl
  | cons b r =>
      dsimp only
      by_cases hclose : (b == 0x7D) = true
      · rw [if_pos hclose, if_pos hclose]
        rfl
      rw [if_neg hclose, if_neg hclose]
      cases more with
      | false =>
          rw [if_neg Bool.false_ne_true, if_neg Bool.false_ne_true]
          by_cases hquote : (b == 0x22) = true
          · rw [if_pos hquote, if_pos hquote]
            rfl
          · rw [if_neg hquote, if_neg hquote]
            rfl
      | true =>
          rw [if_pos rfl, if_pos rfl]
          by_cases hcomma : (b == 0x2C) = true
          · rw [if_pos hcomma, if_pos hcomma]
            cases skipSpace r with
            | nil => rfl
            | cons c t =>
                dsimp only
                by_cases hquote : (c == 0x22) = true
                · rw [if_pos hquote, if_pos hquote]
                  rfl
                rw [if_neg hquote, if_neg hquote]
                by_cases hlast : (c == 0x7D) = true
                · rw [if_pos hlast, if_pos hlast]
                  rfl
                · rw [if_neg hlast, if_neg hlast]
                  rfl
          · rw [if_neg hcomma, if_neg hcomma]
            rfl

/-- Where the next key is found. -/
theorem keyAhead_cases (more : Bool) (s : Bytes) (ahead : Bool) (t : Bytes)
    (h : keyAhead more s = .ok (ahead, t)) :
    (ahead = false ∧ skipSpace s = 0x7D :: t)
      ∨ (ahead = true ∧ (more = false ∧ skipSpace s = 0x22 :: t
        ∨ more = true ∧ ∃ r, skipSpace s = 0x2C :: r ∧ skipSpace r = 0x22 :: t)) := by
  unfold keyAhead at h
  cases hs : skipSpace s with
  | nil =>
      rw [hs] at h
      cases h
  | cons b r =>
      rw [hs] at h
      dsimp only at h
      split at h
      · next hclose =>
        cases h
        rw [beq_iff_eq] at hclose
        exact Or.inl ⟨rfl, by rw [hclose]⟩
      split at h
      · next hmore =>
        split at h
        · next hcomma =>
          rw [beq_iff_eq] at hcomma
          cases hr : skipSpace r with
          | nil =>
              rw [hr] at h
              cases h
          | cons c u =>
              rw [hr] at h
              dsimp only at h
              split at h
              · next hquote =>
                cases h
                rw [beq_iff_eq] at hquote
                exact Or.inr ⟨rfl, Or.inr ⟨hmore, r, by rw [hcomma], by rw [hr, hquote]⟩⟩
              · split at h <;> cases h
        · cases h
      · next hmore =>
        split at h
        · next hquote =>
          cases h
          rw [beq_iff_eq] at hquote
          exact Or.inr ⟨rfl, Or.inl ⟨Bool.eq_false_iff.mpr hmore, by rw [hquote]⟩⟩
        · cases h

/-! ## §4. All rounds. -/

/-- **Related readers go through the items together**: what one reads to its end the other
one reads as well, and the states stay related. -/
theorem sequence_related {σ τ : Type} (R : σ → τ → Prop)
    (item : σ → Bytes → Except Fault (σ × Bytes)) (item' : τ → Bytes → Except Fault (τ × Bytes))
    (hitem : ∀ a b s a' rest, R a b → item a s = .ok (a', rest) →
      ∃ b', item' b s = .ok (b', rest) ∧ R a' b')
    (fuel : Nat) (more : Bool) (a : σ) (b : τ) (s : Bytes) (a' : σ) (rest : Bytes) (hab : R a b)
    (h : sequence item fuel more a s = .ok (a', rest)) :
    ∃ b', sequence item' fuel more b s = .ok (b', rest) ∧ R a' b' := by
  induction fuel generalizing more a b s with
  | zero => cases h
  | succ fuel ih =>
      rw [sequence_succ, bind_eq_ok] at h
      obtain ⟨⟨ahead, t⟩, ht, h⟩ := h
      rw [sequence_succ, ht]
      cases ahead with
      | false =>
          cases h
          exact ⟨b, rfl, hab⟩
      | true =>
          obtain ⟨⟨a₁, u⟩, hread, h⟩ := (bind_eq_ok _ _ _).mp h
          obtain ⟨b₁, hread', hab⟩ := hitem a b t a₁ u hab hread
          obtain ⟨b', h', hab⟩ := ih true a₁ b₁ u hab h
          refine ⟨b', ?_, hab⟩
          show (item' b t).bind (fun r => sequence item' fuel true r.1 r.2) = _
          rw [hread']
          exact h'

/-- **Related readers go through the members together.** -/
theorem members_related {σ τ : Type} (R : σ → τ → Prop)
    (entry : σ → String → Bytes → Except Fault (σ × Bytes))
    (entry' : τ → String → Bytes → Except Fault (τ × Bytes))
    (hentry : ∀ a b key s a' rest, R a b → entry a key s = .ok (a', rest) →
      ∃ b', entry' b key s = .ok (b', rest) ∧ R a' b')
    (fuel : Nat) (more : Bool) (a : σ) (b : τ) (s : Bytes) (a' : σ) (rest : Bytes) (hab : R a b)
    (h : members entry fuel more a s = .ok (a', rest)) :
    ∃ b', members entry' fuel more b s = .ok (b', rest) ∧ R a' b' := by
  induction fuel generalizing more a b s with
  | zero => cases h
  | succ fuel ih =>
      rw [members_succ, bind_eq_ok] at h
      obtain ⟨⟨ahead, t⟩, ht, h⟩ := h
      rw [members_succ, ht]
      cases ahead with
      | false =>
          cases h
          exact ⟨b, rfl, hab⟩
      | true =>
          obtain ⟨⟨key, u⟩, hkey, h⟩ := (bind_eq_ok _ _ _).mp h
          obtain ⟨⟨a₁, w⟩, hread, h⟩ := (bind_eq_ok _ _ _).mp h
          obtain ⟨b₁, hread', hab⟩ := hentry a b key u a₁ w hab hread
          obtain ⟨b', h', hab⟩ := ih true a₁ b₁ w hab h
          refine ⟨b', ?_, hab⟩
          show (string t).bind (fun k => (entry' b k.1 k.2).bind
            (fun r => members entry' fuel true r.1 r.2)) = _
          rw [hkey]
          show (entry' b key u).bind _ = _
          rw [hread']
          exact h'

/-- What every item keeps, all items keep. -/
theorem sequence_keeps {σ : Type} (P : σ → Prop) (item : σ → Bytes → Except Fault (σ × Bytes))
    (hitem : ∀ a s a' rest, P a → item a s = .ok (a', rest) → P a') (fuel : Nat) (more : Bool)
    (a : σ) (s : Bytes) (a' : σ) (rest : Bytes) (ha : P a)
    (h : sequence item fuel more a s = .ok (a', rest)) : P a' := by
  -- the reader beside itself
  have hself : ∀ a b s a' rest, (a = b ∧ P a) → item a s = .ok (a', rest) →
      ∃ b', item b s = .ok (b', rest) ∧ a' = b' ∧ P a' := by
    rintro a _ s a' rest ⟨rfl, ha⟩ h
    exact ⟨a', h, rfl, hitem a s a' rest ha h⟩
  obtain ⟨_, -, -, hP⟩ := sequence_related _ _ _ hself fuel more a a s a' rest ⟨rfl, ha⟩ h
  exact hP

/-- What every member keeps, all members keep. -/
theorem members_keeps {σ : Type} (P : σ → Prop)
    (entry : σ → String → Bytes → Except Fault (σ × Bytes))
    (hentry : ∀ a key s a' rest, P a → entry a key s = .ok (a', rest) → P a') (fuel : Nat)
    (more : Bool) (a : σ) (s : Bytes) (a' : σ) (rest : Bytes) (ha : P a)
    (h : members entry fuel more a s = .ok (a', rest)) : P a' := by
  have hself : ∀ a b key s a' rest, (a = b ∧ P a) → entry a key s = .ok (a', rest) →
      ∃ b', entry b key s = .ok (b', rest) ∧ a' = b' ∧ P a' := by
    rintro a _ key s a' rest ⟨rfl, ha⟩ h
    exact ⟨a', h, rfl, hentry a key s a' rest ha h⟩
  obtain ⟨_, -, -, hP⟩ := members_related _ _ _ hself fuel more a a s a' rest ⟨rfl, ha⟩ h
  exact hP

end FormUpload.Json
