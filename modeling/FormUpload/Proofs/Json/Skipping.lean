import FormUpload.Proofs.Json.Nesting

/-!
# Skipping what could be read

Whatever is read as a value is passed over up to the same place, however deep it nests
(`skipValue_of_value`).  The reader calls itself for what lies inside a bracket, skipping keeps
the open brackets on a stack, so what is proved of a value is that skipping it leaves the stack
as it was (`Passes`), and of an open bracket that skipping it to its end takes it from the stack
(`Ends`).  Both count rounds, of which a value takes no more than it has octets.
-/

namespace FormUpload.Json

open FormUpload.Text

/-! ## §1. Strings. -/

/-- **A string that is read is passed over** up to the same place. -/
theorem skipString_of_stringOctets (read s octets rest : Bytes)
    (h : stringOctets read s = .ok (octets, rest)) : skipString s = .ok rest := by
  fun_induction stringOctets read s with
  | case2 read s =>
      cases h
      rfl
  | case7 read a b c d n hn _ _ a' b' c' d' t n' hn' _ ih =>
      -- a surrogate pair is passed over as two codes
      rw [skipString, hn]
      dsimp only
      rw [skipString, hn']
      exact ih h
  | case14 read a b c d s n hn _ _ ih =>
      rw [skipString, hn]
      exact ih h
  | case16 read e s _ he b hb ih =>
      rw [skipString.eq_6 _ _ (fun _ _ _ _ _ h _ => he h) he, hb]
      exact ih h
  | case19 read b s hquote hend hcode hbroken hshort hlow ih =>
      rw [skipString.eq_7 _ _ hquote hend hcode hbroken hshort, if_neg hlow]
      exact ih h
  | _ => cases h

theorem length_skipString_lt (s rest : Bytes) (h : skipString s = .ok rest) :
    rest.length < s.length := by
  fun_induction skipString s with
  | case2 s =>
      cases h
      exact Nat.lt_succ_self _
  | case5 a b c d s n _ ih =>
      have := ih h
      simp only [List.length_cons]
      omega
  | case7 e s _ _ b _ ih =>
      have := ih h
      simp only [List.length_cons]
      omega
  | case10 b s _ _ _ _ _ _ ih =>
      have := ih h
      simp only [List.length_cons]
      omega
  | _ => cases h

theorem skipString_of_string (s : Bytes) (t : String) (rest : Bytes)
    (h : string s = .ok (t, rest)) : skipString s = .ok rest := by
  obtain ⟨⟨octets, u⟩, hoctets, h⟩ := (bind_eq_ok _ _ _).mp h
  dsimp only at h
  split at h
  · cases h
    exact skipString_of_stringOctets [] s octets rest hoctets
  · cases h

/-! ## §2. Numbers. -/

/-- Taking digits into a significand or dropping them leads to the same place. -/
theorem dropWhile_absorb (limit m n : Nat) (s : Bytes) :
    (absorb limit m n s).2.2.dropWhile isDigit = s.dropWhile isDigit := by
  fun_induction absorb limit m n s with
  | case1 => rfl
  | case2 m n b s h ih =>
      rw [Bool.and_eq_true] at h
      rw [ih, List.dropWhile_cons_of_pos h.1]
  | case3 => rfl

/-- Digits that do not begin are not taken. -/
theorem absorb_of_stops (limit m n : Nat) (s : Bytes) (h : Stops isDigit s) :
    absorb limit m n s = (m, n, s) := by
  cases s with
  | nil => rfl
  | cons b s => rw [absorb, (stops_cons _ b s).mp h]; rfl

theorem scaled_rest (negative : Bool) (m : Nat) (e : Int) (s : Bytes) (x : Number) (rest : Bytes)
    (h : scaled negative m e s = .ok (x, rest)) : rest = s := by
  unfold scaled at h
  split at h
  · cases h
    rfl
  · cases h

theorem exponentDigits_rest (negative : Bool) (m : Nat) (places : Int) (down : Bool) (e : Nat)
    (s : Bytes) (x : Number) (rest : Bytes)
    (h : exponentDigits negative m places down e s = .ok (x, rest)) :
    rest = s.dropWhile isDigit := by
  fun_induction exponentDigits negative m places down e s with
  | case1 e => exact scaled_rest _ _ _ _ _ _ h
  | case2 e b s hb e' _ ih =>
      rw [List.dropWhile_cons_of_pos hb]
      exact ih h
  | case3 e b s hb e' _ _ => cases h
  | case4 e b s hb e' _ _ =>
      cases h
      rw [List.dropWhile_cons_of_pos hb]
  | case5 e b s hb =>
      rw [List.dropWhile_cons_of_neg hb]
      exact scaled_rest _ _ _ _ _ _ h

theorem skipExponent_of_exponent (negative : Bool) (m : Nat) (places : Int) (s : Bytes)
    (x : Number) (rest : Bytes) (h : exponent negative m places s = .ok (x, rest)) :
    skipExponent s = .ok rest := by
  -- behind the sign, if there is one, the digits are passed over
  have hdigits : ∀ down b r, (if isDigit b
      then exponentDigits negative m places down (digitValue b) r
      else .error (.before .badNumber r)) = .ok (x, rest) →
      (if isDigit b then Except.ok (r.dropWhile isDigit) else .error (Fault.before .badNumber r))
        = .ok rest := by
    intro down b r h
    split at h
    · next hb => rw [if_pos hb, exponentDigits_rest _ _ _ _ _ _ _ _ h]
    · cases h
  unfold exponent at h
  unfold skipExponent
  cases s with
  | nil => cases h
  | cons b r =>
      dsimp only at h ⊢
      by_cases hplus : (b == 0x2B) = true
      · rw [if_pos hplus] at h
        rw [hplus, Bool.true_or, if_pos rfl]
        cases r with
        | nil => cases h
        | cons c t => exact hdigits false c t h
      by_cases hminus : (b == 0x2D) = true
      · rw [if_neg hplus, if_pos hminus] at h
        rw [hminus, Bool.or_true, if_pos rfl]
        cases r with
        | nil => cases h
        | cons c t => exact hdigits true c t h
      · rw [if_neg hplus, if_neg hminus] at h
        rw [Bool.eq_false_iff.mpr hplus, Bool.eq_false_iff.mpr hminus, Bool.or_false,
          if_neg Bool.false_ne_true]
        exact hdigits false b r h

theorem skipFraction_of_fraction (negative : Bool) (m : Nat) (places : Int) (s : Bytes)
    (x : Number) (rest : Bytes) (h : fraction negative m places s = .ok (x, rest)) :
    skipFraction s = .ok rest := by
  have habsorb := dropWhile_absorb significandLimit m 0 s
  unfold fraction at h
  cases s with
  | nil => cases h
  | cons b r =>
      by_cases hb : isDigit b = true
      · rw [skipFraction, if_pos hb]
        dsimp only at h
        rw [habsorb, List.dropWhile_cons_of_pos hb] at h
        split at h
        · cases h
        · unfold afterDigits at h
          split at h
          · next c t hc =>
            rw [hc]
            dsimp only
            split at h
            · next hletter =>
              rw [if_pos hletter]
              exact skipExponent_of_exponent _ _ _ _ _ _ h
            · next hletter => rw [if_neg hletter, scaled_rest _ _ _ _ _ _ h, hc]
          · next hnil => rw [hnil, scaled_rest _ _ _ _ _ _ h]
      -- without a digit after the point there is no number
      · have hstops : Stops isDigit (b :: r) :=
          (stops_cons _ b r).mpr (Bool.eq_false_iff.mpr hb)
        rw [absorb_of_stops _ _ _ _ hstops] at h
        dsimp only at h
        rw [dropWhile_of_stops _ _ hstops, if_pos ⟨rfl, rfl⟩] at h
        cases h

theorem skipAfterWhole_of_afterWhole (negative : Bool) (m : Nat) (s : Bytes) (x : Number)
    (rest : Bytes) (h : afterWhole negative m s = .ok (x, rest)) :
    skipAfterWhole (s.dropWhile isDigit) = .ok rest := by
  have hwhole : ∀ t, wholeNumber negative m t = .ok (x, rest) → rest = t := by
    intro t ht
    unfold wholeNumber at ht
    split at ht
    · cases ht
      rfl
    · split at ht
      · exact scaled_rest _ _ _ _ _ _ ht
      · cases ht
        rfl
  have hend : ∀ (places : Nat) (t : Bytes), (if places = 0 then wholeNumber negative m t
      else scaled negative m (places : Int) t) = .ok (x, rest) → rest = t := by
    intro places t ht
    split at ht
    · exact hwhole t ht
    · exact scaled_rest _ _ _ _ _ _ ht
  unfold afterWhole at h
  dsimp only at h
  split at h
  · next hnil =>
    rw [hnil, hend (s.takeWhile isDigit).length [] h]
    rfl
  · next b r hb =>
    rw [hb, skipAfterWhole]
    split at h
    · next hpoint =>
      rw [if_pos hpoint]
      exact skipFraction_of_fraction _ _ _ _ _ _ h
    · next hpoint =>
      rw [if_neg hpoint]
      split at h
      · next hletter =>
        rw [if_pos hletter]
        exact skipExponent_of_exponent _ _ _ _ _ _ h
      · next hletter => rw [if_neg hletter, hend (s.takeWhile isDigit).length (b :: r) h]

/-- **A number that is read is passed over** up to the same place, whatever number it is. -/
theorem skipNumber_of_number (negative : Bool) (s : Bytes) (x : Number) (rest : Bytes)
    (h : number negative s = .ok (x, rest)) : skipNumber s = .ok rest := by
  cases s with
  | nil => cases h
  | cons b s =>
      unfold number at h
      unfold skipNumber
      dsimp only at h ⊢
      split at h
      · next hzero =>
        rw [if_pos hzero]
        cases s with
        | nil =>
            have hrest := skipAfterWhole_of_afterWhole _ _ _ _ _ h
            exact hrest
        | cons c t =>
            dsimp only at h ⊢
            split at h
            · cases h
            · next hc =>
              have hrest := skipAfterWhole_of_afterWhole _ _ _ _ _ h
              rw [if_neg hc]
              rw [List.dropWhile_cons_of_neg hc] at hrest
              exact hrest
      · next hzero =>
        rw [if_neg hzero]
        split at h
        · next hb =>
          have hrest := skipAfterWhole_of_afterWhole _ _ _ _ _ h
          rw [dropWhile_absorb] at hrest
          rw [if_pos hb]
          exact hrest
        · cases h

theorem length_skipExponent_le (s rest : Bytes) (h : skipExponent s = .ok rest) :
    rest.length ≤ s.length := by
  unfold skipExponent at h
  cases s with
  | nil => cases h
  | cons b r =>
      dsimp only at h
      by_cases hsign : (b == 0x2B || b == 0x2D) = true
      · rw [if_pos hsign] at h
        cases r with
        | nil => cases h
        | cons c t =>
            dsimp only at h
            split at h
            · cases h
              have := List.length_dropWhile_le isDigit t
              rw [List.length_cons, List.length_cons]
              omega
            · cases h
      · rw [if_neg hsign] at h
        dsimp only at h
        split at h
        · cases h
          have := List.length_dropWhile_le isDigit r
          rw [List.length_cons]
          omega
        · cases h

theorem length_skipAfterWhole_le (s rest : Bytes) (h : skipAfterWhole s = .ok rest) :
    rest.length ≤ s.length := by
  unfold skipAfterWhole at h
  split at h
  · cases h
    exact Nat.le_refl _
  · next b r =>
    rw [List.length_cons]
    split at h
    · unfold skipFraction at h
      split at h
      · cases h
      · next c t =>
        have hle := List.length_dropWhile_le isDigit t
        rw [List.length_cons]
        split at h
        · split at h
          · cases h
            exact Nat.zero_le _
          · next d u hd =>
            rw [hd, List.length_cons] at hle
            split at h
            · have := length_skipExponent_le _ _ h
              omega
            · cases h
              rw [List.length_cons]
              omega
        · cases h
    · split at h
      · have := length_skipExponent_le _ _ h
        omega
      · cases h
        exact Nat.le_refl _

theorem length_skipNumber_lt (s rest : Bytes) (h : skipNumber s = .ok rest) :
    rest.length < s.length := by
  unfold skipNumber at h
  split at h
  · cases h
  · next b s =>
    rw [List.length_cons]
    split at h
    · split at h
      · split at h
        · cases h
        · exact Nat.lt_succ_of_le (length_skipAfterWhole_le _ _ h)
      · cases h
        exact Nat.succ_pos _
    · split at h
      · have := length_skipAfterWhole_le _ _ h
        have := List.length_dropWhile_le isDigit s
        omega
      · cases h

/-! ## §3. One value on the stack. -/

/-- What is done after a value inside some brackets: those that end are closed, and the
values that follow in the others are passed over. -/
def afterValue (fuel : Nat) (brackets : List Bracket) (s : Bytes) : Except Fault Bytes := do
  let (brackets, s) ← closeBrackets brackets s
  match brackets with
  | [] => .ok s
  | k :: _ => do skipValues fuel brackets (← skipKey k s)

theorem skipValues_skipSpace (fuel : Nat) (brackets : List Bracket) (s : Bytes) :
    skipValues (fuel + 1) brackets (skipSpace s) = skipValues (fuel + 1) brackets s := by
  rw [skipValues, skipValues, skipSpace_skipSpace]

/-- Whether a value begins a text and ends where `rest` begins: passing over it takes some
rounds, one for each octet at most, and leaves what is to be done after it. -/
def Passes (s rest : Bytes) : Prop :=
  ∃ rounds, 0 < rounds ∧ rounds + rest.length ≤ s.length ∧ ∀ fuel brackets,
    skipValues (fuel + rounds) brackets s = afterValue fuel brackets rest

theorem length_word_le (ws s rest : Bytes) (h : word ws s = .ok rest) :
    rest.length ≤ s.length := by
  fun_induction word ws s with
  | case1 s =>
      cases h
      exact Nat.le_refl _
  | case3 w ws s ih =>
      have := ih h
      rw [List.length_cons]
      omega
  | _ => cases h

/-- **A scalar is passed over** in one round. -/
theorem passes_scalar (s : Bytes) (v : Value) (rest : Bytes) (h : value 0 s = .ok (v, rest)) :
    Passes s rest := by
  obtain ⟨b, r, hr, hread⟩ := (scalar_iff s v rest).mp h
  have hspace := length_skipSpace_le s
  rw [hr, List.length_cons] at hspace
  -- the round passes over what the scalar is read from, and goes on after it
  have hround : ∀ skip : Except Fault Bytes, skip = .ok rest → rest.length ≤ r.length →
      (∀ fuel brackets, skipValues (fuel + 1) brackets s = skip.bind (afterValue fuel brackets)) →
      Passes s rest := by
    intro skip hskip hle hstep
    refine ⟨1, Nat.one_pos, by omega, fun fuel brackets => ?_⟩
    rw [hstep, hskip]
    rfl
  cases hread with
  | null _ hw =>
      refine hround _ hw (length_word_le _ _ _ hw) fun fuel brackets => ?_
      rw [skipValues, hr]
      rfl
  | true _ hw =>
      refine hround _ hw (length_word_le _ _ _ hw) fun fuel brackets => ?_
      rw [skipValues, hr]
      rfl
  | false _ hw =>
      refine hround _ hw (length_word_le _ _ _ hw) fun fuel brackets => ?_
      rw [skipValues, hr]
      rfl
  | negative _ n hn =>
      have hskip := skipNumber_of_number _ _ _ _ hn
      refine hround _ hskip (length_skipNumber_lt _ _ hskip).le fun fuel brackets => ?_
      rw [skipValues, hr]
      rfl
  | digit _ _ n hb hn =>
      have hskip := skipNumber_of_number _ _ _ _ hn
      refine hround _ hskip (Nat.le_of_lt_succ (length_skipNumber_lt _ _ hskip))
        fun fuel brackets => ?_
      rw [skipValues, hr]
      simp only [ne_of_isDigit b 0x6E hb rfl, ne_of_isDigit b 0x74 hb rfl,
        ne_of_isDigit b 0x66 hb rfl, ne_of_isDigit b 0x2D hb rfl, Bool.false_eq_true, if_false, hb,
        if_true]
      rfl
  | string _ t ht =>
      have hskip := skipString_of_string _ _ _ ht
      refine hround _ hskip (length_skipString_lt _ _ hskip).le fun fuel brackets => ?_
      rw [skipValues, hr]
      rfl

/-- The octet that opens it. -/
def Bracket.opening : Bracket → UInt8
  | .array => 0x5B
  | .object => 0x7B

/-- Behind an opening octet the bracket is closed at once, or what it holds is passed over. -/
theorem skipValues_opening (k : Bracket) (ws r : Bytes) (hws : Blank ws) (c : UInt8) (t : Bytes)
    (hr : skipSpace r = c :: t) (fuel : Nat) (brackets : List Bracket) :
    skipValues (fuel + 1) brackets (ws ++ k.opening :: r) =
      if c == k.closing then afterValue fuel brackets t
      else (do skipValues fuel (k :: brackets) (← skipKey k (c :: t))) := by
  have hspace : isSpace k.opening = false := by cases k <;> rfl
  rw [skipValues, skipSpace_cons ws k.opening r hws hspace]
  cases k with
  | array =>
      dsimp only [Bracket.opening]
      simp only [hr]
      rfl
  | object =>
      dsimp only [Bracket.opening]
      simp only [hr]
      rfl

theorem afterValue_closing (k : Bracket) (s t : Bytes) (hs : skipSpace s = k.closing :: t)
    (fuel : Nat) (brackets : List Bracket) :
    afterValue fuel (k :: brackets) s = afterValue fuel brackets t := by
  have hcomma : (k.closing == 0x2C) = false := by cases k <;> rfl
  unfold afterValue
  rw [closeBrackets, hs]
  dsimp only
  rw [hcomma, if_neg Bool.false_ne_true, if_pos (beq_self_eq_true _)]

theorem afterValue_comma (k : Bracket) (s t : Bytes) (hs : skipSpace s = 0x2C :: t)
    (fuel : Nat) (brackets : List Bracket) :
    afterValue fuel (k :: brackets) s
      = (do skipValues fuel (k :: brackets) (← skipKey k t)) := by
  unfold afterValue
  rw [closeBrackets, hs]
  rfl

theorem Passes.of_skipSpace {s rest : Bytes} (h : Passes (skipSpace s) rest) : Passes s rest := by
  obtain ⟨rounds, hpos, hle, hskip⟩ := h
  have hspace := length_skipSpace_le s
  obtain ⟨rounds, rfl⟩ : ∃ n, rounds = n + 1 := ⟨rounds - 1, by omega⟩
  refine ⟨rounds + 1, hpos, by omega, fun fuel brackets => ?_⟩
  rw [← hskip fuel brackets]
  exact (skipValues_skipSpace _ brackets s).symm

/-- Whether a bracket that is open ends where `rest` begins. -/
def Ends (k : Bracket) (s rest : Bytes) : Prop :=
  ∃ rounds, rounds + rest.length ≤ s.length ∧ ∀ fuel brackets,
    afterValue (fuel + rounds) (k :: brackets) s = afterValue fuel brackets rest

theorem ends_closing (k : Bracket) (s rest : Bytes) (hs : skipSpace s = k.closing :: rest) :
    Ends k s rest := by
  have hspace := length_skipSpace_le s
  rw [hs, List.length_cons] at hspace
  exact ⟨0, by omega, fun fuel brackets => afterValue_closing k s rest hs fuel brackets⟩

/-- A bracket ends where it ends after its next value. -/
theorem ends_comma (k : Bracket) (s r u w rest : Bytes) (hs : skipSpace s = 0x2C :: r)
    (hkey : skipKey k r = .ok u) (hle : u.length ≤ r.length) (hvalue : Passes u w)
    (hend : Ends k w rest) : Ends k s rest := by
  have hspace := length_skipSpace_le s
  rw [hs, List.length_cons] at hspace
  obtain ⟨rounds, -, hrounds, hskip⟩ := hvalue
  obtain ⟨more, hmore, hafter⟩ := hend
  refine ⟨more + rounds, by omega, fun fuel brackets => ?_⟩
  rw [afterValue_comma k s r hs, hkey]
  show skipValues (fuel + (more + rounds)) (k :: brackets) u = _
  rw [← Nat.add_assoc, hskip, hafter]

theorem passes_empty (k : Bracket) (ws r rest : Bytes) (hws : Blank ws)
    (hr : skipSpace r = k.closing :: rest) : Passes (ws ++ k.opening :: r) rest := by
  have hspace := length_skipSpace_le r
  rw [hr, List.length_cons] at hspace
  refine ⟨1, Nat.one_pos, ?_, fun fuel brackets => ?_⟩
  · rw [List.length_append, List.length_cons]
    omega
  · rw [skipValues_opening k ws r hws _ _ hr, if_pos (beq_self_eq_true _)]

/-- An array or object that holds something ends where it ends after its first value. -/
theorem passes_opening (k : Bracket) (ws r : Bytes) (hws : Blank ws) (c : UInt8)
    (t u w rest : Bytes) (hr : skipSpace r = c :: t) (hc : c ≠ k.closing)
    (hkey : skipKey k (c :: t) = .ok u)
    (hle : u.length ≤ r.length) (hvalue : Passes u w) (hend : Ends k w rest) :
    Passes (ws ++ k.opening :: r) rest := by
  obtain ⟨rounds, -, hrounds, hskip⟩ := hvalue
  obtain ⟨more, hmore, hafter⟩ := hend
  refine ⟨more + rounds + 1, Nat.succ_pos _, ?_, fun fuel brackets => ?_⟩
  · rw [List.length_append, List.length_cons]
    omega
  · rw [← Nat.add_assoc, skipValues_opening k ws r hws c t hr, beq_eq_false_iff_ne.mpr hc,
      if_neg Bool.false_ne_true, hkey]
    show skipValues (fuel + (more + rounds)) (k :: brackets) u = _
    rw [← Nat.add_assoc, hskip, hafter]

/-! ## §4. Arrays and objects. -/

theorem length_colon_lt (s t : Bytes) (h : colon s = .ok t) : t.length < s.length := by
  have hspace := length_skipSpace_le s
  unfold colon at h
  split at h
  · cases h
  · next b r hr =>
    rw [hr, List.length_cons] at hspace
    split at h
    · cases h
      omega
    · cases h

/-- A key that is read, with its colon, is passed over. -/
theorem skipKey_of_string (s t : Bytes) (key : String) (u w : Bytes)
    (hs : skipSpace s = 0x22 :: t) (hkey : string t = .ok (key, u)) (hcolon : colon u = .ok w) :
    skipKey .object s = .ok w ∧ w.length ≤ s.length := by
  have hspace := length_skipSpace_le s
  rw [hs, List.length_cons] at hspace
  have hskip := skipString_of_string t key u hkey
  have hstring := length_skipString_lt t u hskip
  have hcolonLength := length_colon_lt u w hcolon
  refine ⟨?_, by omega⟩
  unfold skipKey
  dsimp only
  rw [hs]
  show (skipString t).bind colon = _
  rw [hskip]
  exact hcolon

theorem ends_items (read : Bytes → Except Fault (Value × Bytes))
    (hread : ∀ s v rest, read s = .ok (v, rest) → Passes s rest) (fuel : Nat) (vs : List Value)
    (s : Bytes) (vs' : List Value) (rest : Bytes)
    (h : sequence (pushItem read) fuel true vs s = .ok (vs', rest)) : Ends .array s rest := by
  induction fuel generalizing vs s with
  | zero => cases h
  | succ fuel ih =>
      rw [sequence_succ, bind_eq_ok] at h
      obtain ⟨⟨ahead, t⟩, ht, h⟩ := h
      obtain ⟨rfl, r, rfl, hs⟩ | ⟨rfl, -, ⟨hmore, -⟩ | ⟨-, r, hs, rfl⟩⟩ :=
        itemAhead_cases true s ahead t ht
      · cases h
        exact ends_closing .array s _ hs
      · cases hmore
      · obtain ⟨⟨vs₁, w⟩, hitem, h⟩ := (bind_eq_ok _ _ _).mp h
        obtain ⟨v, hv, -⟩ := (pushItem_eq_ok _ _ _ _ _).mp hitem
        exact ends_comma .array s r r w rest hs rfl (Nat.le_refl _) (hread _ v w hv).of_skipSpace
          (ih vs₁ w h)

theorem ends_members (read : Bytes → Except Fault (Value × Bytes))
    (hread : ∀ s v rest, read s = .ok (v, rest) → Passes s rest) (fuel : Nat)
    (ms : List (String × Value)) (s : Bytes) (ms' : List (String × Value)) (rest : Bytes)
    (h : members (putMember read) fuel true ms s = .ok (ms', rest)) : Ends .object s rest := by
  induction fuel generalizing ms s with
  | zero => cases h
  | succ fuel ih =>
      rw [members_succ, bind_eq_ok] at h
      obtain ⟨⟨ahead, t⟩, ht, h⟩ := h
      obtain ⟨rfl, hs⟩ | ⟨rfl, ⟨hmore, -⟩ | ⟨-, r, hs, hr⟩⟩ := keyAhead_cases true s ahead t ht
      · cases h
        exact ends_closing .object s _ hs
      · cases hmore
      · obtain ⟨⟨key, u⟩, hkey, h⟩ := (bind_eq_ok _ _ _).mp h
        obtain ⟨⟨ms₁, w⟩, hentry, h⟩ := (bind_eq_ok _ _ _).mp h
        obtain ⟨x, v, hcolon, hv, -⟩ := (putMember_eq_ok _ _ _ _ _ _).mp hentry
        obtain ⟨hskip, hle⟩ := skipKey_of_string r t key u x hr hkey hcolon
        exact ends_comma .object s r x w rest hs hskip hle (hread x v w hv) (ih ms₁ w h)

/-- **Whatever is read as a value is passed over**, up to the same place. -/
theorem passes_value (levels : Nat) (s : Bytes) (v : Value) (rest : Bytes)
    (h : value levels s = .ok (v, rest)) : Passes s rest := by
  induction levels generalizing s v rest with
  | zero => exact passes_scalar s v rest h
  | succ levels ih =>
      obtain ⟨-, h⟩ | ⟨n, ws, r, vs, hn, hws, rfl, rfl, h⟩ | ⟨n, ws, r, ms, hn, hws, rfl, rfl, h⟩ :=
        value_cases (levels + 1) s v rest h
      · exact passes_scalar s v rest (h 0)
      · cases hn
        have hspace := length_skipSpace_le r
        rw [sequence_succ, bind_eq_ok] at h
        obtain ⟨⟨ahead, t⟩, ht, h⟩ := h
        obtain ⟨rfl, u, rfl, hr⟩ | ⟨rfl, ⟨c, u, rfl, hc⟩, ⟨-, hr⟩ | ⟨hmore, -⟩⟩ :=
          itemAhead_cases false r ahead t ht
        · cases h
          exact passes_empty .array ws r u hws hr
        · obtain ⟨⟨vs₁, w⟩, hitem, h⟩ := (bind_eq_ok _ _ _).mp h
          obtain ⟨v, hv, -⟩ := (pushItem_eq_ok _ _ _ _ _).mp hitem
          exact passes_opening .array ws r hws c u (c :: u) w rest hr.symm hc rfl
            (by rw [hr]; exact hspace) (ih _ v w hv) (ends_items _ ih _ _ _ _ _ h)
        · cases hmore
      · cases hn
        have hspace := length_skipSpace_le r
        rw [members_succ, bind_eq_ok] at h
        obtain ⟨⟨ahead, t⟩, ht, h⟩ := h
        obtain ⟨rfl, hr⟩ | ⟨rfl, ⟨-, hr⟩ | ⟨hmore, -⟩⟩ := keyAhead_cases false r ahead t ht
        · cases h
          exact passes_empty .object ws r _ hws hr
        · obtain ⟨⟨key, u⟩, hkey, h⟩ := (bind_eq_ok _ _ _).mp h
          obtain ⟨⟨ms₁, w⟩, hentry, h⟩ := (bind_eq_ok _ _ _).mp h
          obtain ⟨x, v, hcolon, hv, -⟩ := (putMember_eq_ok _ _ _ _ _ _).mp hentry
          have hquote : skipSpace (0x22 :: t) = 0x22 :: t := by
            rw [← hr]
            exact skipSpace_skipSpace r
          obtain ⟨hskip, hle⟩ := skipKey_of_string (0x22 :: t) t key u x hquote hkey hcolon
          exact passes_opening .object ws r hws 0x22 t x w rest hr (by decide) hskip
            (by rw [hr] at hspace; exact hle.trans hspace) (ih x v w hv)
            (ends_members _ ih _ _ _ _ _ h)
        · cases hmore

theorem length_value_lt (levels : Nat) (s : Bytes) (v : Value) (rest : Bytes)
    (h : value levels s = .ok (v, rest)) : rest.length < s.length := by
  obtain ⟨rounds, hpos, hle, -⟩ := passes_value levels s v rest h
  omega

/-- **Skipping is never stricter than reading**, however deep the value nests. -/
theorem skipValue_of_value (levels : Nat) (s : Bytes) (v : Value) (rest : Bytes)
    (h : value levels s = .ok (v, rest)) : skipValue s = .ok rest := by
  obtain ⟨rounds, -, hle, hskip⟩ := passes_value levels s v rest h
  obtain ⟨fuel, hfuel⟩ : ∃ fuel, s.length + 1 = fuel + rounds :=
    ⟨s.length + 1 - rounds, by omega⟩
  unfold skipValue
  rw [hfuel, hskip]
  rfl

end FormUpload.Json
