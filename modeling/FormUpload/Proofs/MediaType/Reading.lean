import FormUpload.MediaType
import FormUpload.Proofs.Text.Ascii
import FormUpload.Proofs.Text.Cutting
import Mathlib.Data.List.DropRight

/-!
# Media types that are written out and read again

A media type that was read holds only characters that may stand in a header line
(`written_of_parse`), its first semicolon tells essence and parameters apart
(`ofText_of_parse`), and what is written out is read back as it is, blanks at its end apart
(`parse_unpadded`).
-/

namespace FormUpload.MediaType

open FormUpload.Text

/-! ## §1. Characters. -/

/-- How values may be written: in lower case, or as they are. -/
structure Plain (write : Char → Char) : Prop where
  token : ∀ c, isTokenChar c = true → isTokenChar (write c) = true
  quotable : ∀ c, isQuotable c = true → isQuotable (write c) = true
  noQuote : ∀ c, c ≠ '"' → write c ≠ '"'
  again : ∀ c, write (write c) = write c
  origin : ∀ c, write c = c ∨ write c = lowerChar c

theorem plain_id : Plain id := by
  refine ⟨fun _ h => h, fun _ h => h, fun _ h => h, fun _ => rfl, fun _ => Or.inl rfl⟩

theorem plain_lowerChar : Plain lowerChar where
  token := lowerChar_cases (fun c d => isTokenChar c = true → isTokenChar d = true) (by decide)
    fun _ h => h
  quotable := lowerChar_cases (fun c d => isQuotable c = true → isQuotable d = true) (by decide)
    fun _ h => h
  noQuote := lowerChar_cases (fun c d => c ≠ '"' → d ≠ '"') (by decide) fun _ h => h
  again := by
    intro c
    by_cases h : ('A' ≤ c && c ≤ 'Z') = true
    -- the claim is about three characters, so `lowerChar_cases` does not apply
    · have hall : (capitals.all fun c => lowerChar (lowerChar c) = lowerChar c) = true := by decide
      exact of_decide_eq_true (List.all_eq_true.mp hall c (mem_capitals c h))
    · have hc : lowerChar c = c := by
        unfold lowerChar
        rw [if_neg h]
      rw [hc, hc]
  origin := fun _ => Or.inr rfl

theorem plain_of_name (name : List Char) :
    Plain (if name = charsetName then lowerChar else id) := by
  split
  · exact plain_lowerChar
  · exact plain_id

theorem Plain.map_token {write : Char → Char} (hw : Plain write) (t : List Char)
    (ht : ∀ c ∈ t, isTokenChar c = true) : ∀ c ∈ t.map write, isTokenChar c = true := by
  intro d hd
  obtain ⟨c, hc, rfl⟩ := List.mem_map.mp hd
  exact hw.token c (ht c hc)

theorem Plain.map_again {write : Char → Char} (hw : Plain write) (t : List Char) :
    (t.map write).map write = t.map write := by
  rw [List.map_map]
  exact List.map_congr_left fun c _ => hw.again c

/-- The marks, letters and digits of tokens are printable. -/
theorem quotable_of_token (c : Char) (h : isTokenChar c = true) : isQuotable c = true := by
  unfold isTokenChar at h
  rw [Bool.or_eq_true, Bool.or_eq_true, isLetter_iff, isDigitChar_iff, List.contains_iff_mem] at h
  unfold isQuotable
  simp only [Bool.and_eq_true, decide_eq_true_eq, bne_iff_ne]
  rcases h with (h | h) | h
  · omega
  · omega
  · have hall : (tokenMarks.all fun c => 31 < c.toNat ∧ ¬ c.toNat = 127) = true := by decide
    exact of_decide_eq_true (List.all_eq_true.mp hall c h)

theorem not_blank_of_token (c : Char) (h : isTokenChar c = true) : (c == ' ') = false := by
  rw [beq_eq_false_iff_ne]
  rintro rfl
  exact absurd h (by decide)

/-! ## §2. Tokens. -/

theorem token_run (t s : List Char) (ht : ∀ c ∈ t, isTokenChar c = true)
    (hs : Stops isTokenChar s) : token (t ++ s) = (t, s) := by
  unfold token
  rw [takeWhile_run _ t s ht hs, dropWhile_run _ t s ht hs]

/-- A token and what follows it make up the text. -/
theorem token_eq (cs t s : List Char) (h : token cs = (t, s)) :
    cs = t ++ s ∧ (∀ c ∈ t, isTokenChar c = true) ∧ Stops isTokenChar s := by
  unfold token at h
  obtain ⟨rfl, rfl⟩ := Prod.mk.inj h
  refine ⟨List.takeWhile_append_dropWhile.symm, ?_, stops_dropWhile _ _⟩
  intro c hc
  exact List.mem_takeWhile_imp hc

/-- What may follow a parameter is no part of a token, and no blank. -/
theorem stops_of_next? (p : Char → Bool) (hp : p ';' = false) (s : List Char) (n : Next)
    (h : next? s = some n) : Stops p s := by
  cases s with
  | nil => exact stops_nil p
  | cons c s =>
      rw [stops_cons]
      unfold next? at h
      split at h
      · next hs => cases hs
      · next hs =>
        rw [(List.cons.inj hs).1]
        exact hp
      · cases h

/-! ## §3. Values. -/

/-- A value after its opening quote: what may stand in quotes, and a quote that closes
them. -/
def InQuotes (v : List Char) : Prop :=
  ∃ c r, v = c :: r ∧ isQuotable c = true ∧ ∀ d ∈ r, isQuotable d = true ∧ d ≠ '"'

theorem quotedValue?_append (v s : List Char) (h : InQuotes v) :
    quotedValue? (v ++ '"' :: s) = some (v, s) := by
  obtain ⟨c, r, rfl, hc, hr⟩ := h
  have hrun : ∀ d ∈ r, (isQuotable d && d != '"') = true := by
    intro d hd
    rw [(hr d hd).1, Bool.true_and, bne_iff_ne]
    exact (hr d hd).2
  have hstop : Stops (fun d => isQuotable d && d != '"') ('"' :: s) := by
    rw [stops_cons]
    decide
  rw [List.cons_append]
  unfold quotedValue?
  simp only [dropWhile_run _ r _ hrun hstop, takeWhile_run _ r _ hrun hstop, hc, if_true]

theorem quotedValue?_eq_some (cs v s : List Char) (h : quotedValue? cs = some (v, s)) :
    cs = v ++ '"' :: s ∧ InQuotes v := by
  unfold quotedValue? at h
  split at h
  · cases h
  · next c r =>
    simp only at h
    split at h
    · next rest hrest =>
      split at h
      · next hc =>
        cases h
        refine ⟨?_, c, _, rfl, hc, ?_⟩
        · rw [List.cons_append, ← hrest, List.takeWhile_append_dropWhile]
        · intro d hd
          have hd := List.mem_takeWhile_imp hd
          simpa using hd
      · cases h
    · cases h

/-- The shapes of a written value and what it is read from: a bare token, or text in
quotes with blanks after it. -/
inductive ValueOf (write : Char → Char) (n : Next) : List Char → List Char → Prop
  | bare (v s : List Char) (hv : ∀ c ∈ v, isTokenChar c = true) (hs : next? s = some n)
      (hne : v = [] → s = []) : ValueOf write n (v ++ s) (v.map write)
  | quoted (v blanks s : List Char) (hv : InQuotes v) (hb : ∀ c ∈ blanks, (c == ' ') = true)
      (hs : next? s = some n) :
      ValueOf write n ('"' :: (v ++ '"' :: (blanks ++ s))) ('"' :: v.map write ++ '"' :: blanks)

theorem parameterValue?_bare (write : Char → Char) (n : Next) (v s : List Char)
    (hv : ∀ c ∈ v, isTokenChar c = true) (hs : next? s = some n) (hne : v = [] → s = []) :
    parameterValue? write (v ++ s) = some (v.map write, n) := by
  have hstop := stops_of_next? isTokenChar (by decide) s n hs
  have hcond : (v.isEmpty && !s.isEmpty) = false := by
    cases v with
    | nil => simp [hne rfl]
    | cons c v => rfl
  unfold parameterValue?
  split
  · next r hr =>
    -- a token does not begin with a quote
    cases v with
    | nil =>
        rw [hne rfl] at hr
        cases hr
    | cons c v =>
        -- a quote is not a token character
        have hq := hv c List.mem_cons_self
        rw [(List.cons.inj hr).1] at hq
        exact absurd hq (by decide)
  · simp [token_run v s hv hstop, hs, hcond]

theorem parameterValue?_quoted (write : Char → Char) (n : Next) (v blanks s : List Char)
    (hv : InQuotes v) (hb : ∀ c ∈ blanks, (c == ' ') = true) (hs : next? s = some n) :
    parameterValue? write ('"' :: (v ++ '"' :: (blanks ++ s)))
      = some ('"' :: v.map write ++ '"' :: blanks, n) := by
  have hstop := stops_of_next? (· == ' ') (by decide) s n hs
  unfold parameterValue?
  simp only [quotedValue?_append v _ hv, Option.bind_eq_bind, Option.bind_some,
    dropWhile_run _ blanks s hb hstop, takeWhile_run _ blanks s hb hstop, hs]
  rfl

theorem valueOf_of_parameterValue? (write : Char → Char) (cs w : List Char) (n : Next)
    (h : parameterValue? write cs = some (w, n)) : ValueOf write n cs w := by
  unfold parameterValue? at h
  split at h
  · next r =>
    cases hq : quotedValue? r with
    | none => simp [hq] at h
    | some vs =>
        obtain ⟨v, s⟩ := vs
        obtain ⟨rfl, hv⟩ := quotedValue?_eq_some r v s hq
        cases hn : next? (s.dropWhile (· == ' ')) with
        | none => simp [hq, hn] at h
        | some n' =>
            simp only [hq, hn, Option.bind_eq_bind, Option.bind_some, Option.pure_def,
              Option.some.injEq, Prod.mk.injEq] at h
            obtain ⟨rfl, rfl⟩ := h
            -- the blanks after the quote are kept, what follows them tells how the list goes on
            have hs : s = s.takeWhile (· == ' ') ++ s.dropWhile (· == ' ') :=
              List.takeWhile_append_dropWhile.symm
            have hb : ∀ c ∈ s.takeWhile (· == ' '), (c == ' ') = true := by
              intro c hc
              have h := List.mem_takeWhile_imp hc
              exact h
            have hq : ValueOf write n' ('"' :: (v ++ '"' :: (s.takeWhile (· == ' ')
                ++ s.dropWhile (· == ' ')))) _ := .quoted v _ _ hv hb hn
            rw [← hs] at hq
            exact hq
  · cases ht : token cs with
    | mk v s =>
        obtain ⟨rfl, hv, _⟩ := token_eq cs v s ht
        cases hn : next? s with
        | none => simp [ht, hn] at h
        | some n' =>
            simp only [ht, hn, Option.bind_eq_bind, Option.bind_some] at h
            split at h
            · cases h
            · next hne =>
              cases h
              -- an empty value stands only at the end of the text
              refine .bare v s hv hn ?_
              rintro rfl
              simpa using hne

/-! ## §4. Parameters. -/

/-- A parameter has a name, an equals sign and a value. -/
theorem parameter?_eq_some (cs w : List Char) (n : Next) (h : parameter? cs = some (w, n)) :
    ∃ c name r value, (∀ d ∈ c :: name, isTokenChar d = true)
      ∧ ValueOf (if (c :: name).map lowerChar = charsetName then lowerChar else id) n r value
      ∧ cs = c :: name ++ '=' :: r ∧ w = (c :: name).map lowerChar ++ '=' :: value := by
  unfold parameter? at h
  split at h
  · next c name r ht =>
    obtain ⟨hcs, hname, _⟩ := token_eq cs (c :: name) ('=' :: r) ht
    cases hv : parameterValue?
        (if (c :: name).map lowerChar = charsetName then lowerChar else id) r with
    | none =>
        simp only [hv] at h
        cases h
    | some vn =>
        obtain ⟨value, n'⟩ := vn
        simp only [hv, Option.bind_eq_bind, Option.bind_some, Option.pure_def, Option.some.injEq,
          Prod.mk.injEq] at h
        obtain ⟨rfl, rfl⟩ := h
        exact ⟨c, name, r, value, hname, valueOf_of_parameterValue? _ r value n' hv, hcs, rfl⟩
  · cases h

theorem parameter?_append (c : Char) (name r value : List Char) (n : Next)
    (hname : ∀ d ∈ c :: name, isTokenChar d = true)
    (hv : parameterValue?
      (if (c :: name).map lowerChar = charsetName then lowerChar else id) r = some (value, n)) :
    parameter? (c :: name ++ '=' :: r) = some ((c :: name).map lowerChar ++ '=' :: value, n) := by
  have hstop : Stops isTokenChar ('=' :: r) := by
    rw [stops_cons]
    decide
  unfold parameter?
  rw [token_run (c :: name) ('=' :: r) hname hstop]
  show (parameterValue? (if (c :: name).map lowerChar = charsetName then lowerChar else id) r).bind
    (fun v => some ((c :: name).map lowerChar ++ '=' :: v.1, v.2)) = _
  rw [hv]
  rfl

/-! ## §5. What is written. -/

/-- Every character that is written may stand in a header line and was read before, but
for its case. -/
def Written (cs w : List Char) : Prop :=
  ∀ d ∈ w, isQuotable d = true ∧ ∃ c ∈ cs, d = c ∨ d = lowerChar c

theorem Written.mono {cs cs' w : List Char} (h : Written cs w) (hcs : cs ⊆ cs') :
    Written cs' w := by
  intro d hd
  obtain ⟨hq, c, hc, hdc⟩ := h d hd
  exact ⟨hq, c, hcs hc, hdc⟩

theorem Written.append {cs w w' : List Char} (h : Written cs w) (h' : Written cs w') :
    Written cs (w ++ w') := by
  intro d hd
  rcases List.mem_append.mp hd with hd | hd
  · exact h d hd
  · exact h' d hd

theorem Written.cons {cs w : List Char} {c : Char} (hq : isQuotable c = true) (hc : c ∈ cs)
    (h : Written cs w) : Written cs (c :: w) := by
  intro d hd
  rcases List.mem_cons.mp hd with rfl | hd
  · exact ⟨hq, d, hc, Or.inl rfl⟩
  · exact h d hd

theorem written_nil (cs : List Char) : Written cs [] := by
  intro d hd
  cases hd

theorem written_self (cs : List Char) (h : ∀ c ∈ cs, isQuotable c = true) : Written cs cs := by
  intro d hd
  exact ⟨h d hd, d, hd, Or.inl rfl⟩

theorem written_map (write : Char → Char) (hw : Plain write) (cs : List Char)
    (h : ∀ c ∈ cs, isQuotable c = true) : Written cs (cs.map write) := by
  intro d hd
  obtain ⟨c, hc, rfl⟩ := List.mem_map.mp hd
  exact ⟨hw.quotable c (h c hc), c, hc, hw.origin c⟩

theorem written_token (cs : List Char) (h : ∀ c ∈ cs, isTokenChar c = true) :
    Written cs (cs.map lowerChar) := by
  apply written_map lowerChar plain_lowerChar
  intro c hc
  exact quotable_of_token c (h c hc)

theorem written_blanks (cs : List Char) : Written cs (cs.takeWhile (· == ' ')) := by
  have hblank : ∀ c ∈ cs.takeWhile (· == ' '), isQuotable c = true := by
    intro c hc
    have h := List.mem_takeWhile_imp hc
    rw [beq_iff_eq] at h
    rw [h]
    decide
  exact (written_self _ hblank).mono (List.takeWhile_subset _)

theorem InQuotes.quotable {v : List Char} (h : InQuotes v) : ∀ c ∈ v, isQuotable c = true := by
  obtain ⟨c, r, rfl, hc, hr⟩ := h
  intro d hd
  rcases List.mem_cons.mp hd with rfl | hd
  · exact hc
  · exact (hr d hd).1

theorem written_value (write : Char → Char) (hw : Plain write) (n : Next) (cs w : List Char)
    (h : ValueOf write n cs w) : Written cs w := by
  cases h with
  | bare v s hv hs hne =>
      have h := written_map write hw v fun c hc => quotable_of_token c (hv c hc)
      exact h.mono (List.subset_append_left v s)
  | quoted v blanks s hv hb hs =>
      have hvw := written_map write hw v hv.quotable
      have hbw : Written blanks blanks := by
        apply written_self
        intro c hc
        rw [beq_iff_eq.mp (hb c hc)]
        decide
      apply Written.cons (by decide) List.mem_cons_self
      apply Written.append
      · apply hvw.mono
        intro c hc
        simp [hc]
      · apply Written.cons (by decide) List.mem_cons_self
        apply hbw.mono
        intro c hc
        simp [hc]

theorem written_parameter (cs w : List Char) (n : Next) (h : parameter? cs = some (w, n)) :
    Written cs w := by
  obtain ⟨c, name, r, value, hname, hv, rfl, rfl⟩ := parameter?_eq_some cs w n h
  apply Written.append
  · exact (written_token (c :: name) hname).mono (List.subset_append_left _ _)
  · apply Written.cons (by decide)
    · simp
    · apply (written_value _ (plain_of_name _) n r value hv).mono
      intro d hd
      simp [hd]

/-- What follows a parameter is what follows its semicolon. -/
theorem rest_of_parameter (cs w rest : List Char) (h : parameter? cs = some (w, .more rest)) :
    ';' :: rest ⊆ cs := by
  have hnext : ∀ s, next? s = some (.more rest) → s = ';' :: rest := by
    intro s hs
    unfold next? at hs
    split at hs <;> cases hs
    rfl
  obtain ⟨c, name, r, value, _, hv, rfl, _⟩ := parameter?_eq_some cs w _ h
  cases hv with
  | bare v s hv hs hne =>
      rw [hnext s hs]
      intro d hd
      simp only [List.mem_append, List.mem_cons] at hd ⊢
      tauto
  | quoted v blanks s hv hb hs =>
      rw [hnext s hs]
      intro d hd
      simp only [List.mem_append, List.mem_cons] at hd ⊢
      tauto

theorem written_parametersFrom (fuel : Nat) (cs w : List Char) (any : Bool)
    (h : parametersFrom? fuel cs = some (any, w)) : Written cs w := by
  induction fuel generalizing cs w any with
  | zero => cases h
  | succ fuel ih =>
      have hsub : cs.dropWhile (· == ' ') ⊆ cs := List.dropWhile_subset _
      unfold parametersFrom? at h
      simp only at h
      split at h
      · cases h
        exact written_blanks cs
      · next c r hcr =>
        rw [hcr] at hsub
        split at h
        · cases h
        · next written hp =>
          cases h
          exact (written_blanks cs).append ((written_parameter _ _ _ hp).mono hsub)
        · next written rest hp =>
          obtain ⟨⟨any', w'⟩, hrec, hw⟩ := Option.map_eq_some_iff.mp h
          cases hw
          have hrest := List.Subset.trans (rest_of_parameter _ _ _ hp) hsub
          apply ((written_blanks cs).append ((written_parameter _ _ _ hp).mono hsub)).append
          apply Written.cons (by decide) (hrest List.mem_cons_self)
          exact (ih rest w' any' hrec).mono fun d hd => hrest (List.mem_cons_of_mem _ hd)

/-! ## §6. Media types. -/

/-- The parts of a media type: type and subtype are tokens in lower case, and what is
written of the parameters is read from the rest. -/
theorem parseChars?_eq_some (cs : List Char) (m : MediaType) (h : parseChars? cs = some m) :
    ∃ c type subtype s, (∀ d ∈ c :: type, isTokenChar d = true)
      ∧ (∀ d ∈ subtype, isTokenChar d = true)
      ∧ cs = c :: type ++ '/' :: (subtype ++ s)
      ∧ m.essence = (c :: type ++ '/' :: subtype).map lowerChar
      ∧ (s = [] ∧ m.parameters = []
        ∨ ∃ rest, s = ';' :: rest ∧ subtype ≠ [] ∧ parameters? rest = some m.parameters) := by
  unfold parseChars? at h
  split at h
  · next c type r ht =>
    obtain ⟨hcs, htype, -⟩ := token_eq cs (c :: type) ('/' :: r) ht
    cases hr : token r with
    | mk subtype s =>
        obtain ⟨rfl, hsub, -⟩ := token_eq r subtype s hr
        simp only [hr] at h
        refine ⟨c, type, subtype, s, htype, hsub, hcs, ?_⟩
        split at h
        · cases h
          exact ⟨rfl, Or.inl ⟨rfl, rfl⟩⟩
        · next rest =>
          split at h
          · cases h
          · next hne =>
            obtain ⟨p, hp, rfl⟩ := Option.map_eq_some_iff.mp h
            refine ⟨rfl, Or.inr ⟨rest, rfl, ?_, hp⟩⟩
            rintro rfl
            exact hne rfl
        · cases h
  · cases h

/-- The parameters are nothing, or a semicolon and what is written of them. -/
theorem parameters?_eq_some (cs w : List Char) (h : parameters? cs = some w) :
    w = [] ∨ ∃ p, parametersFrom? (cs.length + 1) cs = some (true, p) ∧ w = ';' :: p := by
  obtain ⟨⟨any, p⟩, hp, hw⟩ := Option.map_eq_some_iff.mp h
  cases any with
  | false => exact Or.inl hw.symm
  | true => exact Or.inr ⟨p, hp, hw.symm⟩

/-- **A media type that was read may stand in a header line**, and each of its characters
was read before, but for its case. -/
theorem written_of_parse (cs : List Char) (m : MediaType) (h : parseChars? cs = some m) :
    Written cs (m.essence ++ m.parameters) := by
  obtain ⟨c, type, subtype, s, htype, hsub, rfl, he, hp⟩ := parseChars?_eq_some cs m h
  apply Written.append
  · rw [he, List.map_append, List.map_cons]
    apply ((written_token _ htype).mono (List.subset_append_left _ _)).append
    show Written _ ('/' :: subtype.map lowerChar)
    apply Written.cons (by decide) (by simp)
    apply (written_token _ hsub).mono
    intro d hd
    simp [hd]
  · rcases hp with ⟨_, hp⟩ | ⟨rest, rfl, _, hp⟩
    · rw [hp]
      exact written_nil _
    · rcases parameters?_eq_some rest _ hp with hw | ⟨p, hp, hw⟩
      · rw [hw]
        exact written_nil _
      · rw [hw]
        apply Written.cons (by decide) (by simp)
        apply (written_parametersFrom _ _ _ _ hp).mono
        intro d hd
        simp [hd]

/-- The media type whose text is given: the essence ends at the first semicolon. -/
def ofText (cs : List Char) : MediaType := ⟨cs.takeWhile (· != ';'), cs.dropWhile (· != ';')⟩

/-- **The text of a media type that was read tells what it is.** -/
theorem ofText_of_parse (cs : List Char) (m : MediaType) (h : parseChars? cs = some m) :
    ofText (m.essence ++ m.parameters) = m := by
  obtain ⟨c, type, subtype, s, htype, hsub, _, he, hp⟩ := parseChars?_eq_some cs m h
  have hessence : ∀ d ∈ m.essence, (d != ';') = true := by
    -- no semicolon is in a token, in lower case or not
    have hlower : ∀ d, isTokenChar d = true → lowerChar d ≠ ';' := by
      intro d hd hsemi
      have h := plain_lowerChar.token d hd
      rw [hsemi] at h
      exact absurd h (by decide)
    intro d hd
    rw [he, List.mem_map] at hd
    obtain ⟨e, hd, rfl⟩ := hd
    rw [bne_iff_ne]
    rcases List.mem_append.mp hd with hd | hd
    · exact hlower e (htype e hd)
    · rcases List.mem_cons.mp hd with rfl | hd
      · decide
      · exact hlower e (hsub e hd)
  have hstop : Stops (· != ';') m.parameters := by
    rcases hp with ⟨_, hp⟩ | ⟨rest, _, _, hp⟩
    · rw [hp]
      exact stops_nil _
    · rcases parameters?_eq_some rest _ hp with hw | ⟨p, _, hw⟩
      · rw [hw]
        exact stops_nil _
      · rw [hw, stops_cons]
        rfl
  unfold ofText
  rw [takeWhile_run _ _ _ hessence hstop, dropWhile_run _ _ _ hessence hstop]

/-! ## §7. Reading again. -/

/-- A text without the blanks at its end. -/
def unpadded (cs : List Char) : List Char := cs.rdropWhile (· == ' ')

theorem unpadded_token (t : List Char) (ht : ∀ c ∈ t, isTokenChar c = true) :
    unpadded t = t := by
  apply List.rdropWhile_eq_self_iff.mpr
  intro hl
  rw [not_blank_of_token _ (ht _ (List.getLast_mem hl))]
  simp

/-- What is written of a value is read as it is. -/
theorem valueOf_written (write : Char → Char) (hw : Plain write) (cs w : List Char) (n : Next)
    (h : ValueOf write n cs w) :
    parameterValue? write (unpadded w) = some (unpadded w, .finished)
      ∧ (∀ rest, n = .more rest → ∀ x, parameterValue? write (w ++ ';' :: x)
        = some (w, .more x)) := by
  have hagain := hw.map_again
  cases h with
  | bare v s hv hs hne =>
      have hvw := hw.map_token v hv
      constructor
      · have h := parameterValue?_bare write .finished (v.map write) [] hvw rfl fun _ => rfl
        rw [List.append_nil, hagain] at h
        rw [unpadded_token _ hvw]
        exact h
      · rintro rest rfl x
        -- more is to follow, so the value is not empty
        have hvne : v.map write ≠ [] := by
          rw [Ne, List.map_eq_nil_iff]
          intro hv
          rw [hne hv] at hs
          cases hs
        have h := parameterValue?_bare write (.more x) (v.map write) (';' :: x) hvw rfl
          fun h => absurd h hvne
        rw [hagain] at h
        exact h
  | quoted v blanks s hv hb hs =>
      have hvw : InQuotes (v.map write) := by
        obtain ⟨c, r, rfl, hc, hr⟩ := hv
        refine ⟨write c, r.map write, rfl, hw.quotable c hc, ?_⟩
        intro d hd
        obtain ⟨e, he, rfl⟩ := List.mem_map.mp hd
        exact ⟨hw.quotable e (hr e he).1, hw.noQuote e (hr e he).2⟩
      -- only the blanks after the closing quote are padding
      have hpad : unpadded ('"' :: v.map write ++ '"' :: blanks) = '"' :: v.map write ++ ['"'] := by
        unfold unpadded
        rw [rdropWhile_append_cons _ _ '"' blanks (by decide), List.rdropWhile_eq_nil_iff.mpr hb]
      constructor
      · rw [hpad]
        have h := parameterValue?_quoted write .finished (v.map write) [] [] hvw
          (fun c hc => by cases hc) rfl
        rw [hagain] at h
        exact h
      -- inside a list the blanks stay where they are
      · rintro rest - x
        have h := parameterValue?_quoted write (.more x) (v.map write) blanks (';' :: x) hvw hb rfl
        rw [hagain] at h
        simpa using h

/-- What is written of a parameter is read as it is. -/
theorem parameter?_written (cs w : List Char) (n : Next) (h : parameter? cs = some (w, n)) :
    (∃ c r, w = c :: r ∧ (c == ' ') = false)
      ∧ parameter? (unpadded w) = some (unpadded w, .finished)
      ∧ (∀ rest, n = .more rest → ∀ x, parameter? (w ++ ';' :: x) = some (w, .more x)) := by
  obtain ⟨c, name, r, value, hname, hv, _, rfl⟩ := parameter?_eq_some cs w n h
  have hlower := plain_lowerChar.map_token (c :: name) hname
  have hagain := plain_lowerChar.map_again (c :: name)
  -- the name in lower case is read as the same name, so the value is read alike
  have hread : ∀ r' value' n',
      parameterValue? (if (c :: name).map lowerChar = charsetName then lowerChar else id) r'
        = some (value', n') →
      parameter? ((c :: name).map lowerChar ++ '=' :: r')
        = some ((c :: name).map lowerChar ++ '=' :: value', n') := by
    intro r' value' n' hv'
    rw [← hagain] at hv'
    have h := parameter?_append (lowerChar c) (name.map lowerChar) r' value' n' hlower hv'
    rw [← List.map_cons, hagain] at h
    exact h
  have hpad : unpadded ((c :: name).map lowerChar ++ '=' :: value)
      = (c :: name).map lowerChar ++ '=' :: unpadded value := by
    unfold unpadded
    rw [rdropWhile_append_cons _ _ '=' value (by decide)]
  have hval := valueOf_written _ (plain_of_name _) r value n hv
  refine ⟨⟨lowerChar c, _, rfl, not_blank_of_token _ (hlower _ List.mem_cons_self)⟩, ?_, ?_⟩
  · rw [hpad]
    exact hread _ _ _ hval.1
  · intro rest hn x
    rw [List.append_assoc, List.cons_append]
    exact hread _ _ _ (hval.2 rest hn x)

/-- Blanks and a parameter that ends the text. -/
theorem parametersFrom?_finished (fuel : Nat) (blanks : List Char) (c : Char)
    (r written : List Char) (hb : ∀ d ∈ blanks, (d == ' ') = true) (hc : (c == ' ') = false)
    (h : parameter? (c :: r) = some (written, .finished)) :
    parametersFrom? (fuel + 1) (blanks ++ c :: r) = some (true, blanks ++ written) := by
  have hstop : Stops (· == ' ') (c :: r) := (stops_cons _ c r).mpr hc
  rw [parametersFrom?, takeWhile_run _ blanks (c :: r) hb hstop,
    dropWhile_run _ blanks (c :: r) hb hstop]
  show (match parameter? (c :: r) with | _ => _) = _
  rw [h]

/-- Blanks, a parameter and more parameters. -/
theorem parametersFrom?_more (fuel : Nat) (blanks : List Char) (c : Char)
    (r written rest : List Char) (hb : ∀ d ∈ blanks, (d == ' ') = true)
    (hc : (c == ' ') = false) (h : parameter? (c :: r) = some (written, .more rest)) :
    parametersFrom? (fuel + 1) (blanks ++ c :: r)
      = (parametersFrom? fuel rest).map fun p => (true, blanks ++ written ++ ';' :: p.2) := by
  have hstop : Stops (· == ' ') (c :: r) := (stops_cons _ c r).mpr hc
  rw [parametersFrom?, takeWhile_run _ blanks (c :: r) hb hstop,
    dropWhile_run _ blanks (c :: r) hb hstop]
  show (match parameter? (c :: r) with | _ => _) = _
  rw [h]

/-- What is written of parameters is read as it is. -/
theorem parametersFrom?_written (fuel : Nat) (cs w : List Char) (any : Bool)
    (h : parametersFrom? fuel cs = some (any, w)) (fuel' : Nat)
    (hfuel : (unpadded w).length < fuel') :
    parametersFrom? fuel' (unpadded w) = some (any, unpadded w) := by
  induction fuel generalizing cs w any fuel' with
  | zero => cases h
  | succ fuel ih =>
      -- what is written may be longer or shorter than what was read, so the fuel is another
      obtain ⟨fuel', rfl⟩ : ∃ n, fuel' = n + 1 := ⟨fuel' - 1, by omega⟩
      have hb : ∀ d ∈ cs.takeWhile (· == ' '), (d == ' ') = true := by
        intro d hd
        have h := List.mem_takeWhile_imp hd
        exact h
      rw [parametersFrom?] at h
      simp only at h
      generalize cs.takeWhile (· == ' ') = blanks at h hb
      generalize cs.dropWhile (· == ' ') = params at h
      split at h
      -- blanks only
      · cases h
        have hpad : unpadded _ = [] := List.rdropWhile_eq_nil_iff.mpr hb
        rw [hpad]
        rfl
      · next c r hcr =>
        split at h
        · cases h
        · next written hp =>
          cases h
          -- the last parameter: what is written of it is cut at its end
          obtain ⟨⟨d, s, rfl, hd⟩, hagain, -⟩ := parameter?_written _ _ _ hp
          have hcut : ∀ t, unpadded (t ++ d :: s) = t ++ d :: unpadded s := by
            intro t
            exact rdropWhile_append_cons _ t d s hd
          have hcut' : unpadded (d :: s) = d :: unpadded s := hcut []
          rw [hcut'] at hagain
          rw [hcut]
          exact parametersFrom?_finished fuel' blanks d _ _ hb hd hagain
        · next written rest hp =>
          obtain ⟨⟨any', w'⟩, hrec, hw⟩ := Option.map_eq_some_iff.mp h
          cases hw
          -- a parameter with more to follow: the cut is made behind its semicolon
          obtain ⟨⟨d, s, rfl, hd⟩, -, hagain⟩ := parameter?_written _ _ _ hp
          have hcut : unpadded (blanks ++ d :: s ++ ';' :: w')
              = blanks ++ d :: s ++ ';' :: unpadded w' :=
            rdropWhile_append_cons _ _ ';' w' (by decide)
          rw [hcut] at hfuel ⊢
          have hread : parameter? (d :: (s ++ ';' :: unpadded w'))
              = some (d :: s, .more (unpadded w')) := hagain rest rfl (unpadded w')
          have hmore := parametersFrom?_more fuel' blanks d _ _ _ hb hd hread
          rw [ih rest w' any' hrec fuel' (by simp at hfuel; omega)] at hmore
          rw [Option.map_some, List.append_assoc] at hmore
          rw [List.append_assoc]
          exact hmore

theorem parseChars?_essence (c : Char) (type subtype : List Char)
    (htype : ∀ d ∈ c :: type, isTokenChar d = true) (hsub : ∀ d ∈ subtype, isTokenChar d = true) :
    parseChars? (c :: type ++ '/' :: subtype)
      = some ⟨(c :: type ++ '/' :: subtype).map lowerChar, []⟩ := by
  have hslash : Stops isTokenChar ('/' :: subtype) := by
    rw [stops_cons]
    decide
  have hnil := token_run subtype [] hsub (stops_nil _)
  rw [List.append_nil] at hnil
  unfold parseChars?
  rw [token_run _ _ htype hslash]
  simp only [hnil]

theorem parseChars?_parameters (c : Char) (type subtype rest p : List Char)
    (htype : ∀ d ∈ c :: type, isTokenChar d = true) (hsub : ∀ d ∈ subtype, isTokenChar d = true)
    (hne : subtype ≠ []) (hp : parameters? rest = some p) :
    parseChars? (c :: type ++ '/' :: (subtype ++ ';' :: rest))
      = some ⟨(c :: type ++ '/' :: subtype).map lowerChar, p⟩ := by
  have hslash : Stops isTokenChar ('/' :: (subtype ++ ';' :: rest)) := by
    rw [stops_cons]
    decide
  have hsemi : Stops isTokenChar (';' :: rest) := by
    rw [stops_cons]
    decide
  unfold parseChars?
  rw [token_run _ _ htype hslash]
  simp only [token_run _ _ hsub hsemi, List.isEmpty_iff, hne, if_false, hp, Option.map_some]

/-- **A media type that was read and written is read as it is**, blanks at its end
apart. -/
theorem parse_unpadded (cs : List Char) (m : MediaType) (h : parseChars? cs = some m) :
    parseChars? (unpadded (m.essence ++ m.parameters))
        = some ⟨m.essence, unpadded m.parameters⟩
      ∧ unpadded (m.essence ++ m.parameters) = m.essence ++ unpadded m.parameters := by
  obtain ⟨c, type, subtype, s, htype, hsub, -, he, hp⟩ := parseChars?_eq_some cs m h
  have hlower := plain_lowerChar.map_token _ htype
  have hlower' := plain_lowerChar.map_token _ hsub
  have hessence : m.essence
      = lowerChar c :: type.map lowerChar ++ '/' :: subtype.map lowerChar := by
    rw [he, List.map_append, List.map_cons, List.map_cons]
    rfl
  have hagain : (lowerChar c :: type.map lowerChar ++ '/' :: subtype.map lowerChar).map lowerChar
      = m.essence := by
    rw [← hessence, he]
    exact plain_lowerChar.map_again _
  -- without parameters the subtype ends the text, and a token has no blanks
  have hbare : m.parameters = [] → parseChars? (unpadded (m.essence ++ m.parameters))
        = some ⟨m.essence, unpadded m.parameters⟩
      ∧ unpadded (m.essence ++ m.parameters) = m.essence ++ unpadded m.parameters := by
    intro hp
    have hpad : unpadded m.essence = m.essence := by
      have h := unpadded_token _ hlower'
      unfold unpadded at h ⊢
      rw [hessence, rdropWhile_append_cons _ _ '/' _ (by decide), h]
    rw [hp, List.append_nil, hpad]
    have h := parseChars?_essence _ _ _ hlower hlower'
    rw [hagain, ← hessence] at h
    exact ⟨h, (List.append_nil _).symm⟩
  rcases hp with ⟨-, hp⟩ | ⟨rest, -, hne, hp⟩
  · exact hbare hp
  · rcases parameters?_eq_some rest _ hp with hw | ⟨p, hfrom, hw⟩
    · exact hbare hw
    -- with parameters the cut is made behind the first semicolon
    · have hcut : unpadded (m.essence ++ m.parameters) = m.essence ++ ';' :: unpadded p := by
        rw [hw]
        exact rdropWhile_append_cons _ _ ';' p (by decide)
      have hcut' : unpadded m.parameters = ';' :: unpadded p := by
        rw [hw]
        exact rdropWhile_append_cons _ [] ';' p (by decide)
      have hp' : parameters? (unpadded p) = some (';' :: unpadded p) := by
        unfold parameters?
        rw [parametersFrom?_written _ _ _ _ hfrom _ (Nat.lt_succ_self _)]
        rfl
      have hne' : subtype.map lowerChar ≠ [] := by
        rw [Ne, List.map_eq_nil_iff]
        exact hne
      have h := parseChars?_parameters _ _ _ _ _ hlower hlower' hne' hp'
      rw [hagain] at h
      rw [hcut, hcut', hessence, List.append_assoc, List.cons_append, ← hessence]
      exact ⟨h, rfl⟩

end FormUpload.MediaType
