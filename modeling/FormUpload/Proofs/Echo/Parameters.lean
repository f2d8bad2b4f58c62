import FormUpload.Echo.Field
import FormUpload.Proofs.Text.Cutting
import FormUpload.Proofs.Text.Utf8

/-!
# Reading the parameters of a disposition line

A reader that looks for a key takes the first one that stands after a separator, or right
behind a key that it has passed.  `Mimics key s` says that there is such a place in `s`.
Without one, `s` is passed over whatever follows (`parameterFrom?_pass`), so the key is found
behind it, or not at all; with one, the value after the first place is read:

    ¬ Mimics key s          →  parameterFrom? key fuel (s ++ b :: (key ++ t)) = parameterValue? t
    ¬ Mimics key s          →  parameterFrom? key fuel s = none
    FirstParameter key s t  →  parameterFrom? key fuel s = parameterValue? t

A value in quotes ends at the first quote that follows no backslash (`upToQuote?_closed`).
Of its backslashes only those before a quote are taken away (`unescapeQuotes_escape`,
`unescapeQuotes_of_not_mem`).
-/

namespace FormUpload.Echo

open FormUpload.Text

/-! ## §1. Keys. -/

/-- The octets after which a parameter may begin. -/
def separators : Bytes := [0x20, 0x09, 0x0A, 0x0C, 0x0D, 0x3B]

theorem mem_separators (b : UInt8) :
    b ∈ separators ↔ (isAsciiBlank b || b = 0x3B) = true := by
  unfold separators isAsciiBlank
  simp only [List.mem_cons, List.not_mem_nil, or_false, Bool.or_eq_true, beq_iff_eq,
    decide_eq_true_eq, or_assoc]

/-- A key: its first octet is nowhere else in it, and no separator is in it. -/
structure IsKey (key : Bytes) : Prop where
  once : ∃ b r, key = b :: r ∧ b ∉ r
  noSeparator : ∀ b ∈ separators, b ∉ key

theorem IsKey.ne_nil {key : Bytes} (hk : IsKey key) : key ≠ [] := by
  obtain ⟨b, r, rfl, -⟩ := hk.once
  exact List.cons_ne_nil b r

theorem noSeparator_of_all (key : Bytes) (h : (separators.all fun b => b ∉ key) = true) :
    ∀ b ∈ separators, b ∉ key :=
  fun b hb => of_decide_eq_true (List.all_eq_true.mp h b hb)

theorem isKey_name : IsKey (bytesOf "name=") :=
  ⟨⟨0x6E, bytesOf "ame=", by decide, by decide⟩, noSeparator_of_all _ (by decide)⟩

theorem isKey_fileName : IsKey (bytesOf "filename=") :=
  ⟨⟨0x66, bytesOf "ilename=", by decide, by decide⟩, noSeparator_of_all _ (by decide)⟩

/-- Whether a key stands where it is taken for the beginning of a parameter: after a
separator, or right behind itself. -/
def Mimics (key s : Bytes) : Prop :=
  (∃ b ∈ separators, (b :: key) <:+: s) ∨ (key ++ key) <:+: s

instance (key s : Bytes) : Decidable (Mimics key s) :=
  decidable_of_iff
    (((separators.any fun b => occurs (b :: key) s) || occurs (key ++ key) s) = true) (by
      simp only [Bool.or_eq_true, List.any_eq_true, occurs_iff]
      rfl)

theorem Mimics.mono {key s t : Bytes} (h : Mimics key s) (hst : s <:+: t) : Mimics key t := by
  rcases h with ⟨b, hb, h⟩ | h
  · exact Or.inl ⟨b, hb, h.trans hst⟩
  · exact Or.inr (h.trans hst)

/-- No parameter lies across a separator, but it may begin with it. -/
theorem IsKey.mimics_separator {key : Bytes} (hk : IsKey key) (x : Bytes) (b : UInt8) (y : Bytes)
    (hb : b ∈ separators) (h : Mimics key (x ++ b :: y)) : Mimics key x ∨ Mimics key (b :: y) := by
  have hkey := hk.noSeparator b hb
  obtain ⟨c, r, rfl, -⟩ := hk.once
  rcases h with ⟨d, hd, h⟩ | h
  · rcases infix_append_cons d (c :: r) x b y hkey h with h | h
    · exact Or.inl (Or.inl ⟨d, hd, h⟩)
    · exact Or.inr (Or.inl ⟨d, hd, h⟩)
  · have htwice : b ∉ r ++ c :: r :=
      List.not_mem_append (List.not_mem_of_not_mem_cons hkey) hkey
    rcases infix_append_cons c (r ++ c :: r) x b y htwice h with h | h
    · exact Or.inl (Or.inr h)
    · exact Or.inr (Or.inr h)

/-- No parameter begins across an octet that is neither a separator nor in the key. -/
theorem IsKey.mimics_mark {key : Bytes} (hk : IsKey key) (x : Bytes) (b : UInt8) (y : Bytes)
    (hb : b ∉ separators) (hkey : b ∉ key) (h : Mimics key (x ++ b :: y)) :
    Mimics key x ∨ Mimics key y := by
  obtain ⟨c, r, rfl, -⟩ := hk.once
  rcases h with ⟨d, hd, h⟩ | h
  · have hmark : b ∉ d :: c :: r := by
      rw [List.mem_cons, not_or]
      exact ⟨fun hbd => hb (hbd ▸ hd), hkey⟩
    rcases infix_append_of_not_mem d (c :: r) x b y hmark h with h | h
    · exact Or.inl (Or.inl ⟨d, hd, h⟩)
    · exact Or.inr (Or.inl ⟨d, hd, h⟩)
  · have htwice : b ∉ (c :: r) ++ c :: r := List.not_mem_append hkey hkey
    rcases infix_append_of_not_mem c (r ++ c :: r) x b y htwice h with h | h
    · exact Or.inl (Or.inr h)
    · exact Or.inr (Or.inr h)

/-! ## §2. Looking for a key. -/

/-- **A text in which nothing is taken for a parameter is passed over**, up to an end
without the key, which is all of the text or stands behind a key. -/
theorem parameterFrom?_pass (key : Bytes) (hk : IsKey key) (fuel : Nat) (s t : Bytes)
    (hs : ¬ Mimics key s) (hstart : ¬ key <+: s) (hfuel : (s ++ t).length < fuel) :
    ∃ more rest, rest <:+ s ∧ (rest = [] → s = [] ∨ key <:+ s) ∧ ¬ key <:+: rest
      ∧ (rest ++ t).length ≤ more
      ∧ parameterFrom? key fuel (s ++ t) = parameterFrom? key (more + 1) (rest ++ t) := by
  have hne := hk.ne_nil
  induction fuel generalizing s with
  | zero => omega
  | succ fuel ih =>
      cases hcut : cutAt key s with
      | none =>
          exact ⟨fuel, s, List.suffix_rfl, Or.inl, (cutAt_eq_none_iff key s hne).mp hcut,
            Nat.le_of_lt_succ hfuel, rfl⟩
      | some cut =>
          obtain ⟨before, after⟩ := cut
          have hsplit := cutAt_eq_some key s before after hcut
          have hkeyed : (key ++ after) <:+ s := ⟨before, hsplit.symm⟩
          have hsuffix : after <:+ s := (List.suffix_append key after).trans hkeyed
          have hshort : (after ++ t).length < fuel := by
            have := List.length_pos_of_ne_nil hne
            rw [hsplit] at hfuel
            simp only [List.length_append] at hfuel ⊢
            omega
          -- behind the key that is passed there is no other one
          have hnext : ¬ key <+: after := by
            rintro ⟨r, rfl⟩
            exact hs (Or.inr ⟨before, r, by rw [hsplit]; simp⟩)
          obtain ⟨more, rest, hrest, hempty, hno, hmore, hpass⟩ :=
            ih after (fun h => hs (h.mono hsuffix.isInfix)) hnext hshort
          refine ⟨more, rest, hrest.trans hsuffix, fun h => Or.inr ?_, hno, hmore, ?_⟩
          · rcases hempty h with rfl | h
            · rwa [List.append_nil] at hkeyed
            · exact h.trans hsuffix
          · rw [parameterFrom?, cutAt_append key s t before after hne hcut]
            cases hlast : before.getLast? with
            | none =>
                rw [List.getLast?_eq_none_iff] at hlast
                rw [hlast] at hsplit
                exact absurd ⟨after, hsplit.symm⟩ hstart
            | some b =>
                obtain ⟨init, rfl⟩ := List.getLast?_eq_some_iff.mp hlast
                have hb : ¬ (isAsciiBlank b || b = 0x3B) = true := fun hb => hs (Or.inl
                  ⟨b, (mem_separators b).mpr hb, init, after, by rw [hsplit]; simp⟩)
                simp only [List.getLast?_concat, hb]
                exact hpass

/-- **No parameter is found** in a text in which nothing is taken for it. -/
theorem parameterFrom?_none (key : Bytes) (hk : IsKey key) (fuel : Nat) (s : Bytes)
    (hs : ¬ Mimics key s) (hstart : ¬ key <+: s) (hfuel : s.length < fuel) :
    parameterFrom? key fuel s = none := by
  obtain ⟨more, rest, -, -, hrest, -, hpass⟩ :=
    parameterFrom?_pass key hk fuel s [] hs hstart (by rwa [List.append_nil])
  rw [List.append_nil, List.append_nil] at hpass
  rw [hpass, parameterFrom?, (cutAt_eq_none_iff key rest hk.ne_nil).mpr hrest]

/-- **A parameter is found behind a separator**, if nothing before it is taken for one. -/
theorem parameterFrom?_found (key : Bytes) (hk : IsKey key) (fuel : Nat) (s : Bytes) (b : UInt8)
    (t : Bytes) (hs : ¬ Mimics key s) (hstart : ¬ key <+: s)
    (hfuel : (s ++ b :: (key ++ t)).length < fuel) (hb : b ∈ separators) :
    parameterFrom? key fuel (s ++ b :: (key ++ t)) = parameterValue? t := by
  obtain ⟨more, rest, -, -, hrest, -, hpass⟩ :=
    parameterFrom?_pass key hk fuel s (b :: (key ++ t)) hs hstart hfuel
  have hkey := hk.noSeparator b hb
  obtain ⟨c, r, rfl, hcr⟩ := hk.once
  have hseparated : ¬ (c :: r) <:+: rest ++ [b] := by
    intro h
    rcases infix_append_of_not_mem c r rest b [] hkey h with h | h
    · exact hrest h
    · exact absurd (List.infix_nil.mp h) (List.cons_ne_nil c r)
  have hskips := skips_of_not_infix c r (rest ++ [b]) t hcr hseparated
  have hcut := cutAt_of_skips (c :: r) (rest ++ [b]) t hskips
  rw [List.append_assoc, List.singleton_append] at hcut
  rw [hpass, parameterFrom?, hcut]
  simp only [List.getLast?_concat, (mem_separators b).mp hb, if_true]

/-- A parameter is found right behind a key that is passed. -/
theorem parameterFrom?_behind (key : Bytes) (hk : IsKey key) (fuel : Nat) (s t : Bytes)
    (hs : ¬ Mimics key (s ++ key)) (hstart : ¬ key <+: s ++ key)
    (hfuel : (s ++ (key ++ (key ++ t))).length < fuel) :
    parameterFrom? key fuel (s ++ (key ++ (key ++ t))) = parameterValue? t := by
  have hprefix : s <+: s ++ key := List.prefix_append s key
  obtain ⟨more, rest, hsuffix, hempty, hrest, hmore, hpass⟩ := parameterFrom?_pass key hk fuel s
    (key ++ (key ++ t)) (fun h => hs (h.mono hprefix.isInfix)) (fun h => hstart (h.trans hprefix))
    hfuel
  have hcut : cutAt key (rest ++ (key ++ (key ++ t))) = some (rest, key ++ t) := by
    obtain ⟨c, r, rfl, hcr⟩ := hk.once
    have hskips := skips_of_not_infix c r rest (c :: r ++ t) hcr hrest
    exact cutAt_of_skips (c :: r) rest (c :: r ++ t) hskips
  rw [hpass, parameterFrom?, hcut]
  cases hlast : rest.getLast? with
  | none =>
      -- the first key would stand at the beginning, or behind another one
      rw [List.getLast?_eq_none_iff] at hlast
      rcases hempty hlast with rfl | ⟨w, rfl⟩
      · exact absurd List.prefix_rfl hstart
      · exact absurd (Or.inr ⟨w, [], by simp⟩) hs
  | some b =>
      obtain ⟨init, rfl⟩ := List.getLast?_eq_some_iff.mp hlast
      obtain ⟨w, rfl⟩ := hsuffix
      have hb : ¬ (isAsciiBlank b || b = 0x3B) = true := fun hb =>
        hs (Or.inl ⟨b, (mem_separators b).mpr hb, w ++ init, [], by simp⟩)
      obtain ⟨more, rfl⟩ : ∃ n, more = n + 1 := by
        refine ⟨more - 1, ?_⟩
        simp only [List.length_append, List.length_singleton] at hmore
        omega
      simp only [List.getLast?_concat, hb]
      rw [parameterFrom?, cutAt_self]
      rfl

/-- Whether a key is taken for a parameter where `t` follows it, and nowhere before. -/
def FirstParameter (key s t : Bytes) : Prop :=
  ∃ x, s = x ++ (key ++ t) ∧ ¬ Mimics key x ∧ ¬ key <+: x
    ∧ ((∃ b ∈ separators, [b] <:+ x) ∨ key <:+ x)

/-- **The value of the first parameter is read.** -/
theorem parameterFrom?_first (key : Bytes) (hk : IsKey key) (fuel : Nat) (s t : Bytes)
    (h : FirstParameter key s t) (hfuel : s.length < fuel) :
    parameterFrom? key fuel s = parameterValue? t := by
  obtain ⟨x, rfl, hx, hstart, ⟨b, hb, init, rfl⟩ | ⟨w, rfl⟩⟩ := h
  · have hprefix : init <+: init ++ [b] := List.prefix_append init [b]
    rw [List.append_assoc, List.singleton_append] at hfuel ⊢
    exact parameterFrom?_found key hk fuel init b t (fun h => hx (h.mono hprefix.isInfix))
      (fun h => hstart (h.trans hprefix)) hfuel hb
  · rw [List.append_assoc] at hfuel ⊢
    exact parameterFrom?_behind key hk fuel w t hx hstart hfuel

/-- **There is a first parameter** where something is taken for one. -/
theorem exists_first (key : Bytes) (hk : IsKey key) (s : Bytes) (hs : Mimics key s)
    (hstart : ¬ key <+: s) : ∃ t, FirstParameter key s t := by
  induction s using List.reverseRecOn with
  | nil =>
      have hne := hk.ne_nil
      rcases hs with ⟨b, -, h⟩ | h
      · exact absurd (List.infix_nil.mp h) (List.cons_ne_nil b key)
      · exact absurd (List.append_eq_nil_iff.mp (List.infix_nil.mp h)).1 hne
  | append_singleton s d ih =>
      by_cases hearly : Mimics key s
      · obtain ⟨t, x, rfl, hx⟩ := ih hearly fun h => hstart (h.trans (List.prefix_append s [d]))
        exact ⟨t ++ [d], x, by simp, hx⟩
      -- the first parameter ends with the text
      · have hfirst : ∀ x, x ++ key = s ++ [d] → (∃ b ∈ separators, [b] <:+ x) ∨ key <:+ x →
            ∃ t, FirstParameter key (s ++ [d]) t := by
          intro x hx hplace
          have hwhole : x <+: s ++ [d] := ⟨key, hx⟩
          have hprefix : x <+: s := by
            apply List.prefix_of_prefix_length_le hwhole (List.prefix_append s [d])
            have hlength := congrArg List.length hx
            have := List.length_pos_of_ne_nil hk.ne_nil
            simp only [List.length_append, List.length_singleton] at hlength
            omega
          refine ⟨[], x, ?_, fun h => hearly (h.mono hprefix.isInfix),
            fun h => hstart (h.trans hwhole), hplace⟩
          rw [List.append_nil, hx]
        rcases hs with ⟨b, hb, h⟩ | h
        · rcases List.infix_concat_iff.mp h with ⟨y, hy⟩ | h
          · apply hfirst (y ++ [b]) _ (Or.inl ⟨b, hb, y, rfl⟩)
            rw [List.append_assoc]
            exact hy
          · exact absurd (Or.inl ⟨b, hb, h⟩) hearly
        · rcases List.infix_concat_iff.mp h with ⟨y, hy⟩ | h
          · apply hfirst (y ++ key) _ (Or.inr ⟨y, rfl⟩)
            rw [List.append_assoc]
            exact hy
          · exact absurd (Or.inr h) hearly

/-! ## §3. Values in quotes. -/

/-- Whether a text leaves its quotes open: each quote in it follows a backslash.  `last` is
the octet before the text. -/
def StaysOpen : (last : Option UInt8) → Bytes → Prop
  | _, [] => True
  | last, b :: s => (b = 0x22 → last = some 0x5C) ∧ StaysOpen (some b) s

theorem staysOpen_of_not_mem (last : Option UInt8) (s : Bytes) (h : 0x22 ∉ s) :
    StaysOpen last s := by
  induction s generalizing last with
  | nil => trivial
  | cons b s ih =>
      rw [List.mem_cons, not_or] at h
      exact ⟨fun hb => absurd hb.symm h.1, ih (some b) h.2⟩

theorem StaysOpen.append {last : Option UInt8} {s t : Bytes} (hs : StaysOpen last s)
    (ht : StaysOpen (s.getLast?.or last) t) : StaysOpen last (s ++ t) := by
  induction s generalizing last with
  | nil => exact ht
  | cons b s ih =>
      rw [List.getLast?_cons] at ht
      refine ⟨hs.1, ih hs.2 ?_⟩
      cases hl : s.getLast? with
      | none =>
          rw [hl] at ht
          exact ht
      | some d =>
          rw [hl] at ht
          exact ht

theorem StaysOpen.head {s : Bytes} (h : StaysOpen none s) : s.head? ≠ some 0x22 := by
  cases s with
  | nil => simp
  | cons b s =>
      intro hb
      have hlast := h.1 (Option.some.inj hb)
      cases hlast

/-- What leaves the quotes open is read on. -/
theorem upToQuote?_pass (read s t : Bytes) (hs : StaysOpen read.head? s) :
    upToQuote? read (s ++ t) = upToQuote? (s.reverse ++ read) t := by
  induction s generalizing read with
  | nil => rfl
  | cons b s ih =>
      have hopen : ¬ (b = 0x22 && read.head? != some 0x5C) = true := by
        simp only [Bool.and_eq_true, decide_eq_true_eq, bne_iff_ne, not_and, not_not]
        exact hs.1
      rw [List.cons_append, upToQuote?, if_neg hopen, ih (b :: read) hs.2]
      simp

/-- **A value ends at the quote that closes it.** -/
theorem upToQuote?_closed (s t : Bytes) (hs : StaysOpen none s) (hlast : s.getLast? ≠ some 0x5C) :
    upToQuote? [] (s ++ 0x22 :: t) = some s := by
  have hclosed : (0x22 = (0x22 : UInt8) && (s.reverse ++ []).head? != some 0x5C) = true := by
    simpa [List.head?_reverse] using hlast
  rw [upToQuote?_pass [] s _ hs, upToQuote?, if_pos hclosed]
  simp

/-- A value without a quote that closes it is none. -/
theorem upToQuote?_open (s : Bytes) (hs : StaysOpen none s) : upToQuote? [] s = none := by
  have h := upToQuote?_pass [] s [] hs
  rw [List.append_nil] at h
  exact h

theorem unescapeQuotes_cons (b : UInt8) (s : Bytes) (h : b = 0x5C → s.head? ≠ some 0x22) :
    unescapeQuotes (b :: s) = b :: unescapeQuotes s := by
  rw [unescapeQuotes.eq_def]
  split
  · next r hr =>
    obtain ⟨rfl, rfl⟩ := List.cons.inj hr
    exact absurd rfl (h rfl)
  · next hr =>
    obtain ⟨rfl, rfl⟩ := List.cons.inj hr
    rfl
  · next hr => cases hr

/-- **A quote loses its backslash**, and what stands before it stays. -/
theorem unescapeQuotes_escape (s t : Bytes) (hs : 0x22 ∉ s) :
    unescapeQuotes (s ++ 0x5C :: 0x22 :: t) = s ++ 0x22 :: unescapeQuotes t := by
  induction s with
  | nil => rfl
  | cons b s ih =>
      rw [List.mem_cons, not_or] at hs
      have hnext : (s ++ 0x5C :: 0x22 :: t).head? ≠ some 0x22 := by
        cases s with
        | nil => simp
        | cons c s => simpa using fun hc => hs.2 (by simp [hc])
      rw [List.cons_append, unescapeQuotes_cons b _ fun _ => hnext, ih hs.2]
      rfl

/-- What holds no backslash stays as it is. -/
theorem unescapeQuotes_append (s t : Bytes) (hs : 0x5C ∉ s) :
    unescapeQuotes (s ++ t) = s ++ unescapeQuotes t := by
  induction s with
  | nil => rfl
  | cons b s ih =>
      rw [List.mem_cons, not_or] at hs
      rw [List.cons_append, unescapeQuotes_cons b _ fun hb => absurd hb.symm hs.1, ih hs.2]
      rfl

theorem unescapeQuotes_of_not_mem (s : Bytes) (hs : 0x22 ∉ s) : unescapeQuotes s = s := by
  induction s with
  | nil => rfl
  | cons b s ih =>
      rw [List.mem_cons, not_or] at hs
      have hnext : s.head? ≠ some 0x22 := fun h => hs.2 (List.mem_of_mem_head? h)
      rw [unescapeQuotes_cons b s fun _ => hnext, ih hs.2]

/-- **The value of a parameter in quotes.** -/
theorem parameterValue?_closed (s t : Bytes) (hs : StaysOpen none s)
    (hlast : s.getLast? ≠ some 0x5C) :
    parameterValue? (0x22 :: (s ++ 0x22 :: t)) = string? (unescapeQuotes s) := by
  show (upToQuote? [] (s ++ 0x22 :: t)).bind (fun v => string? (unescapeQuotes v)) = _
  rw [upToQuote?_closed s t hs hlast]
  rfl

theorem parameterValue?_open (s : Bytes) (hs : StaysOpen none s) :
    parameterValue? (0x22 :: s) = none := by
  show (upToQuote? [] s).bind (fun v => string? (unescapeQuotes v)) = _
  rw [upToQuote?_open s hs]
  rfl

end FormUpload.Echo
