import FormUpload.CommandLine.Arguments
import FormUpload.Proofs.Text.Cutting
import Mathlib.Data.List.Forall2

/-!
# What flags set

A flag with its value is a setting.  `Stores` says what a setting makes of a draft, with a
rule for each flag; settings are stored one after the other:

    store_eq_ok_iff        a setting is stored by its rule, most flags only once
    pairs_of_storeAll      fields and files are collected in order
    storeAll_of_alike      what is collected does not touch anything else
-/

namespace FormUpload.CommandLine

open FormUpload.Text

/-- What is done with what was read succeeds only if the reading did. -/
theorem bind_eq_ok_iff {α β : Type} (x : Except UsageFault α) (f : α → Except UsageFault β)
    (b : β) : (x >>= f) = .ok b ↔ ∃ a, x = .ok a ∧ f a = .ok b := by
  cases x with
  | error fault => simp [bind, Except.bind]
  | ok a => simp [bind, Except.bind]

theorem bind_eq_error_iff {α β : Type} (x : Except UsageFault α) (f : α → Except UsageFault β)
    (fault : UsageFault) :
    (x >>= f) = .error fault ↔ x = .error fault ∨ ∃ a, x = .ok a ∧ f a = .error fault := by
  cases x with
  | error fault => simp [bind, Except.bind]
  | ok a => simp [bind, Except.bind]

/-! ## §1. Names and values. -/

/-- A text is a name and a value.  The first equals sign stands between them. -/
structure Written (text name value : String) : Prop where
  named : name ≠ ""
  first : '=' ∉ name.toList
  whole : text = name ++ "=" ++ value

theorem Written.cutWhere_eq {text name value : String} (h : Written text name value) :
    cutWhere (· == '=') text.toList = some (name.toList, value.toList) := by
  refine (cutWhere_eq_some_iff _ _ _ _).mpr ⟨fun c hc => ?_, '=', rfl, by simp [h.whole]⟩
  exact beq_eq_false_iff_ne.mpr fun heq => h.first (heq ▸ hc)

/-- **A name and a value are read where they are written.** -/
theorem keyValue?_eq_some_iff (text name value : String) :
    keyValue? text = some (name, value) ↔ Written text name value := by
  constructor
  · intro h
    unfold keyValue? at h
    split at h
    · next c cs v hcut =>
      cases h
      obtain ⟨hfirst, e, he, hs⟩ := (cutWhere_eq_some_iff _ _ _ _).mp hcut
      obtain rfl : e = '=' := by simpa using he
      refine ⟨fun hempty => ?_, fun hmem => ?_, ?_⟩
      · have hnil := congrArg String.toList hempty
        rw [String.toList_ofList] at hnil
        cases hnil
      · rw [String.toList_ofList] at hmem
        simpa using hfirst '=' hmem
      · rw [← String.toList_inj, hs]
        simp
    · cases h
  · intro h
    unfold keyValue?
    rw [h.cutWhere_eq]
    cases hname : name.toList with
    | nil => exact absurd (String.toList_eq_nil_iff.mp hname) h.named
    | cons c cs => simp only [← hname, String.ofList_toList]

/-- **A text is a name and a value** if it has an equals sign that does not come first. -/
theorem exists_written_iff (text : String) :
    (∃ name value, Written text name value)
      ↔ '=' ∈ text.toList ∧ text.toList.head? ≠ some '=' := by
  constructor
  · rintro ⟨name, value, hnamed, hfirst, rfl⟩
    refine ⟨by simp, fun hhead => ?_⟩
    cases hname : name.toList with
    | nil => exact hnamed (String.toList_eq_nil_iff.mp hname)
    | cons c cs =>
        rw [String.toList_append, String.toList_append, hname] at hhead
        rw [hname] at hfirst
        exact hfirst (Option.some.inj hhead ▸ List.mem_cons_self)
  · rintro ⟨hmem, hhead⟩
    obtain ⟨before, after, htext, hfirst⟩ := List.eq_append_cons_of_mem hmem
    refine ⟨String.ofList before, String.ofList after, fun hempty => ?_, ?_, ?_⟩
    · have hnil := congrArg String.toList hempty
      rw [String.toList_ofList] at hnil
      rw [htext, show before = [] from hnil] at hhead
      exact hhead rfl
    · rw [String.toList_ofList]
      exact hfirst
    · rw [← String.toList_inj, htext]
      simp

/-! ## §2. One setting. -/

/-- A flag with its value, which is empty if the flag takes none. -/
abbrev Setting := Flag × String

namespace Draft

/-- The names and values that a flag has collected. -/
def pairs (d : Draft) : Flag → List (String × String)
  | .field => d.fields
  | .file => d.files
  | _ => []

/-- **What a setting makes of a draft.** -/
inductive Stores (d : Draft) : Setting → Draft → Prop
  | endpoint (value : String) :
      Stores d (.endpoint, value) { d.mark .endpoint with endpoint := some value }
  | field {text : String} (pair : String × String) (h : Written text pair.1 pair.2) :
      Stores d (.field, text) { d.mark .field with fields := (d.mark .field).fields ++ [pair] }
  | file {text : String} (pair : String × String) (h : Written text pair.1 pair.2) :
      Stores d (.file, text) { d.mark .file with files := (d.mark .file).files ++ [pair] }
  | timeout {text : String} {n : Nat} (h : seconds text = .ok n) :
      Stores d (.timeout, text) { d.mark .timeout with timeout := some n }
  | quiet (value : String) : Stores d (.quiet, value) (d.mark .quiet)
  | acceptErrorStatus (value : String) :
      Stores d (.acceptErrorStatus, value) (d.mark .acceptErrorStatus)

@[simp] theorem mark_endpoint (d : Draft) (f : Flag) : (d.mark f).endpoint = d.endpoint := by
  unfold mark
  split <;> rfl

@[simp] theorem mark_fields (d : Draft) (f : Flag) : (d.mark f).fields = d.fields := by
  unfold mark
  split <;> rfl

@[simp] theorem mark_files (d : Draft) (f : Flag) : (d.mark f).files = d.files := by
  unfold mark
  split <;> rfl

@[simp] theorem mark_timeout (d : Draft) (f : Flag) : (d.mark f).timeout = d.timeout := by
  unfold mark
  split <;> rfl

@[simp] theorem mark_pending (d : Draft) (f : Flag) : (d.mark f).pending = d.pending := by
  unfold mark
  split <;> rfl

@[simp] theorem mem_mark (d : Draft) (f g : Flag) : g ∈ (d.mark f).given ↔ g ∈ d.given ∨ g = f := by
  unfold mark
  split
  · next h =>
    have hmem : f ∈ d.given := by simpa using h
    exact ⟨Or.inl, fun hg => hg.elim id fun heq => heq ▸ hmem⟩
  · simp

/-- **A setting is stored by its rule**, most flags only once. -/
theorem store_eq_ok_iff (command : Command) (d d' : Draft) (f : Flag) (value : String) :
    d.store command f value = .ok d'
      ↔ (f ∈ d.given → f.isRepeatable = true) ∧ d.Stores (f, value) d' := by
  constructor
  · intro h
    unfold store at h
    split at h
    · cases h
    · next hrepeated =>
      have hmem : f ∈ d.given → f.isRepeatable = true := by
        intro hf
        by_contra hno
        exact hrepeated (by simp [hf, hno])
      refine ⟨hmem, ?_⟩
      cases f with
      | endpoint =>
          cases h
          exact .endpoint value
      | field =>
          dsimp only at h
          split at h
          · next pair hpair =>
            cases h
            exact .field pair ((keyValue?_eq_some_iff _ _ _).mp hpair)
          · cases h
      | file =>
          dsimp only at h
          split at h
          · next pair hpair =>
            cases h
            exact .file pair ((keyValue?_eq_some_iff _ _ _).mp hpair)
          · cases h
      | timeout =>
          dsimp only at h
          split at h
          · next n hn =>
            cases h
            exact .timeout hn
          · cases h
      | help => cases h
      | version => cases h
      | quiet =>
          cases h
          exact .quiet value
      | acceptErrorStatus =>
          cases h
          exact .acceptErrorStatus value
  · rintro ⟨hmem, hstores⟩
    have hfirst : ¬ (d.given.contains f && !f.isRepeatable) = true := by
      intro hrepeated
      simp only [Bool.and_eq_true, List.contains_iff_mem, Bool.not_eq_true'] at hrepeated
      rw [hmem hrepeated.1] at hrepeated
      cases hrepeated.2
    unfold store
    rw [if_neg hfirst]
    cases hstores with
    | endpoint => rfl
    | field pair h => simp only [(keyValue?_eq_some_iff _ _ _).mpr h]
    | file pair h => simp only [(keyValue?_eq_some_iff _ _ _).mpr h]
    | timeout h => simp only [h]
    | quiet => rfl
    | acceptErrorStatus => rfl

/-- What waits is not touched. -/
theorem Stores.pending {d d' : Draft} {s : Setting} (h : d.Stores s d') :
    d'.pending = d.pending := by
  cases h <;> simp

theorem Stores.mem_given {d d' : Draft} {s : Setting} (h : d.Stores s d') (g : Flag) :
    g ∈ d'.given ↔ g ∈ d.given ∨ g = s.1 := by
  cases h <;> simp

/-- **Only a field or a file is collected**, at the end of what there was. -/
theorem Stores.pairs {d d' : Draft} {s : Setting} (h : d.Stores s d') (f : Flag)
    (hf : f.isRepeatable = true) :
    (s.1 ≠ f ∧ d'.pairs f = d.pairs f)
      ∨ (s.1 = f ∧ ∃ pair : String × String, Written s.2 pair.1 pair.2
        ∧ d'.pairs f = d.pairs f ++ [pair]) := by
  cases f with
  | field =>
      cases h with
      | field pair h => exact Or.inr ⟨rfl, _, h, by simp [Draft.pairs]⟩
      | endpoint | file | timeout | quiet | acceptErrorStatus =>
          exact Or.inl ⟨by simp, by simp [Draft.pairs]⟩
  | file =>
      cases h with
      | file pair h => exact Or.inr ⟨rfl, _, h, by simp [Draft.pairs]⟩
      | endpoint | field | timeout | quiet | acceptErrorStatus =>
          exact Or.inl ⟨by simp, by simp [Draft.pairs]⟩
  | endpoint | quiet | timeout | acceptErrorStatus | help | version => cases hf

/-! ## §3. What is collected apart. -/

/-- Drafts that differ only in what they have collected. -/
structure Alike (d e : Draft) : Prop where
  endpoint : d.endpoint = e.endpoint
  timeout : d.timeout = e.timeout
  given : ∀ f : Flag, f.isRepeatable = false → (f ∈ d.given ↔ f ∈ e.given)

theorem Alike.refl (d : Draft) : d.Alike d := ⟨rfl, rfl, fun _ _ => Iff.rfl⟩

/-- A field or a file leaves everything else as it is. -/
theorem Alike.of_repeatable {d d' e : Draft} {s : Setting} (hde : d.Alike e)
    (hs : s.1.isRepeatable = true) (h : d.Stores s d') : d'.Alike e := by
  have hgiven : ∀ g : Flag, g.isRepeatable = false → (g ∈ d'.given ↔ g ∈ e.given) := by
    intro g hg
    have hne : g ≠ s.1 := by
      rintro rfl
      rw [hs] at hg
      cases hg
    rw [h.mem_given, ← hde.given g hg]
    simp [hne]
  cases h with
  | field | file => exact ⟨by simp [hde.endpoint], by simp [hde.timeout], hgiven⟩
  | endpoint | timeout | quiet | acceptErrorStatus => cases hs

/-- **What one draft stores, an alike one stores too.** -/
theorem Alike.stores {d e e' : Draft} {s : Setting} (hde : d.Alike e)
    (hs : s.1.isRepeatable = false) (h : e.Stores s e') :
    ∃ d', d.Stores s d' ∧ d'.Alike e' := by
  obtain ⟨hendpoint, htimeout, hgiven⟩ := hde
  have hmark : ∀ f g : Flag, g.isRepeatable = false
      → (g ∈ (d.mark f).given ↔ g ∈ (e.mark f).given) := by
    intro f g hg
    rw [mem_mark, mem_mark, hgiven g hg]
  cases h with
  | endpoint value => exact ⟨_, .endpoint value, rfl, by simp [htimeout], hmark _⟩
  | field | file => cases hs
  | timeout h => exact ⟨_, .timeout h, by simp [hendpoint], rfl, hmark _⟩
  | quiet value =>
      exact ⟨_, .quiet value, by simp [hendpoint], by simp [htimeout], hmark _⟩
  | acceptErrorStatus value =>
      exact ⟨_, .acceptErrorStatus value, by simp [hendpoint], by simp [htimeout], hmark _⟩

/-! ## §4. One setting after the other. -/

/-- The draft with settings stored in order. -/
def storeAll (command : Command) : Draft → List Setting → Except UsageFault Draft
  | d, [] => .ok d
  | d, s :: r => do storeAll command (← d.store command s.1 s.2) r

theorem storeAll_cons_eq_ok_iff (command : Command) (d d' : Draft) (s : Setting)
    (r : List Setting) :
    d.storeAll command (s :: r) = .ok d'
      ↔ ∃ between, d.store command s.1 s.2 = .ok between
        ∧ between.storeAll command r = .ok d' := by
  rw [storeAll, bind_eq_ok_iff]

theorem storeAll_append_eq_ok_iff (command : Command) (d d' : Draft) (s r : List Setting) :
    d.storeAll command (s ++ r) = .ok d'
      ↔ ∃ between, d.storeAll command s = .ok between
        ∧ between.storeAll command r = .ok d' := by
  induction s generalizing d with
  | nil => simp [storeAll]
  | cons t s ih =>
      simp only [List.cons_append, storeAll_cons_eq_ok_iff, ih]
      constructor
      · rintro ⟨d₁, h₁, d₂, h₂, h⟩
        exact ⟨d₂, ⟨d₁, h₁, h₂⟩, h⟩
      · rintro ⟨d₂, ⟨d₁, h₁, h₂⟩, h⟩
        exact ⟨d₁, h₁, d₂, h₂, h⟩

/-- What waits is not touched by any number of settings. -/
theorem pending_of_storeAll (command : Command) (d d' : Draft) (ss : List Setting)
    (h : d.storeAll command ss = .ok d') : d'.pending = d.pending := by
  induction ss generalizing d with
  | nil =>
      cases h
      rfl
  | cons s ss ih =>
      obtain ⟨between, hs, hrest⟩ := (storeAll_cons_eq_ok_iff _ _ _ _ _).mp h
      obtain ⟨-, hstores⟩ := (store_eq_ok_iff _ _ _ _ _).mp hs
      rw [ih between hrest, hstores.pending]

/-- **Fields and files are collected in order**, each with its name and value. -/
theorem pairs_of_storeAll (command : Command) (d d' : Draft) (ss : List Setting)
    (h : d.storeAll command ss = .ok d') (f : Flag) (hf : f.isRepeatable = true) :
    ∃ pairs, d'.pairs f = d.pairs f ++ pairs
      ∧ List.Forall₂ (fun s pair => Written s.2 pair.1 pair.2) (ss.filter (·.1 = f)) pairs := by
  induction ss generalizing d with
  | nil =>
      cases h
      exact ⟨[], (List.append_nil _).symm, .nil⟩
  | cons s ss ih =>
      obtain ⟨between, hs, hrest⟩ := (storeAll_cons_eq_ok_iff _ _ _ _ _).mp h
      obtain ⟨-, hstores⟩ := (store_eq_ok_iff _ _ _ _ _).mp hs
      obtain ⟨pairs, hpairs, hwritten⟩ := ih between hrest
      rcases hstores.pairs f hf with ⟨hne, hsame⟩ | ⟨heq, pair, hpair, hmore⟩
      · rw [hsame] at hpairs
        rw [List.filter_cons_of_neg (by simpa using hne)]
        exact ⟨pairs, hpairs, hwritten⟩
      · rw [hmore, List.append_assoc, List.singleton_append] at hpairs
        rw [List.filter_cons_of_pos (by simpa using heq)]
        exact ⟨pair :: pairs, hpairs, .cons hpair hwritten⟩

/-- **Fields and files may stand anywhere**: what is stored without them is stored with them
too, and apart from what they collect it comes to the same. -/
theorem storeAll_of_alike (command : Command) (d e e' : Draft) (ss : List Setting)
    (hde : d.Alike e)
    (hss : ∀ s ∈ ss, s.1.isRepeatable = true → ∃ name value, Written s.2 name value)
    (h : e.storeAll command (ss.filter fun s => !s.1.isRepeatable) = .ok e') :
    ∃ d', d.storeAll command ss = .ok d' ∧ d'.Alike e' := by
  induction ss generalizing d e with
  | nil =>
      cases h
      exact ⟨d, rfl, hde⟩
  | cons s ss ih =>
      obtain ⟨hs, hrest⟩ := List.forall_mem_cons.mp hss
      cases hrepeatable : s.1.isRepeatable with
      | true =>
          rw [List.filter_cons_of_neg (by simp [hrepeatable])] at h
          obtain ⟨name, value, hwritten⟩ := hs hrepeatable
          obtain ⟨between, hstores⟩ : ∃ between, d.Stores s between := by
            obtain ⟨f, text⟩ := s
            cases f with
            | field => exact ⟨_, .field (name, value) hwritten⟩
            | file => exact ⟨_, .file (name, value) hwritten⟩
            | endpoint | quiet | timeout | acceptErrorStatus | help | version =>
                cases hrepeatable
          have hstore := (store_eq_ok_iff command d between s.1 s.2).mpr
            ⟨fun _ => hrepeatable, hstores⟩
          obtain ⟨d', hd', halike⟩ := ih between e (hde.of_repeatable hrepeatable hstores) hrest h
          exact ⟨d', (storeAll_cons_eq_ok_iff _ _ _ _ _).mpr ⟨between, hstore, hd'⟩, halike⟩
      | false =>
          rw [List.filter_cons_of_pos (by simp [hrepeatable])] at h
          obtain ⟨next, hnext, h⟩ := (storeAll_cons_eq_ok_iff _ _ _ _ _).mp h
          obtain ⟨honce, hstores⟩ := (store_eq_ok_iff _ _ _ _ _).mp hnext
          obtain ⟨between, hbetween, halike⟩ := hde.stores hrepeatable hstores
          have hstore := (store_eq_ok_iff command d between s.1 s.2).mpr
            ⟨fun hgiven => honce ((hde.given s.1 hrepeatable).mp hgiven), hbetween⟩
          obtain ⟨d', hd', halike⟩ := ih between next halike hrest h
          exact ⟨d', (storeAll_cons_eq_ok_iff _ _ _ _ _).mpr ⟨between, hstore, hd'⟩, halike⟩

/-- What alike drafts ask for is the same but for what they have collected. -/
theorem Alike.finish {d e : Draft} (hde : d.Alike e) (environment : Option String) (quiet : Bool)
    (a : UploadArguments) (h : e.finish environment quiet = .ok a) :
    d.finish environment quiet = .ok { a with fields := d.fields, files := d.files } := by
  have hcontains : ∀ f : Flag, f.isRepeatable = false
      → d.given.contains f = e.given.contains f := by
    intro f hf
    rw [Bool.eq_iff_iff, List.contains_iff_mem, List.contains_iff_mem]
    exact hde.given f hf
  unfold Draft.finish at h ⊢
  rw [hde.endpoint]
  split at h <;> cases h
  simp only [hde.timeout, hcontains .acceptErrorStatus rfl, hcontains .quiet rfl]

end Draft

end FormUpload.CommandLine
