import FormUpload.Proofs.CommandLine.Settings

/-!
# How settings are spelled

Arguments spell settings.  One argument may say several, and at its end it may name a flag
whose value is the next argument.  `Spells` goes through a command line with nothing in mind
but that flag, so what a line says does not depend on what is stored:

    readWord_eq_ok_iff         what two hyphens begin is heard as what it says
    readLetters_eq_ok_iff      so is what one hyphen begins, a letter for each flag
    readUpload_cons_eq_ok_iff  all that can become of one argument
    readUpload_eq_ok_iff       an upload is read as the settings that it spells
-/

namespace FormUpload.CommandLine

open FormUpload.Text

/-! ## §1. What an argument says. -/

/-- What an argument says: settings, and at the end perhaps a flag that awaits its value. -/
structure Said where
  settings : List Setting
  awaited : Option Flag
deriving DecidableEq

/-- What is said with two hyphens. -/
def sayWord? (command : Command) (cs : List Char) : Option Said :=
  match command.flags.find? (·.word == String.ofList (Draft.cutEquals cs).1) with
  | none => none
  | some f =>
      match f.takesValue, (Draft.cutEquals cs).2 with
      | true, some v => some ⟨[(f, String.ofList v)], none⟩
      | true, none => some ⟨[], some f⟩
      | false, some _ => none
      | false, none => some ⟨[(f, "")], none⟩

/-- What is said with one hyphen. -/
def sayLetters? (command : Command) : List Char → Option Said
  | [] => some ⟨[], none⟩
  | c :: r =>
      match command.flags.find? (·.letter? == some c) with
      | none => none
      | some f =>
          if f.takesValue then
            match r with
            | [] => some ⟨[], some f⟩
            | '=' :: v => some ⟨[(f, String.ofList v)], none⟩
            | v => some ⟨[(f, String.ofList v)], none⟩
          else (sayLetters? command r).map fun s => ⟨(f, "") :: s.settings, s.awaited⟩

/-- What an argument of an upload says. -/
def says? (argument : String) : Option Said :=
  match Shape.of argument with
  | .word rest => sayWord? .upload rest
  | .letters rest => sayLetters? .upload rest
  | _ => none

/-- The argument that follows is the value of a flag in this one. -/
def Awaits (argument : String) : Prop := ((says? argument).bind Said.awaited).isSome = true

instance : DecidablePred Awaits := fun _ => inferInstanceAs (Decidable (_ = true))

/-- An argument that does not look like a flag. -/
def IsValue (argument : String) : Prop := Shape.of argument = .plain

/-- A word with two hyphens that says nothing before a command is named. -/
def Foreign (argument : String) : Prop :=
  ∃ rest, Shape.of argument = .word rest ∧ sayWord? .root rest = none

namespace Draft

/-! ## §2. Arguments that are heard. -/

/-- The draft without the flag that waits. -/
def settled (d : Draft) : Draft := { d with pending := none }

/-- The flag that waits for its value. -/
def awaited (d : Draft) : Option Flag :=
  match d.pending with
  | some (f, none) => some f
  | _ => none

/-- The setting that waits to be looked at. -/
def ahead (d : Draft) : List Setting :=
  match d.pending with
  | some (f, some value) => [(f, value)]
  | _ => []

/-- The draft in which a flag awaits its value. -/
def awaiting (d : Draft) (f : Option Flag) : Draft := { d with pending := f.map (·, none) }

theorem settled_awaiting (d : Draft) (f : Option Flag) : (d.awaiting f).settled = d.settled := rfl

theorem awaited_awaiting (d : Draft) (f : Option Flag) : (d.awaiting f).awaited = f := by
  cases f <;> rfl

theorem ahead_awaiting (d : Draft) (f : Option Flag) : (d.awaiting f).ahead = [] := by
  cases f <;> rfl

theorem awaited_eq_some_iff (d : Draft) (f : Flag) :
    d.awaited = some f ↔ d.pending = some (f, none) := by
  unfold awaited
  split
  · next g h => simp [h]
  · next h =>
    refine ⟨nofun, fun hpending => ?_⟩
    exact absurd hpending (h f)

/-- Nothing is looked at while a value is awaited. -/
theorem ahead_of_awaited (d : Draft) (f : Flag) (h : d.awaited = some f) : d.ahead = [] := by
  unfold ahead
  rw [(awaited_eq_some_iff d f).mp h]

theorem settled_of_pending (d : Draft) (h : d.pending = none) : d.settled = d := by
  cases d
  cases h
  rfl

theorem storeAll_singleton (command : Command) (d : Draft) (s : Setting) :
    d.storeAll command [s] = d.store command s.1 s.2 := by
  rw [storeAll]
  cases d.store command s.1 s.2 <;> rfl

/-- **What waits is stored**, if it does not wait for a value. -/
theorem resolve_eq_ok_iff (command : Command) (d d' : Draft) :
    d.resolve command = .ok d'
      ↔ d.awaited = none ∧ d.settled.storeAll command d.ahead = .ok d' := by
  unfold resolve awaited ahead
  split
  · next h =>
    rw [h, settled_of_pending d h]
    simp [storeAll]
  · next f h =>
    rw [h]
    simp
  · next f value h =>
    rw [h]
    simp [storeAll_singleton, settled]

theorem pending_of_resolve (command : Command) (d d' : Draft) (h : d.resolve command = .ok d') :
    d'.pending = none :=
  pending_of_storeAll command d.settled d' d.ahead ((resolve_eq_ok_iff _ _ _).mp h).2

theorem resolve_of_pending (command : Command) (d : Draft) (h : d.pending = none) :
    d.resolve command = .ok d := by
  unfold resolve
  rw [h]

/-- **What an argument makes of a draft**: what waits is stored, then what is said. -/
def Hears (command : Command) (d : Draft) (said : Said) (d' : Draft) : Prop :=
  ∃ before after, d.resolve command = .ok before
    ∧ before.storeAll command said.settings = .ok after ∧ d' = after.awaiting said.awaited

theorem take_eq_ok_iff (command : Command) (d d' : Draft) (f : Flag) (value : String) :
    d.take command f value = .ok d'
      ↔ ∃ before, d.resolve command = .ok before ∧ before.store command f value = .ok d' := by
  rw [take, bind_eq_ok_iff]

/-- Nothing waits after a flag that is stored. -/
theorem pending_of_take (command : Command) (d d' : Draft) (f : Flag) (value : String)
    (h : d.take command f value = .ok d') : d'.pending = none := by
  obtain ⟨before, hbefore, hstore⟩ := (take_eq_ok_iff _ _ _ _ _).mp h
  obtain ⟨-, hstores⟩ := (store_eq_ok_iff _ _ _ _ _).mp hstore
  rw [hstores.pending, pending_of_resolve command d before hbefore]

theorem awaiting_none (d : Draft) (h : d.pending = none) : d.awaiting none = d :=
  settled_of_pending d h

/-- One setting after the other is heard. -/
theorem hears_cons_iff (command : Command) (d d' : Draft) (s : Setting) (said : Said) :
    d.Hears command ⟨s :: said.settings, said.awaited⟩ d'
      ↔ ∃ between, d.take command s.1 s.2 = .ok between ∧ between.Hears command said d' := by
  constructor
  · rintro ⟨before, after, hbefore, hafter, rfl⟩
    obtain ⟨between, hs, hrest⟩ := (storeAll_cons_eq_ok_iff _ _ _ _ _).mp hafter
    have htake := (take_eq_ok_iff _ _ _ _ _).mpr ⟨before, hbefore, hs⟩
    have hsettled := resolve_of_pending command between (pending_of_take _ _ _ _ _ htake)
    exact ⟨between, htake, between, after, hsettled, hrest, rfl⟩
  · rintro ⟨between, htake, before, after, hbefore, hafter, rfl⟩
    rw [resolve_of_pending command between (pending_of_take _ _ _ _ _ htake)] at hbefore
    cases hbefore
    obtain ⟨before, hbefore, hs⟩ := (take_eq_ok_iff _ _ _ _ _).mp htake
    exact ⟨before, after, hbefore, (storeAll_cons_eq_ok_iff _ _ _ _ _).mpr ⟨between, hs, hafter⟩,
      rfl⟩

/-- Silence is heard by a draft in which nothing waits. -/
theorem hears_nothing_iff (command : Command) (d d' : Draft) (h : d.pending = none) :
    d.Hears command ⟨[], none⟩ d' ↔ d' = d := by
  constructor
  · rintro ⟨before, after, hbefore, hafter, rfl⟩
    rw [resolve_of_pending command d h] at hbefore
    cases hbefore
    cases hafter
    exact awaiting_none d h
  · rintro rfl
    exact ⟨d', d', resolve_of_pending command d' h, rfl, (awaiting_none d' h).symm⟩

theorem hears_setting_iff (command : Command) (d d' : Draft) (f : Flag) (value : String) :
    d.Hears command ⟨[(f, value)], none⟩ d' ↔ d.take command f value = .ok d' := by
  rw [hears_cons_iff command d d' (f, value) ⟨[], none⟩]
  constructor
  · rintro ⟨between, htake, hnothing⟩
    rw [(hears_nothing_iff _ _ _ (pending_of_take _ _ _ _ _ htake)).mp hnothing]
    exact htake
  · intro htake
    exact ⟨d', htake, (hears_nothing_iff _ _ _ (pending_of_take _ _ _ _ _ htake)).mpr rfl⟩

theorem hears_awaited_iff (command : Command) (d d' : Draft) (f : Flag) :
    d.Hears command ⟨[], some f⟩ d' ↔ d.await command f = .ok d' := by
  unfold Hears await
  cases d.resolve command with
  | error fault => simp [bind, Except.bind]
  | ok before => simp [bind, Except.bind, pure, Except.pure, storeAll, awaiting, eq_comm]

/-- **What two hyphens begin is heard as what it says.** -/
theorem readWord_eq_ok_iff (command : Command) (d d' : Draft) (cs : List Char) :
    d.readWord command cs = .ok d'
      ↔ ∃ said, sayWord? command cs = some said ∧ d.Hears command said d' := by
  unfold readWord sayWord?
  dsimp only
  cases command.flags.find? (·.word == String.ofList (cutEquals cs).1) with
  | none => simp
  | some f =>
      cases hvalue : (cutEquals cs).2 with
      | none =>
          cases htakes : f.takesValue with
          | true => simp [htakes, hears_awaited_iff]
          | false => simp [htakes, hears_setting_iff]
      | some v =>
          cases htakes : f.takesValue with
          | true => simp [htakes, hears_setting_iff]
          | false => simp [htakes]

/-- **What one hyphen begins is heard as what it says**, letter by letter. -/
theorem readLetters_eq_ok_iff (command : Command) (d d' : Draft) (cs : List Char)
    (hcs : cs = [] → d.pending = none) :
    d.readLetters command cs = .ok d'
      ↔ ∃ said, sayLetters? command cs = some said ∧ d.Hears command said d' := by
  induction cs generalizing d with
  | nil =>
      rw [readLetters, sayLetters?]
      simp [hears_nothing_iff command d d' (hcs rfl), eq_comm]
  | cons c r ih =>
      rw [readLetters, sayLetters?]
      cases command.flags.find? (·.letter? == some c) with
      | none => simp
      | some f =>
          dsimp only
          by_cases htakes : f.takesValue = true
          · rw [if_pos htakes, if_pos htakes]
            split <;> simp [hears_awaited_iff, hears_setting_iff]
          · rw [if_neg htakes, if_neg htakes]
            have hlater : (∃ said, (sayLetters? command r).map
                  (fun s => (⟨(f, "") :: s.settings, s.awaited⟩ : Said)) = some said
                    ∧ d.Hears command said d')
                ↔ ∃ said between, sayLetters? command r = some said
                  ∧ d.take command f "" = .ok between ∧ between.Hears command said d' := by
              simp only [Option.map_eq_some_iff]
              constructor
              · rintro ⟨-, ⟨said, hsaid, rfl⟩, hhears⟩
                obtain ⟨between, htake, hrest⟩ := (hears_cons_iff _ _ _ (f, "") said).mp hhears
                exact ⟨said, between, hsaid, htake, hrest⟩
              · rintro ⟨said, between, hsaid, htake, hrest⟩
                exact ⟨_, ⟨said, hsaid, rfl⟩,
                  (hears_cons_iff _ _ _ (f, "") said).mpr ⟨between, htake, hrest⟩⟩
            rw [hlater]
            rw [bind_eq_ok_iff]
            constructor
            · rintro ⟨between, htake, hread⟩
              obtain ⟨said, hsaid, hhears⟩ :=
                (ih between fun _ => pending_of_take _ _ _ _ _ htake).mp hread
              exact ⟨said, between, hsaid, htake, hhears⟩
            · rintro ⟨said, between, hsaid, htake, hhears⟩
              exact ⟨between, htake,
                (ih between fun _ => pending_of_take _ _ _ _ _ htake).mpr ⟨said, hsaid, hhears⟩⟩

end Draft

/-! ## §3. One argument of an upload. -/

theorem shape_eq_hyphens_iff (argument : String) :
    Shape.of argument = .hyphens ↔ argument = "--" := by
  unfold Shape.of
  rw [← String.toList_inj]
  split <;> simp_all

theorem letters_ne_nil (argument : String) (rest : List Char)
    (h : Shape.of argument = .letters rest) : rest ≠ [] := by
  rintro rfl
  unfold Shape.of at h
  split at h <;> simp_all

/-- **All that can become of an argument**: what it says is heard, or it is the value of a flag,
or it is two hyphens after which nothing comes. -/
theorem readUpload_cons_eq_ok_iff (d d' : Draft) (argument : String) (line : List String) :
    readUpload false d (argument :: line) = .ok d'
      ↔ (∃ between, (∃ said, says? argument = some said ∧ d.Hears .upload said between)
          ∧ readUpload false between line = .ok d')
        ∨ (IsValue argument ∧ ∃ f, d.pending = some (f, none)
          ∧ readUpload false { d with pending := some (f, some argument) } line = .ok d')
        ∨ (argument = "--" ∧ line = [] ∧ d.resolve .upload = .ok d') := by
  have hhyphens := shape_eq_hyphens_iff argument
  have hother : Shape.of argument ≠ .hyphens → argument ≠ "--" := fun h heq => h (hhyphens.mpr heq)
  rw [readUpload]
  unfold says? IsValue
  cases hshape : Shape.of argument with
  | hyphens =>
      have hargument := hhyphens.mp hshape
      cases line with
      | nil => simp [readUpload, hargument]
      | cons next line => simp [readUpload]
  | word rest =>
      have hargument : argument ≠ "--" := hother (by rw [hshape]; simp)
      simp only [bind_eq_ok_iff, d.readWord_eq_ok_iff .upload _ rest]
      simp only [hargument, reduceCtorEq, false_and, or_false]
  | letters rest =>
      have hargument : argument ≠ "--" := hother (by rw [hshape]; simp)
      have hrest := letters_ne_nil argument rest hshape
      simp only [bind_eq_ok_iff, d.readLetters_eq_ok_iff .upload _ rest fun h => absurd h hrest]
      simp only [hargument, reduceCtorEq, false_and, or_false]
  | plain =>
      have hargument : argument ≠ "--" := hother (by rw [hshape]; simp)
      rcases hpending : d.pending with _ | ⟨f, _ | value⟩ <;> simp [hargument]

/-! ## §4. Whole command lines. -/

/-- **How settings are spelled.**  The flag, if there is one, awaits its value. -/
inductive Spells : Option Flag → List String → List Setting → Prop
  /-- Nothing is left. -/
  | nil : Spells none [] []
  /-- Two hyphens, after which nothing comes. -/
  | ended : Spells none ["--"] []
  /-- An argument that says something. -/
  | said {argument said line ss} (h : says? argument = some said)
      (hrest : Spells said.awaited line ss) : Spells none (argument :: line) (said.settings ++ ss)
  /-- The value of the flag that awaits one. -/
  | value {f argument line ss} (h : IsValue argument) (hrest : Spells none line ss) :
      Spells (some f) (argument :: line) ((f, argument) :: ss)

open Draft in
/-- **An upload is read as the settings that it spells**, stored in order. -/
theorem readUpload_eq_ok_iff (line : List String) (d d' : Draft) :
    readUpload false d line = .ok d'
      ↔ ∃ ss, Spells d.awaited line ss
        ∧ d.settled.storeAll .upload (d.ahead ++ ss) = .ok d' := by
  induction line generalizing d with
  | nil =>
      rw [readUpload, resolve_eq_ok_iff]
      constructor
      · rintro ⟨hawaited, h⟩
        rw [hawaited]
        exact ⟨[], .nil, (List.append_nil d.ahead).symm ▸ h⟩
      · rintro ⟨ss, hspells, h⟩
        cases hawaited : d.awaited with
        | none =>
            rw [hawaited] at hspells
            cases hspells
            exact ⟨rfl, (List.append_nil d.ahead) ▸ h⟩
        | some f =>
            rw [hawaited] at hspells
            cases hspells
  | cons argument line ih =>
      rw [readUpload_cons_eq_ok_iff]
      constructor
      · rintro (⟨-, ⟨said, hsaid, before, after, hbefore, hafter, rfl⟩, h⟩
          | ⟨hvalue, f, hpending, h⟩ | ⟨rfl, rfl, h⟩)
        · obtain ⟨hawaited, hahead⟩ := (resolve_eq_ok_iff _ _ _).mp hbefore
          obtain ⟨ss, hspells, hss⟩ := (ih _).mp h
          have hpending : after.pending = none := by
            rw [pending_of_storeAll _ _ _ _ hafter, pending_of_resolve _ _ _ hbefore]
          rw [awaited_awaiting] at hspells
          rw [ahead_awaiting, settled_awaiting, settled_of_pending after hpending] at hss
          rw [hawaited]
          refine ⟨said.settings ++ ss, .said hsaid hspells, ?_⟩
          exact (storeAll_append_eq_ok_iff _ _ _ _ _).mpr ⟨before, hahead,
            (storeAll_append_eq_ok_iff _ _ _ _ _).mpr ⟨after, hafter, hss⟩⟩
        · obtain ⟨ss, hspells, hss⟩ := (ih _).mp h
          have hawaited := (awaited_eq_some_iff d f).mpr hpending
          rw [hawaited, ahead_of_awaited d f hawaited]
          exact ⟨(f, argument) :: ss, .value hvalue hspells, hss⟩
        · obtain ⟨hawaited, hahead⟩ := (resolve_eq_ok_iff _ _ _).mp h
          rw [hawaited]
          exact ⟨[], .ended, (List.append_nil d.ahead).symm ▸ hahead⟩
      · rintro ⟨ss, hspells, h⟩
        generalize hawaited : d.awaited = awaited at hspells
        obtain ⟨before, hahead, h⟩ := (storeAll_append_eq_ok_iff _ _ _ _ _).mp h
        have hbefore : awaited = none → d.resolve .upload = .ok before := fun hnone =>
          (resolve_eq_ok_iff _ _ _).mpr ⟨hawaited.trans hnone, hahead⟩
        cases hspells with
        | ended =>
            cases h
            exact Or.inr (Or.inr ⟨rfl, rfl, hbefore rfl⟩)
        | @said _ said _ ss hsaid hspells =>
            obtain ⟨after, hafter, h⟩ := (storeAll_append_eq_ok_iff _ _ _ _ _).mp h
            have hpending : after.pending = none := by
              rw [pending_of_storeAll _ _ _ _ hafter, pending_of_resolve _ _ _ (hbefore rfl)]
            refine Or.inl ⟨_, ⟨said, hsaid, before, after, hbefore rfl, hafter, rfl⟩,
              (ih _).mpr ⟨ss, ?_, ?_⟩⟩
            · rw [awaited_awaiting]
              exact hspells
            · rw [ahead_awaiting, settled_awaiting, settled_of_pending after hpending]
              exact h
        | @value f _ _ ss hvalue hspells =>
            rw [ahead_of_awaited d f hawaited] at hahead
            cases hahead
            exact Or.inr (Or.inl ⟨hvalue, f, (awaited_eq_some_iff d f).mp hawaited,
              (ih _).mpr ⟨ss, hspells, h⟩⟩)

/-! ## §5. Before the command. -/

theorem eq_of_named? (argument : String) (command : Command)
    (h : Command.named? argument = some command) :
    (argument = "upload" ∧ command = .upload) ∨ (argument = "help" ∧ command = .help) := by
  unfold Command.named? at h
  split at h
  · next heq =>
    cases h
    exact Or.inl ⟨by simpa using heq, rfl⟩
  · split at h
    · next heq =>
      cases h
      exact Or.inr ⟨by simpa using heq, rfl⟩
    · cases h

/-- What looks like a flag names no command. -/
theorem named?_of_foreign (argument : String) (h : Foreign argument) :
    Command.named? argument = none := by
  obtain ⟨rest, hshape, -⟩ := h
  cases hnamed : Command.named? argument with
  | none => rfl
  | some command =>
      rcases eq_of_named? argument command hnamed with ⟨rfl, -⟩ | ⟨rfl, -⟩ <;> cases hshape

theorem not_foreign_of_shape (argument : String) (h : ∀ rest, Shape.of argument ≠ .word rest) :
    ¬ Foreign argument := by
  rintro ⟨rest, hshape, -⟩
  exact h rest hshape

/-- What is read before a command is named is not foreign there. -/
theorem not_foreign_of_word (argument : String) (rest : List Char) (d d' : Draft)
    (hshape : Shape.of argument = .word rest) (h : d.readWord .root rest = .ok d') :
    ¬ Foreign argument := by
  obtain ⟨said, hsaid, -⟩ := (d.readWord_eq_ok_iff _ _ _).mp h
  rintro ⟨rest', heq, hnone⟩
  rw [hshape] at heq
  cases heq
  rw [hsaid] at hnone
  cases hnone

/-- **An argument that names no command is a flag of the program.** -/
theorem readRoot_cons_eq_ok (environment : Option String) (d : Draft) (argument : String)
    (arguments : List String) (a : UploadArguments) (hnamed : Command.named? argument = none)
    (h : readRoot environment false d (argument :: arguments) = .ok a) :
    ∃ next, (∀ line, readRoot environment false d (argument :: line)
        = readRoot environment false next line) ∧ ¬ Foreign argument := by
  rw [readRoot, hnamed] at h
  cases hshape : Shape.of argument with
  | hyphens =>
      rw [hshape] at h
      cases arguments <;> cases h
  | plain =>
      rw [hshape] at h
      cases h
  | word rest =>
      rw [hshape] at h
      obtain ⟨next, hread, -⟩ := (bind_eq_ok_iff _ _ _).mp h
      refine ⟨next, fun line => ?_, not_foreign_of_word argument rest d next hshape hread⟩
      rw [readRoot, hnamed, hshape]
      simp only [hread]
      rfl
  | letters rest =>
      rw [hshape] at h
      obtain ⟨next, hread, -⟩ := (bind_eq_ok_iff _ _ _).mp h
      refine ⟨next, fun line => ?_, not_foreign_of_shape argument (by simp [hshape])⟩
      rw [readRoot, hnamed, hshape]
      simp only [hread]
      rfl

/-- **An upload has its arguments after its name.**  What stands before tells only whether the
run is to be quiet. -/
theorem readRoot_eq_ok (environment : Option String) (ended : Bool) (d : Draft)
    (arguments : List String) (a : UploadArguments)
    (h : readRoot environment ended d arguments = .ok a) :
    ∃ before line quiet, arguments = before ++ "upload" :: line ∧ "upload" ∉ before
      ∧ (∀ argument ∈ before, ¬ Foreign argument)
      ∧ ∀ line', readRoot environment ended d (before ++ "upload" :: line')
        = (readUpload false .empty line' >>= fun d' => d'.finish environment quiet) := by
  induction arguments generalizing d ended with
  | nil => cases ended <;> cases h
  | cons argument arguments ih =>
      cases ended with
      | true => cases h
      | false =>
          cases hnamed : Command.named? argument with
          | some command =>
              rcases eq_of_named? argument command hnamed with ⟨rfl, rfl⟩ | ⟨rfl, rfl⟩
              · exact ⟨[], arguments, d.given.contains .quiet, rfl, List.not_mem_nil,
                  List.forall_mem_nil _, fun _ => rfl⟩
              · cases h
          | none =>
              -- the argument is a flag of the program, and the command comes later
              obtain ⟨next, hnext, hforeign⟩ :=
                readRoot_cons_eq_ok environment d argument arguments a hnamed h
              rw [hnext] at h
              obtain ⟨before, line, quiet, rfl, hupload, hbefore, hlines⟩ := ih false next h
              refine ⟨argument :: before, line, quiet, rfl, ?_,
                List.forall_mem_cons.mpr ⟨hforeign, hbefore⟩, fun line' => ?_⟩
              · intro hmem
                rcases List.mem_cons.mp hmem with rfl | hmem
                · cases hnamed
                · exact hupload hmem
              · rw [List.cons_append, hnext]
                exact hlines line'

end FormUpload.CommandLine
