import FormUpload.Proofs.CommandLine.Spelling

/-!
# Asking for help

Help and the version are faults that end a run with exit code 0.  They come only where they
are asked for; what waits to be looked at never asks, since it takes a value:

    store_unanswered       no other flag is answered with help
    readWord_unanswered    only two whole words ask
    readLetters_unanswered only the letters of the two flags ask
    readUpload_unanswered  an upload that does not ask gets no help
    exitCode_eq_two_iff    what is no answer has exit code 2
-/

namespace FormUpload.CommandLine

open FormUpload.Text

/-- Whether letters ask for help or for the version.  Only the letter that asks for quiet may
come before. -/
def asksByLetter (cs : List Char) : Bool :=
  match cs.dropWhile (· == 'q') with
  | 'h' :: _ => true
  | 'V' :: _ => true
  | _ => false

/-- Whether an argument asks for help or for the version. -/
def asks (argument : String) : Bool :=
  match Shape.of argument with
  | .word rest => rest == "help".toList || rest == "version".toList
  | .letters rest => asksByLetter rest
  | _ => false

/-- What is no answer has exit code 2. -/
theorem UsageFault.exitCode_eq_two_iff (fault : UsageFault) :
    fault.exitCode = 2 ↔ fault.isAnswer = false := by
  unfold UsageFault.exitCode
  cases fault.isAnswer <;> simp

namespace Draft

/-! ## §1. Flags. -/

/-- What waits takes a value. -/
def Waits (d : Draft) : Prop := ∀ f value, d.pending = some (f, value) → f.takesValue = true

theorem Waits.of_pending {d : Draft} (h : d.pending = none) : d.Waits := by
  intro f value hpending
  rw [h] at hpending
  cases hpending

variable {command : Command} {d d' : Draft} {fault : UsageFault}

/-- **No other flag is answered with help.** -/
theorem store_unanswered {f : Flag} {value : String} (hhelp : f ≠ .help)
    (hversion : f ≠ .version) (h : d.store command f value = .error fault) :
    fault.isAnswer = false := by
  unfold store at h
  split at h
  · cases h
    rfl
  · cases f with
    | endpoint | quiet | acceptErrorStatus => cases h
    | field | file | timeout =>
        dsimp only at h
        split at h <;> cases h
        rfl
    | help => exact absurd rfl hhelp
    | version => exact absurd rfl hversion

/-- A flag that takes a value is none that asks. -/
theorem store_unanswered_of_takes {f : Flag} {value : String} (htakes : f.takesValue = true)
    (h : d.store command f value = .error fault) : fault.isAnswer = false := by
  refine store_unanswered ?_ ?_ h
  · rintro rfl
    cases htakes
  · rintro rfl
    cases htakes

theorem resolve_unanswered (hd : d.Waits) (h : d.resolve command = .error fault) :
    fault.isAnswer = false := by
  unfold resolve at h
  split at h
  · cases h
  · cases h
    rfl
  · next f value hpending => exact store_unanswered_of_takes (hd f _ hpending) h

theorem take_unanswered {f : Flag} {value : String} (hd : d.Waits) (hhelp : f ≠ .help)
    (hversion : f ≠ .version) (h : d.take command f value = .error fault) :
    fault.isAnswer = false := by
  rcases (bind_eq_error_iff _ _ _).mp h with h | ⟨before, -, h⟩
  · exact resolve_unanswered hd h
  · exact store_unanswered hhelp hversion h

theorem await_unanswered {f : Flag} (hd : d.Waits) (h : d.await command f = .error fault) :
    fault.isAnswer = false := by
  rcases (bind_eq_error_iff _ _ _).mp h with h | ⟨before, -, h⟩
  · exact resolve_unanswered hd h
  · cases h

/-! ## §2. Arguments. -/

/-- **Only two whole words ask.** -/
theorem readWord_unanswered {cs : List Char} (hd : d.Waits) (hhelp : cs ≠ "help".toList)
    (hversion : cs ≠ "version".toList) (h : d.readWord command cs = .error fault) :
    fault.isAnswer = false := by
  unfold readWord at h
  dsimp only at h
  split at h
  · cases h
    unfold unknownWord
    split <;> rfl
  · next f hf =>
    have hword : f.word = String.ofList (cutEquals cs).1 := by simpa using List.find?_some hf
    have htaking : f.takesValue = true → f ≠ .help ∧ f ≠ .version := by
      intro htakes
      constructor <;> rintro rfl <;> cases htakes
    split at h
    · next htakes _ => exact take_unanswered hd (htaking htakes).1 (htaking htakes).2 h
    · exact await_unanswered hd h
    · cases h
      rfl
    · next hvalue =>
      -- without an equals sign the word is everything
      have hcs : (cutEquals cs).1 = cs := by
        unfold cutEquals at hvalue ⊢
        split at hvalue
        · cases hvalue
        · rfl
      rw [hcs] at hword
      refine take_unanswered hd ?_ ?_ h
      · rintro rfl
        rw [← String.toList_inj, String.toList_ofList] at hword
        exact hhelp hword.symm
      · rintro rfl
        rw [← String.toList_inj, String.toList_ofList] at hword
        exact hversion hword.symm

/-- **Only the letters of the two flags ask.** -/
theorem readLetters_unanswered {cs : List Char} (hd : d.Waits)
    (hasks : asksByLetter cs = false) (h : d.readLetters command cs = .error fault) :
    fault.isAnswer = false := by
  induction cs generalizing d with
  | nil => cases h
  | cons c r ih =>
      rw [readLetters] at h
      split at h
      · cases h
        rfl
      · next f hf =>
        have hletter : f.letter? = some c := by simpa using List.find?_some hf
        have hhelp : f ≠ .help := by
          rintro rfl
          cases hletter
          cases hasks
        have hversion : f ≠ .version := by
          rintro rfl
          cases hletter
          cases hasks
        split at h
        · split at h
          · exact await_unanswered hd h
          · exact take_unanswered hd hhelp hversion h
          · exact take_unanswered hd hhelp hversion h
        · next htakes =>
          rcases (bind_eq_error_iff _ _ _).mp h with h | ⟨between, htake, h⟩
          · exact take_unanswered hd hhelp hversion h
          · -- of the flags without a value only the one for quiet is left
            obtain rfl : c = 'q' := by
              cases f with
              | quiet => exact (Option.some.inj hletter).symm
              | help => exact absurd rfl hhelp
              | version => exact absurd rfl hversion
              | acceptErrorStatus => cases hletter
              | endpoint | field | file | timeout => exact absurd rfl htakes
            exact ih (.of_pending (pending_of_take _ _ _ _ _ htake)) hasks h

/-- What waits after an argument takes a value. -/
theorem Waits.of_hears {said : Said} (h : d.Hears command said d')
    (hsaid : ∀ f, said.awaited = some f → f.takesValue = true) : d'.Waits := by
  obtain ⟨before, after, -, -, rfl⟩ := h
  intro f value hpending
  obtain ⟨g, hg, heq⟩ := Option.map_eq_some_iff.mp hpending
  cases heq
  exact hsaid f hg

end Draft

theorem takes_of_sayWord? {command : Command} {cs : List Char} {said : Said}
    (h : sayWord? command cs = some said) (f : Flag) (hf : said.awaited = some f) :
    f.takesValue = true := by
  unfold sayWord? at h
  split at h
  · cases h
  · next g hg =>
    split at h <;> cases h <;> cases hf
    assumption

theorem takes_of_sayLetters? {command : Command} {cs : List Char} {said : Said}
    (h : sayLetters? command cs = some said) (f : Flag) (hf : said.awaited = some f) :
    f.takesValue = true := by
  induction cs generalizing said with
  | nil =>
      cases h
      cases hf
  | cons c r ih =>
      rw [sayLetters?] at h
      split at h
      · cases h
      · next g hg =>
        split at h
        · next htakes =>
          split at h <;> cases h <;> cases hf
          exact htakes
        · obtain ⟨said', hsaid', rfl⟩ := Option.map_eq_some_iff.mp h
          exact ih hsaid' hf

/-! ## §3. Command lines. -/

section Shapes

variable {command : Command} {d d' : Draft} {argument : String} {rest : List Char}
  {fault : UsageFault}

theorem unanswered_of_word (hd : d.Waits) (hasks : asks argument = false)
    (hshape : Shape.of argument = .word rest) (h : d.readWord command rest = .error fault) :
    fault.isAnswer = false := by
  unfold asks at hasks
  rw [hshape] at hasks
  have hrest : rest ≠ "help".toList ∧ rest ≠ "version".toList := by
    simpa using hasks
  exact Draft.readWord_unanswered hd hrest.1 hrest.2 h

theorem unanswered_of_letters (hd : d.Waits) (hasks : asks argument = false)
    (hshape : Shape.of argument = .letters rest)
    (h : d.readLetters command rest = .error fault) : fault.isAnswer = false := by
  unfold asks at hasks
  rw [hshape] at hasks
  exact Draft.readLetters_unanswered hd hasks h

theorem waits_of_word (h : d.readWord command rest = .ok d') : d'.Waits := by
  obtain ⟨said, hsaid, hhears⟩ := (d.readWord_eq_ok_iff _ _ _).mp h
  exact .of_hears hhears (takes_of_sayWord? hsaid)

theorem waits_of_letters (hshape : Shape.of argument = .letters rest)
    (h : d.readLetters command rest = .ok d') : d'.Waits := by
  have hrest : rest = [] → d.pending = none := fun h => absurd h (letters_ne_nil _ _ hshape)
  obtain ⟨said, hsaid, hhears⟩ := (d.readLetters_eq_ok_iff _ _ _ hrest).mp h
  exact .of_hears hhears (takes_of_sayLetters? hsaid)

end Shapes

/-- **An upload that does not ask gets no help.** -/
theorem readUpload_unanswered (line : List String) (d : Draft) (hd : d.Waits)
    (hasks : ∀ argument ∈ line, asks argument = false) (fault : UsageFault)
    (h : readUpload false d line = .error fault) : fault.isAnswer = false := by
  induction line generalizing d with
  | nil => exact Draft.resolve_unanswered hd h
  | cons argument line ih =>
      obtain ⟨hargument, hline⟩ := List.forall_mem_cons.mp hasks
      rw [readUpload] at h
      cases hshape : Shape.of argument with
      | hyphens =>
          rw [hshape] at h
          cases line with
          | nil => exact Draft.resolve_unanswered hd h
          | cons next line =>
              cases h
              rfl
      | word rest =>
          rw [hshape] at h
          rcases (bind_eq_error_iff _ _ _).mp h with h | ⟨next, hnext, h⟩
          · exact unanswered_of_word hd hargument hshape h
          · exact ih next (waits_of_word hnext) hline h
      | letters rest =>
          rw [hshape] at h
          rcases (bind_eq_error_iff _ _ _).mp h with h | ⟨next, hnext, h⟩
          · exact unanswered_of_letters hd hargument hshape h
          · exact ih next (waits_of_letters hshape hnext) hline h
      | plain =>
          rw [hshape] at h
          dsimp only at h
          split at h
          · next f hpending =>
            refine ih _ ?_ hline h
            intro g value heq
            cases heq
            exact hd f _ hpending
          · cases h
            rfl

/-- Help about what is no command is no help. -/
theorem readHelp_unanswered (command : Command) (arguments : List String)
    (hforeign : ∃ argument ∈ arguments, Foreign argument) :
    (readHelp command arguments).isAnswer = false := by
  induction arguments generalizing command with
  | nil =>
      obtain ⟨argument, hmem, -⟩ := hforeign
      cases hmem
  | cons first arguments ih =>
      unfold readHelp
      split
      · next c hnamed =>
        refine ih c ?_
        obtain ⟨argument, hmem, hargument⟩ := hforeign
        rcases List.mem_cons.mp hmem with rfl | hmem
        · rw [named?_of_foreign argument hargument] at hnamed
          cases hnamed
        · exact ⟨argument, hmem, hargument⟩
      · rfl

/-- **A command line that does not ask gets no help**, if it has a flag that only a command
knows. -/
theorem readRoot_unanswered (environment : Option String) (ended : Bool)
    (arguments : List String) (d : Draft) (hd : d.Waits)
    (hasks : ∀ argument ∈ arguments, asks argument = false)
    (hforeign : ∃ argument ∈ arguments, Foreign argument) (fault : UsageFault)
    (h : readRoot environment ended d arguments = .error fault) : fault.isAnswer = false := by
  induction arguments generalizing d ended with
  | nil =>
      obtain ⟨argument, hmem, -⟩ := hforeign
      cases hmem
  | cons argument arguments ih =>
      obtain ⟨hargument, hlater⟩ := List.forall_mem_cons.mp hasks
      cases ended with
      | true =>
          rw [readRoot] at h
          cases h
          split <;> rfl
      | false =>
          have hmore : ¬ Foreign argument → ∃ later ∈ arguments, Foreign later := by
            intro hno
            obtain ⟨later, hmem, hlater⟩ := hforeign
            rcases List.mem_cons.mp hmem with rfl | hmem
            · exact absurd hlater hno
            · exact ⟨later, hmem, hlater⟩
          rw [readRoot] at h
          cases hnamed : Command.named? argument with
          | some command =>
              have hno : ¬ Foreign argument := fun hf => by
                rw [named?_of_foreign argument hf] at hnamed
                cases hnamed
              rw [hnamed] at h
              rcases eq_of_named? argument command hnamed with ⟨-, rfl⟩ | ⟨-, rfl⟩
              · rcases (bind_eq_error_iff _ _ _).mp h with h | ⟨d', -, h⟩
                · exact readUpload_unanswered arguments .empty (.of_pending rfl) hlater fault h
                · unfold Draft.finish at h
                  split at h <;> cases h
                  rfl
              · cases h
                exact readHelp_unanswered .root arguments (hmore hno)
          | none =>
              rw [hnamed] at h
              cases hshape : Shape.of argument with
              | hyphens =>
                  rw [hshape] at h
                  have hno := not_foreign_of_shape argument (by simp [hshape])
                  exact ih true d hd hlater (hmore hno) h
              | word rest =>
                  rw [hshape] at h
                  rcases (bind_eq_error_iff _ _ _).mp h with h | ⟨next, hnext, h⟩
                  · exact unanswered_of_word hd hargument hshape h
                  · have hno := not_foreign_of_word argument rest d next hshape hnext
                    exact ih false next (waits_of_word hnext) hlater (hmore hno) h
              | letters rest =>
                  rw [hshape] at h
                  rcases (bind_eq_error_iff _ _ _).mp h with h | ⟨next, hnext, h⟩
                  · exact unanswered_of_letters hd hargument hshape h
                  · have hno := not_foreign_of_shape argument (by simp [hshape])
                    exact ih false next (waits_of_letters hshape hnext) hlater (hmore hno) h
              | plain =>
                  rw [hshape] at h
                  cases h
                  rfl

end FormUpload.CommandLine
