import FormUpload.Proofs.CommandLine.Asking
import FormUpload.Proofs.CommandLine.Verdict
import FormUpload.Proofs.Uploader.Requests

/-!
# Fields and files among other arguments

Items may stand anywhere among the arguments of an upload where a flag may stand (`Mixed`).
They are read apart from the rest, and what they come to is the form:

    spells_of_mixed      a mixed line says the rest and the items, each in order
    readUpload_of_mixed  it is read as the rest is, with what the items name
    items_make_the_form  the form has the fields in order, then the files in order

An item that is no name and value is an error, whatever stands around it.
-/

namespace FormUpload.CommandLine

open FormUpload.Text
open FormUpload.Multipart (Boundary)

/-! ## §1. Items. -/

/-- A field or a file that a command line names. -/
inductive Item where
  | field (text : String)
  | file (text : String)
deriving DecidableEq

namespace Item

/-- What stands after the equals sign of the flag. -/
def text : Item → String
  | .field text => text
  | .file text => text

/-- The flag that an item is given with. -/
def flag : Item → Flag
  | .field _ => .field
  | .file _ => .file

/-- The argument that an item is. -/
def argument : Item → String
  | .field text => "--field=" ++ text
  | .file text => "--file=" ++ text

/-- The setting that an item says. -/
def setting (i : Item) : Setting := (i.flag, i.text)

theorem isRepeatable_flag (i : Item) : i.flag.isRepeatable = true := by
  cases i <;> rfl

theorem shape_argument (i : Item) :
    Shape.of i.argument = .word ((i.flag.word ++ "=" ++ i.text).toList) := by
  cases i with
  | field text | file text =>
      unfold Shape.of argument
      rw [String.toList_append, flag, Item.text, String.toList_append]
      rfl

/-- The flag of an item is its name, and the text its value. -/
theorem cutEquals_argument (i : Item) :
    Draft.cutEquals (i.flag.word ++ "=" ++ i.text).toList
      = (i.flag.word.toList, some i.text.toList) := by
  have hwritten : Written (i.flag.word ++ "=" ++ i.text) i.flag.word i.text := by
    refine ⟨?_, ?_, rfl⟩ <;> cases i <;> simp [flag, Flag.word]
  unfold Draft.cutEquals
  rw [hwritten.cutWhere_eq]

/-- **An item says itself**, and waits for nothing. -/
theorem says?_argument (i : Item) : says? i.argument = some ⟨[i.setting], none⟩ := by
  have hfind : Command.upload.flags.find? (·.word == i.flag.word) = some i.flag := by
    cases i <;> rfl
  have htakes : i.flag.takesValue = true := by
    cases i <;> rfl
  unfold says?
  rw [shape_argument]
  show sayWord? .upload (i.flag.word ++ "=" ++ i.text).toList = _
  unfold sayWord?
  rw [cutEquals_argument, String.ofList_toList, hfind]
  simp only [htakes, String.ofList_toList]
  rfl

/-- Only the upload knows items. -/
theorem foreign_argument (i : Item) : Foreign i.argument := by
  refine ⟨_, shape_argument i, ?_⟩
  unfold sayWord?
  rw [cutEquals_argument, String.ofList_toList]
  cases i <;> rfl

end Item

/-- The texts of the items with a flag, in order. -/
def texts (f : Flag) (items : List Item) : List String :=
  (items.filter fun i => i.flag = f).map Item.text

/-! ## §2. Lines with items. -/

/-- **The arguments of an upload with items among them.**  Items stand in their order, but not
between a flag and its value, and not after two hyphens. -/
inductive Mixed : (rest : List String) → List Item → (line : List String) → Prop
  | nil : Mixed [] [] []
  /-- Two hyphens, and no items after them. -/
  | ended (rest : List String) : Mixed ("--" :: rest) [] ("--" :: rest)
  | item (i : Item) {rest items line} (h : Mixed rest items line) :
      Mixed rest (i :: items) (i.argument :: line)
  /-- An argument whose value, if it takes one, is in it. -/
  | alone {argument rest items line} (hflag : argument ≠ "--") (hawaits : ¬ Awaits argument)
      (h : Mixed rest items line) : Mixed (argument :: rest) items (argument :: line)
  /-- A flag and its value. -/
  | pair {argument value rest items line} (hawaits : Awaits argument)
      (h : Mixed rest items line) :
      Mixed (argument :: value :: rest) items (argument :: value :: line)

/-- Settings that are some settings without fields and files, and some items, each in order. -/
structure Merges (ss : List Setting) (items : List Item) (mixed : List Setting) : Prop where
  rest : mixed.filter (fun s => !s.1.isRepeatable) = ss
  items : mixed.filter (fun s => s.1.isRepeatable) = items.map Item.setting

theorem Merges.nil : Merges [] [] [] := ⟨rfl, rfl⟩

theorem Merges.item {ss mixed : List Setting} {items : List Item} (h : Merges ss items mixed)
    (i : Item) : Merges ss (i :: items) (i.setting :: mixed) := by
  have hi : i.setting.1.isRepeatable = true := i.isRepeatable_flag
  refine ⟨?_, ?_⟩
  · rw [List.filter_cons_of_neg (by simp [hi]), h.rest]
  · rw [List.filter_cons_of_pos (p := fun s : Setting => s.1.isRepeatable) hi, h.items]
    rfl

theorem Merges.append {ss mixed : List Setting} {items : List Item} (h : Merges ss items mixed)
    (said : List Setting) (hsaid : ∀ s ∈ said, s.1.isRepeatable = false) :
    Merges (said ++ ss) items (said ++ mixed) := by
  have hkept : said.filter (fun s => !s.1.isRepeatable) = said :=
    List.filter_eq_self.mpr fun s hs => by simp [hsaid s hs]
  have hdropped : said.filter (fun s => s.1.isRepeatable) = [] :=
    List.filter_eq_nil_iff.mpr fun s hs => by simp [hsaid s hs]
  refine ⟨?_, ?_⟩
  · rw [List.filter_append, hkept, h.rest]
  · rw [List.filter_append, hdropped, h.items, List.nil_append]

/-- **A mixed line says the rest and the items**, each in order. -/
theorem spells_of_mixed {rest line : List String} {items : List Item} {ss : List Setting}
    (h : Mixed rest items line) (hrest : Spells none rest ss)
    (hss : ∀ s ∈ ss, s.1.isRepeatable = false) :
    ∃ mixed, Spells none line mixed ∧ Merges ss items mixed := by
  induction h generalizing ss with
  | nil =>
      cases hrest
      exact ⟨[], .nil, .nil⟩
  | ended rest =>
      have hplain := Merges.nil.append ss hss
      rw [List.append_nil] at hplain
      exact ⟨ss, hrest, hplain⟩
  | @item i rest items line _ ih =>
      obtain ⟨mixed, hmixed, hmerges⟩ := ih hrest hss
      exact ⟨i.setting :: mixed, .said i.says?_argument hmixed, hmerges.item i⟩
  | @alone argument rest items line hflag hawaits _ ih =>
      cases hrest with
      | ended => exact absurd rfl hflag
      | @said _ said _ later hsaid hspells =>
          have hnone : said.awaited = none := by
            cases hawaited : said.awaited with
            | none => rfl
            | some f => exact absurd (by simp [Awaits, hsaid, hawaited]) hawaits
          rw [hnone] at hspells
          rw [List.forall_mem_append] at hss
          obtain ⟨mixed, hmixed, hmerges⟩ := ih hspells hss.2
          exact ⟨said.settings ++ mixed, .said hsaid (hnone ▸ hmixed),
            hmerges.append said.settings hss.1⟩
  | @pair argument value rest items line hawaits _ ih =>
      cases hrest with
      | @said _ said _ later hsaid hspells =>
          obtain ⟨f, hf⟩ : ∃ f, said.awaited = some f := by
            rw [Awaits, hsaid] at hawaits
            exact Option.isSome_iff_exists.mp hawaits
          rw [hf] at hspells
          cases hspells with
          | @value _ _ _ later hvalue hspells =>
              rw [List.forall_mem_append, List.forall_mem_cons] at hss
              obtain ⟨hsettings, hvalued, hlater⟩ := hss
              obtain ⟨mixed, hmixed, hmerges⟩ := ih hspells hlater
              have hpair := hmerges.append [(f, value)] (List.forall_mem_singleton.mpr hvalued)
              exact ⟨said.settings ++ (f, value) :: mixed,
                .said hsaid (hf ▸ .value hvalue hmixed), hpair.append said.settings hsettings⟩

/-! ## §3. Reading a mixed line. -/

/-- The texts with a flag that a mixed line says are those of the items. -/
theorem Merges.texts {ss mixed : List Setting} {items : List Item} (h : Merges ss items mixed)
    (f : Flag) (hf : f.isRepeatable = true) :
    (mixed.filter (·.1 = f)).map Prod.snd = texts f items := by
  have hcollected : mixed.filter (·.1 = f)
      = (mixed.filter fun s => s.1.isRepeatable).filter (·.1 = f) := by
    rw [List.filter_filter]
    refine List.filter_congr fun s _ => ?_
    by_cases hs : s.1 = f
    · simp [hs, hf]
    · simp [hs]
  rw [hcollected, h.items, List.filter_map, List.map_map]
  rfl

/-- What collects nothing has no fields and no files. -/
theorem not_collected {d : Draft} {ss : List Setting}
    (h : Draft.empty.storeAll .upload ss = .ok d) (hfields : d.fields = [])
    (hfiles : d.files = []) : ∀ s ∈ ss, s.1.isRepeatable = false := by
  have hnone : ∀ f : Flag, f.isRepeatable = true → d.pairs f = [] → ∀ s ∈ ss, s.1 ≠ f := by
    intro f hf hpairs s hs heq
    obtain ⟨pairs, hmore, hwritten⟩ := Draft.pairs_of_storeAll _ _ _ _ h f hf
    rw [hpairs] at hmore
    obtain rfl : pairs = [] := (List.append_eq_nil_iff.mp hmore.symm).2
    rw [List.forall₂_nil_right_iff, List.filter_eq_nil_iff] at hwritten
    exact hwritten s hs (by simpa using heq)
  intro s hs
  cases hrepeatable : s.1.isRepeatable with
  | false => rfl
  | true =>
      have hfield := hnone .field rfl hfields s hs
      have hfile := hnone .file rfl hfiles s hs
      simp [Flag.isRepeatable, hfield, hfile] at hrepeatable

/-- Texts that are names and values. -/
abbrev AllWritten (texts : List String) (pairs : List (String × String)) : Prop :=
  List.Forall₂ (fun text pair => Written text pair.1 pair.2) texts pairs

/-- **A mixed line is read as the rest is**, with what the items name. -/
theorem readUpload_of_mixed {rest line : List String} {items : List Item} {e : Draft}
    (h : Mixed rest items line) (hrest : readUpload false .empty rest = .ok e)
    (hfields : e.fields = []) (hfiles : e.files = [])
    (hitems : ∀ i ∈ items, ∃ name value, Written i.text name value) :
    ∃ d, readUpload false .empty line = .ok d ∧ d.Alike e
      ∧ AllWritten (texts .field items) d.fields ∧ AllWritten (texts .file items) d.files := by
  obtain ⟨ss, hspells, hstore⟩ := (readUpload_eq_ok_iff _ _ _).mp hrest
  have hss : Draft.empty.storeAll .upload ss = .ok e := hstore
  obtain ⟨mixed, hmixed, hmerges⟩ :=
    spells_of_mixed h hspells (not_collected hss hfields hfiles)
  have hwritten : ∀ s ∈ mixed, s.1.isRepeatable = true → ∃ name value, Written s.2 name value := by
    intro s hs hrepeatable
    have hitem : s ∈ items.map Item.setting := by
      rw [← hmerges.items]
      exact List.mem_filter.mpr ⟨hs, hrepeatable⟩
    obtain ⟨i, hi, rfl⟩ := List.mem_map.mp hitem
    exact hitems i hi
  rw [← hmerges.rest] at hss
  obtain ⟨d, hd, halike⟩ :=
    Draft.storeAll_of_alike .upload .empty .empty e mixed (.refl _) hwritten hss
  have hcollects : ∀ f : Flag, f.isRepeatable = true → Draft.empty.pairs f = []
      → AllWritten (texts f items) (d.pairs f) := by
    intro f hf hempty
    obtain ⟨pairs, hpairs, hall⟩ := Draft.pairs_of_storeAll _ _ _ _ hd f hf
    rw [hempty, List.nil_append] at hpairs
    rw [hpairs, ← hmerges.texts f hf]
    exact List.forall₂_map_left_iff.mpr hall
  exact ⟨d, (readUpload_eq_ok_iff _ _ _).mpr ⟨mixed, hmixed, hd⟩, halike,
    hcollects .field rfl rfl, hcollects .file rfl rfl⟩

/-- What a draft has collected is what is asked for. -/
theorem collected_of_finish {e : Draft} {environment : Option String} {quiet : Bool}
    {a : UploadArguments} (h : e.finish environment quiet = .ok a) :
    a.fields = e.fields ∧ a.files = e.files := by
  unfold Draft.finish at h
  split at h <;> cases h
  exact ⟨rfl, rfl⟩

/-- **A command line with items asks for what it asks for without them**, and for the items. -/
theorem readArguments_of_mixed {environment : Option String} {before rest line : List String}
    {items : List Item} {a : UploadArguments} (hbefore : "upload" ∉ before)
    (hrest : readArguments environment (before ++ "upload" :: rest) = .ok a)
    (hfields : a.fields = []) (hfiles : a.files = []) (h : Mixed rest items line)
    (hitems : ∀ i ∈ items, ∃ name value, Written i.text name value) :
    ∃ fields files, readArguments environment (before ++ "upload" :: line)
        = .ok { a with fields, files }
      ∧ AllWritten (texts .field items) fields ∧ AllWritten (texts .file items) files := by
  obtain ⟨before', rest', quiet, heq, hbefore', -, hlines⟩ := readRoot_eq_ok _ _ _ _ _ hrest
  -- the first word that is the command's name is the same one
  have hcut : ∀ (start : List String) more, "upload" ∉ start
      → (start ++ "upload" :: more).takeWhile (fun word => word != "upload") = start := by
    intro start more hstart
    refine takeWhile_run _ _ _ (fun word hword => ?_) ((stops_cons _ _ _).mpr rfl)
    exact bne_iff_ne.mpr fun h => hstart (h ▸ hword)
  obtain rfl : before = before' := by
    rw [← hcut before rest hbefore, heq, hcut before' rest' hbefore']
  have hread := (hlines rest).symm.trans hrest
  obtain ⟨e, he, hfinish⟩ := (bind_eq_ok_iff _ _ _).mp hread
  obtain ⟨hsameFields, hsameFiles⟩ := collected_of_finish hfinish
  obtain ⟨d, hd, halike, hwrittenFields, hwrittenFiles⟩ := readUpload_of_mixed h he
    (hsameFields.symm.trans hfields) (hsameFiles.symm.trans hfiles) hitems
  refine ⟨d.fields, d.files, ?_, hwrittenFields, hwrittenFiles⟩
  rw [readArguments, hlines line, bind_eq_ok_iff]
  exact ⟨d, hd, halike.finish environment quiet a hfinish⟩

/-! ## §4. The form of a mixed line. -/

/-- The part of a text field. -/
def FieldPart (text : String) (p : Part) : Prop :=
  ∃ name value, Written text name value ∧ p = .text name value

/-- The part of a file: it has the content that the path leads to, the name of the file in the
path, and the content type that this name stands for. -/
def FilePart (read : FileReader) (text : String) (p : Part) : Prop :=
  ∃ name path fileName content, Written text name path ∧ read (bytesOf path) = .ok content
    ∧ fileName? FileTree.slash FileTree.dot (bytesOf path) = some fileName
    ∧ p = .file name (stringLossy fileName) (some (MediaType.guess (stringLossy fileName))) content

theorem fieldParts_of_written {texts : List String} {fields : List (String × String)}
    (h : AllWritten texts fields) :
    List.Forall₂ FieldPart texts (fields.map fun field => .text field.1 field.2) :=
  List.forall₂_map_right_iff.mpr (h.imp fun _ field hwritten =>
    ⟨field.1, field.2, hwritten, rfl⟩)

/-- Files that were read make their parts. -/
theorem fileParts_of_written {read : FileReader} (hnamed : FileTree.Named read)
    {texts : List String} {files : List (String × String)} {ps : List Part}
    (h : AllWritten texts files) (hparts : fileParts read files = .ok ps) :
    List.Forall₂ (FilePart read) texts ps := by
  have hall := (fileParts_eq_ok_iff read files ps).mp hparts
  clear hparts
  induction h generalizing ps with
  | nil =>
      cases hall
      exact .nil
  | @cons text file texts files hwritten _ ih =>
      cases hall with
      | @cons _ p _ ps hp hrest =>
          refine .cons ?_ (ih hrest)
          obtain ⟨content, hread⟩ := FileTree.read_of_partFrom file.1 (bytesOf file.2) p hp
          obtain ⟨fileName, hname, hpart⟩ :=
            FileTree.partFrom_of_read hnamed file.1 (bytesOf file.2) content hread
          have hsame : Except.ok p = .ok _ := hp.symm.trans hpart
          cases hsame
          exact ⟨file.1, file.2, fileName, content, hwritten, hread, hname, rfl⟩

/-- What holds on the right of a relation holds of everything that it goes through. -/
theorem forall_of_forall₂ {α β : Type} {R : α → β → Prop} {p : β → Prop} {l : List α}
    {r : List β} (h : List.Forall₂ R l r) (hp : ∀ a b, R a b → p b) : ∀ b ∈ r, p b := by
  induction h with
  | nil => exact List.forall_mem_nil _
  | cons hab _ ih => exact List.forall_mem_cons.mpr ⟨hp _ _ hab, ih⟩

/-- What is made of items is accepted. -/
theorem accepted_of_parts {read : FileReader} {fieldTexts fileTexts : List String}
    {fields files : List Part} (hfields : List.Forall₂ FieldPart fieldTexts fields)
    (hfiles : List.Forall₂ (FilePart read) fileTexts files) :
    ∀ p ∈ fields ++ files, Multipart.Accepted p := by
  rw [List.forall_mem_append]
  refine ⟨forall_of_forall₂ hfields fun text p h => ?_,
    forall_of_forall₂ hfiles fun text p h => ?_⟩
  · obtain ⟨name, value, -, rfl⟩ := h
    rfl
  · obtain ⟨name, path, fileName, content, -, -, -, rfl⟩ := h
    exact Multipart.accepted_guessed name (stringLossy fileName) content

/-- A command line that is an upload to an endpoint, with items among its arguments. -/
structure MixedUpload (environment : Option String) (items : List Item)
    (arguments : List String) (a : UploadArguments) (url : Url) : Prop where
  mixed : ∃ before rest line, "upload" ∉ before
    ∧ readArguments environment (before ++ "upload" :: rest) = .ok a
    ∧ Mixed rest items line ∧ arguments = before ++ "upload" :: line
  fields : a.fields = []
  files : a.files = []
  endpoint : readEndpoint a.endpoint = .ok url

/-- **A run sends a form**: it shows the one upload of the form, and if a request can be made at
all, the first one posts it. -/
structure Run.Sends (ran : Run) (u : Uploader) (network : Http.Network) (boundary : Boundary)
    (f : Form) : Prop where
  waits : ((u.withNotifier .direct).submit network boundary f).2.outcome = none → ran = .waiting
  ends : ∀ o, ((u.withNotifier .direct).submit network boundary f).2.outcome = some o →
    ∃ c, ran = .done c
      ∧ c.exchanges = ((u.withNotifier .direct).submit network boundary f).2.exchanges
  posts : Http.isReachable (Http.withoutUser u.lifecycle.endpoint).1 = true →
    ∃ first later,
      ((u.withNotifier .direct).submit network boundary f).2.exchanges = first :: later
        ∧ first.request.Posts u.lifecycle.endpoint
          (Transport.sendable boundary (f.parts.map Multipart.blockFor))

/-- **An upload that has its form sends it.** -/
theorem sends_of_form {environment : Option String} {read : FileReader} {network : Http.Network}
    {boundary : Boundary} {arguments : List String} {a : UploadArguments} {f : Form}
    {u : Uploader} (ha : readArguments environment arguments = .ok a)
    (hform : form read a = .ok f) (hu : Uploader.ofConfig (config a) = .ok u)
    (haccepted : ∀ p ∈ f.parts, Multipart.Accepted p) :
    (run environment read network boundary arguments).Sends u network boundary f := by
  have hran := run_of_readArguments read a network boundary environment arguments ha
  obtain ⟨hwaits, hends⟩ := runUpload_posted read a network boundary f hform u hu
  refine ⟨fun hnone => ?_, fun o ho => ?_, fun hreachable => ?_⟩
  · rw [hran, hwaits hnone]
  · obtain ⟨c, hc, -, hexchanges, -⟩ := hends o ho
    refine ⟨c, ?_, hexchanges⟩
    rw [hran, hc]
  · have hblocks := (Multipart.blocks_eq_ok f.parts _).mpr ⟨haccepted, rfl⟩
    exact (u.withNotifier .direct).posts_of_form ⟨network, boundary, f⟩ _ hblocks hreachable

/-! ## §5. Items that are no name and value. -/

/-- **Whatever a line says, it says its items.** -/
theorem setting_of_spells {awaited : Option Flag} {line : List String} {ss : List Setting}
    (h : Spells awaited line ss) (i : Item) (hi : i.argument ∈ line) : i.setting ∈ ss := by
  induction h with
  | nil => cases hi
  | ended =>
      have hshape := i.shape_argument
      rw [List.mem_singleton.mp hi] at hshape
      cases hshape
  | @said argument said line ss hsaid _ ih =>
      rcases List.mem_cons.mp hi with rfl | hi
      · rw [i.says?_argument] at hsaid
        cases hsaid
        exact List.mem_cons_self
      · exact List.mem_append_right _ (ih hi)
  | @value f argument line ss hvalue _ ih =>
      rcases List.mem_cons.mp hi with rfl | hi
      · rw [IsValue, i.shape_argument] at hvalue
        cases hvalue
      · exact List.mem_cons_of_mem _ (ih hi)

/-- **Whatever is read has well written items.** -/
theorem written_of_readArguments {environment : Option String} {arguments : List String}
    {a : UploadArguments} (h : readArguments environment arguments = .ok a) (i : Item)
    (hi : i.argument ∈ arguments) : ∃ name value, Written i.text name value := by
  obtain ⟨before, line, quiet, rfl, -, hbefore, hlines⟩ := readRoot_eq_ok _ _ _ _ _ h
  have hline : i.argument ∈ line := by
    rcases List.mem_append.mp hi with hi | hi
    · exact absurd i.foreign_argument (hbefore _ hi)
    · rcases List.mem_cons.mp hi with heq | hi
      · have hshape := i.shape_argument
        rw [heq] at hshape
        cases hshape
      · exact hi
  have hread := (hlines line).symm.trans h
  obtain ⟨d, hd, -⟩ := (bind_eq_ok_iff _ _ _).mp hread
  obtain ⟨ss, hspells, hstore⟩ := (readUpload_eq_ok_iff _ _ _).mp hd
  obtain ⟨pairs, -, hwritten⟩ :=
    Draft.pairs_of_storeAll _ _ _ _ hstore i.flag i.isRepeatable_flag
  have hmem : i.setting ∈ ss.filter (·.1 = i.flag) :=
    List.mem_filter.mpr ⟨setting_of_spells hspells i hline, by simp [Item.setting]⟩
  have hall := hwritten.imp fun s pair h =>
    And.intro (show ∃ name value, Written s.2 name value from ⟨pair.1, pair.2, h⟩) h
  exact ((List.forall₂_and_left _ _).mp hall).1 i.setting hmem

/-- **Fields and files make the form, in order.**  Where items stand among the arguments of an
upload, in any order and number, and each is a name and a value and every file can be read,
wherever it is, the form that is sent has the fields in the order of the command line, and then
the files; nothing else that is asked for changes.  Where one of them lacks the equals sign, or
begins with it, the command line is wrong, whatever else is in it, as long as it does not ask for
help: its exit code is 2, and no file is read and no request is made, for any files and any
network. -/
theorem items_make_the_form (environment : Option String) :
    (∀ (read : FileReader) (network : Http.Network) (boundary : Boundary) (items : List Item)
        (arguments : List String) (a : UploadArguments) (url : Url),
      FileTree.Named read → MixedUpload environment items arguments a url
      → (∀ i ∈ items, ∃ name value, Written i.text name value)
      → (∀ text ∈ texts .file items, ∀ name path, Written text name path →
          ∃ content, read (bytesOf path) = .ok content)
      → ∃ fields files b u, List.Forall₂ FieldPart (texts .field items) fields
          ∧ List.Forall₂ (FilePart read) (texts .file items) files
          ∧ readArguments environment arguments = .ok b
          ∧ b = { a with fields := b.fields, files := b.files }
          ∧ form read b = .ok ⟨fields ++ files⟩
          ∧ Uploader.ofConfig (config b) = .ok u ∧ u.lifecycle.endpoint = url
          ∧ (run environment read network boundary arguments).Sends u network boundary
            ⟨fields ++ files⟩)
      ∧ (∀ (arguments : List String) (i : Item), i.argument ∈ arguments
        → ('=' ∉ i.text.toList ∨ i.text.toList.head? = some '=')
        → (∀ argument ∈ arguments, asks argument = false)
        → ∃ fault, (usageConsole environment fault).exitCode = 2
          ∧ (usageConsole environment fault).exchanges = []
          ∧ ∀ (read : FileReader) (network : Http.Network) (boundary : Boundary),
            run environment read network boundary arguments = .usage fault) := by
  constructor
  · intro read network boundary items arguments a url hnamed hmixed hitems hreadable
    obtain ⟨⟨before, rest, line, hbefore, hrest, hline, rfl⟩, hfields, hfiles, hurl⟩ := hmixed
    obtain ⟨fieldPairs, filePairs, hread, hwrittenFields, hwrittenFiles⟩ :=
      readArguments_of_mixed hbefore hrest hfields hfiles hline hitems
    let b : UploadArguments := { a with fields := fieldPairs, files := filePairs }
    have hreadableFiles : Readable read b.files := by
      have hall := (List.forall₂_and_left _ _).mpr ⟨hreadable, hwrittenFiles⟩
      exact forall_of_forall₂ hall fun text file h => h.1 file.1 file.2 h.2
    obtain ⟨files, hparts⟩ : ∃ files, fileParts read b.files = .ok files := by
      obtain ⟨f, hf⟩ := form_of_readable hnamed b hreadableFiles
      unfold form at hf
      split at hf
      · cases hf
      · next files hparts => exact ⟨files, hparts⟩
    let fields : List Part := fieldPairs.map fun field => .text field.1 field.2
    have hform : form read b = .ok ⟨fields ++ files⟩ := by
      unfold form
      rw [hparts]
      rfl
    have hfieldParts : List.Forall₂ FieldPart (texts .field items) fields :=
      fieldParts_of_written hwrittenFields
    have hfileParts := fileParts_of_written hnamed hwrittenFiles hparts
    have hu := ofConfig_config b
    rw [show readEndpoint b.endpoint = .ok url from hurl] at hu
    exact ⟨fields, files, b, _, hfieldParts, hfileParts, hread, rfl, hform, hu, rfl,
      sends_of_form hread hform hu (accepted_of_parts hfieldParts hfileParts)⟩
  · intro arguments i hi hmalformed hasks
    cases hread : readArguments environment arguments with
    | ok a =>
        obtain ⟨hmem, hhead⟩ :=
          (exists_written_iff i.text).mp (written_of_readArguments hread i hi)
        rcases hmalformed with hno | hfirst
        · exact absurd hmem hno
        · exact absurd hfirst hhead
    | error fault =>
        have hunanswered : fault.isAnswer = false :=
          readRoot_unanswered environment false arguments .empty (.of_pending rfl) hasks
            ⟨i.argument, hi, i.foreign_argument⟩ fault hread
        have hconsole : usageConsole environment fault
            = ⟨fault.exitCode, "", fault.text environment, [], []⟩ := by
          unfold usageConsole
          rw [hunanswered]
          rfl
        refine ⟨fault, ?_, ?_, fun read network boundary => ?_⟩
        · rw [hconsole]
          exact fault.exitCode_eq_two_iff.mpr hunanswered
        · rw [hconsole]
        · unfold run
          rw [hread]

/-- An upload without fields and files. -/
def plainRest : List String := ["-e", "http://localhost:12345/v0/files", "--accept-error-status"]

/-- What it asks for if it is to be quiet. -/
def plainArguments : UploadArguments :=
  ⟨"http://localhost:12345/v0/files", [], [], none, true, true⟩

/-- Three fields around a file. -/
def groupItems : List Item :=
  [.field "group=wk00", .file "jar=/tmp/a.jar", .field "tags=a=b", .field "note="]

/-- The upload with these items among its arguments. -/
def groupLine : List String :=
  ["-q", "upload", "--field=group=wk00", "-e", "http://localhost:12345/v0/files",
    "--file=jar=/tmp/a.jar", "--field=tags=a=b", "--accept-error-status", "--field=note="]

/-- What it asks for. -/
def groupArguments : UploadArguments :=
  { plainArguments with
    fields := [("group", "wk00"), ("tags", "a=b"), ("note", "")]
    files := [("jar", "/tmp/a.jar")] }

/-- The form that is made of them. -/
def groupForm : Form :=
  ⟨[.text "group" "wk00", .text "tags" "a=b", .text "note" "", jarPart]⟩

/-- The fields come first in the form, and the file is read by its absolute path; a field
without an equals sign is an error even if the file after it does not exist. -/
theorem form_of_groupLine_or_malformed :
    (∃ u, Uploader.ofConfig (config groupArguments) = .ok u
        ∧ (run none FileSystem.workshop.read .unreachable ⟨1, 2, 3, 4⟩ groupLine).Sends u
          .unreachable ⟨1, 2, 3, 4⟩ groupForm)
      ∧ ∃ fault, (usageConsole none fault).exitCode = 2
        ∧ run none FileSystem.workshop.read .unreachable ⟨1, 2, 3, 4⟩
          ["upload", "--field=oops", "--file=jar=a.jar"] = .usage fault := by
  obtain ⟨hform, hmalformed⟩ := items_make_the_form none
  constructor
  · have hmixed : MixedUpload none groupItems groupLine plainArguments filesEndpoint := by
      refine ⟨⟨["-q"], plainRest, _, by decide, rfl, ?_, rfl⟩, rfl, rfl, rfl⟩
      exact .item (.field "group=wk00") (.pair (by decide) (.item (.file "jar=/tmp/a.jar")
        (.item (.field "tags=a=b") (.alone (by decide) (by decide)
          (.item (.field "note=") .nil)))))
    have hitems : ∀ i ∈ groupItems, ∃ name value, Written i.text name value := by
      intro i hi
      rw [exists_written_iff]
      revert i
      decide
    have hreadable : ∀ text ∈ texts .file groupItems, ∀ name path, Written text name path →
        ∃ content, FileSystem.workshop.read (bytesOf path) = .ok content := by
      intro text htext name path hwritten
      have hvalue := (keyValue?_eq_some_iff text name path).mpr hwritten
      rw [show texts .file groupItems = ["jar=/tmp/a.jar"] from rfl, List.mem_singleton] at htext
      subst htext
      cases hvalue
      exact ⟨_, rfl⟩
    obtain ⟨fields, files, b, u, -, -, hread, -, hmade, hu, -, hsends⟩ :=
      hform FileSystem.workshop.read .unreachable ⟨1, 2, 3, 4⟩ groupItems groupLine plainArguments
        filesEndpoint FileSystem.workshop.named_read hmixed hitems hreadable
    obtain rfl : groupArguments = b := Except.ok.inj
      ((show readArguments none groupLine = .ok groupArguments from rfl).symm.trans hread)
    have hsame : (⟨fields ++ files⟩ : Form) = groupForm := by
      unfold form groupArguments at hmade
      rw [fileParts_workshop] at hmade
      exact (Except.ok.inj hmade).symm
    rw [hsame] at hsends
    exact ⟨u, hu, hsends⟩
  · obtain ⟨fault, hcode, -, hrun⟩ := hmalformed ["upload", "--field=oops", "--file=jar=a.jar"]
      (.field "oops") (by decide) (Or.inl (by decide)) (by decide)
    exact ⟨fault, hcode, hrun _ _ _⟩

end FormUpload.CommandLine
