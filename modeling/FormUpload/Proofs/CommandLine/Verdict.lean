import FormUpload.Proofs.CommandLine.Forms
import FormUpload.Proofs.Lifecycle.Endpoints
import FormUpload.Proofs.Multipart.ContentTypes
import FormUpload.Proofs.Text.Decimal
import FormUpload.Proofs.Uploader.Submission

/-!
# What a run ends with

An upload reads its files, then looks at its endpoint, then posts its form once.  The first
of these that fails decides what the run shows:

    form_of_unreadable   the first file that can not be read comes before everything else
    runUpload_refused    an endpoint that is refused comes before anything is sent
    runUpload_posted     otherwise the outcome of the one upload is shown

A run that is cut short says so in one error and nothing else; the mark of a notification
stands in it only where it was typed (`mark_of_errorText`).
-/

namespace FormUpload.CommandLine

open FormUpload.Text
open FormUpload.Multipart (Boundary)

/-! ## §1. The mark of a notification. -/

/-- The character that notifications begin with. -/
def mark : Char := '✗'

theorem mark_of_indented (width : Nat) (s : String) (h : mark ∈ indented width s) :
    mark ∈ s.toList := by
  rcases mem_of_mem_joinWith _ _ mark h with hsep | ⟨piece, hpiece, hmark⟩
  · rcases List.mem_cons.mp hsep with he | hmem
    · exact absurd he (by decide)
    · exact absurd (List.eq_of_mem_replicate hmem) (by decide)
  · exact mem_of_mem_splitWhere _ _ piece hpiece mark hmark

theorem mark_not_mem_decimal (n : Nat) : mark ∉ decimal n := by
  intro h
  exact absurd (isDigitChar_of_mem n mark h) (by decide)

/-- Two texts with a mark only where one of them has it. -/
theorem mark_of_quoted (opening s between t : String) (hopening : mark ∉ opening.toList)
    (hbetween : mark ∉ between.toList) (h : mark ∈ (opening ++ s ++ between ++ t).toList) :
    mark ∈ s.toList ∨ mark ∈ t.toList := by
  simp only [String.toList_append, List.mem_append] at h
  rcases h with ((h | h) | h) | h
  · exact absurd h hopening
  · exact Or.inl h
  · exact absurd h hbetween
  · exact Or.inr h

/-- The causes under an error have no mark but their own. -/
theorem mark_of_causesText (causes : List String) (h : mark ∈ causesText causes) :
    ∃ cause ∈ causes, mark ∈ cause.toList := by
  unfold causesText at h
  split at h
  · cases h
  · next cause =>
    rcases List.mem_append.mp h with h | h
    · exact absurd h (by decide)
    · exact ⟨cause, List.mem_singleton_self cause, mark_of_indented 4 cause h⟩
  · rcases List.mem_append.mp h with h | h
    · exact absurd h (by decide)
    · obtain ⟨⟨cause, n⟩, hcause, h⟩ := List.mem_flatMap.mp h
      refine ⟨cause, List.fst_mem_of_mem_zipIdx hcause, ?_⟩
      simp only [List.mem_append] at h
      rcases h with ((h | h) | h) | h
      · exact absurd h (by decide)
      · exact absurd h (mark_not_mem_decimal n)
      · exact absurd h (by decide)
      · exact mark_of_indented 7 cause h

/-- **An error has no mark** that is not in its message or in one of its causes. -/
theorem mark_of_errorText (message : String) (causes : List String)
    (h : mark ∈ (errorText message causes).toList) :
    mark ∈ message.toList ∨ ∃ cause ∈ causes, mark ∈ cause.toList := by
  unfold errorText at h
  simp only [String.toList_append, String.toList_ofList, List.mem_append] at h
  rcases h with ((h | h) | h) | h
  · exact absurd h (by decide)
  · exact Or.inl h
  · exact Or.inr (mark_of_causesText causes h)
  · exact absurd h (by decide)

theorem mark_not_mem_decimalInt (i : Int) : mark ∉ (String.ofList (decimalInt i)).toList := by
  rw [String.toList_ofList]
  unfold decimalInt
  split
  · rw [List.mem_cons, not_or]
    exact ⟨by decide, mark_not_mem_decimal i.natAbs⟩
  · exact mark_not_mem_decimal i.natAbs

/-- A text of given characters has no mark if none of them is one. -/
theorem mark_not_mem_ofList {s : String} {cs : List Char} (hs : s = String.ofList cs)
    (hcs : cs.all (· != mark) = true) : mark ∉ s.toList := by
  rw [hs, String.toList_ofList]
  intro hmark
  exact absurd (List.all_eq_true.mp hcs mark hmark) (by decide)

/-- The system's errors have no mark, whether they have a text of their own or not. -/
theorem mark_not_mem_systemText (code : Int) : mark ∉ (FileTree.systemText code).toList := by
  -- the characters are taken from the literals, which is faster than to decode these
  have hall : ∀ known ∈ FileTree.systemTexts, mark ∉ known.2.toList := by
    unfold FileTree.systemTexts
    simp only [List.forall_mem_cons, List.not_mem_nil, false_imp_iff, implies_true, and_true]
    and_intros
    all_goals exact mark_not_mem_ofList rfl rfl
  unfold FileTree.systemText
  cases hlookup : FileTree.systemTexts.lookup code with
  | some text =>
      obtain ⟨before, after, htexts, -⟩ := List.lookup_eq_some_iff.mp hlookup
      exact hall (code, text) (htexts ▸ by simp)
  | none =>
      rw [Option.getD_none, String.toList_append, List.mem_append, not_or]
      exact ⟨by decide, mark_not_mem_decimalInt code⟩

/-- **No fault of a file has a mark.** -/
theorem mark_not_mem_fault (fault : FileFault) : mark ∉ fault.message.toList := by
  cases fault with
  | nulInPath => decide
  | system code =>
      unfold FileFault.message
      simp only [String.toList_append, List.mem_append, not_or]
      exact ⟨⟨⟨mark_not_mem_systemText code, by decide⟩, mark_not_mem_decimalInt code⟩, by decide⟩

/-! ## §2. Runs that are cut short. -/

variable (read : FileReader) (a : UploadArguments) (network : Http.Network) (boundary : Boundary)

/-- **A run is cut short** by something that was typed: it shows an error and nothing else,
and makes no request.  The mark of a notification shows only where it was typed. -/
structure Console.CutShort (c : Console) (typed message : String) (causes : List String) :
    Prop where
  exitCode : c.exitCode = 1
  stdout : c.stdout = ""
  stderr : c.stderr = errorText message causes
  exchanges : c.exchanges = []
  unmarked : mark ∉ typed.toList → mark ∉ c.stderr.toList

theorem cutShort_failed (typed message : String) (causes : List String)
    (logs : List Log.Record) (hmessage : mark ∈ message.toList → mark ∈ typed.toList)
    (hcauses : ∀ cause ∈ causes, mark ∈ cause.toList → mark ∈ typed.toList) :
    (Console.failed message causes logs).CutShort typed message causes := by
  refine ⟨rfl, rfl, rfl, rfl, fun htyped hmark => ?_⟩
  rcases mark_of_errorText message causes hmark with h | ⟨cause, hcause, h⟩
  · exact htyped (hmessage h)
  · exact htyped (hcauses cause hcause h)

/-- **A file that can not be read** cuts the run short. -/
theorem runUpload_unreadable (path : String) (fault : FileFault)
    (hform : form read a = .error (.unreadable (bytesOf path) fault)) :
    ∃ c, runUpload read network boundary a = some c
      ∧ c.CutShort path ("failed to read `" ++ path ++ "`: " ++ fault.message)
        [fault.message] := by
  have hfault := mark_not_mem_fault fault
  have hmessage : (Failure.unreadable (bytesOf path) fault).message
      = "failed to read `" ++ path ++ "`: " ++ fault.message := by
    show "failed to read `" ++ stringLossy (bytesOf path) ++ "`: " ++ fault.message = _
    rw [stringLossy_bytesOf]
  refine ⟨.failed _ [fault.message] [], ?_, cutShort_failed path _ _ _ (fun hmark => ?_) ?_⟩
  · unfold runUpload
    rw [hform, ← hmessage]
    rfl
  · rcases mark_of_quoted _ path _ fault.message (by decide) (by decide) hmark with h | h
    · exact h
    · exact absurd h hfault
  · exact List.forall_mem_singleton.mpr fun h => absurd h hfault

/-- The name that the program gives itself is a header value, so only the endpoint is left to
be refused. -/
theorem ofConfig_config : Uploader.ofConfig (config a)
    = (readEndpoint a.endpoint).map fun url =>
        ⟨⟨url, .log, .standard, none⟩, ⟨(config a).settings, (config a).userAgent⟩⟩ := by
  have hname : (config a).userAgent.all isHeaderValue = true := by
    show isHeaderValue (programName ++ "/" ++ programVersion) = true
    decide
  have hendpoint : (config a).endpoint = a.endpoint := rfl
  rw [Uploader.ofConfig_eq, hname, hendpoint]
  cases readEndpoint a.endpoint with
  | error f => rfl
  | ok url => rfl

/-- What is wrong with an endpoint shows the mark only if the endpoint has it. -/
theorem mark_of_refused (endpoint : String) (f : Failure) (h : Refused endpoint f) :
    ∀ text ∈ f.message :: f.cause?.toList, mark ∈ text.toList → mark ∈ endpoint.toList := by
  have hfault : ∀ fault : Url.Fault, mark ∉ fault.message.toList := by
    intro fault
    cases fault <;> decide
  intro text htext hmark
  rcases h with _ | ⟨-, fault, -⟩
  · rw [List.mem_singleton.mp htext] at hmark
    exact absurd hmark (by decide)
  · rcases List.mem_cons.mp htext with rfl | htext
    · rcases mark_of_quoted "invalid endpoint `" endpoint "`: " fault.message (by decide)
        (by decide) hmark with h | h
      · exact h
      · exact absurd h (hfault fault)
    · rw [List.mem_singleton.mp htext] at hmark
      exact absurd hmark (hfault fault)

/-- **An endpoint that is refused** cuts the run short, once the files are read. -/
theorem runUpload_refused (f : Form) (hform : form read a = .ok f) (e : Failure)
    (he : Refused a.endpoint e) :
    ∃ c, runUpload read network boundary a = some c
      ∧ c.CutShort a.endpoint "Failed to set up upload" (e.message :: e.cause?.toList) := by
  have hrun : runUpload read network boundary a
      = some (.failed "Failed to set up upload" (e.message :: e.cause?.toList)
        [builtRecord f]) := by
    unfold runUpload
    rw [hform, ofConfig_config, (readEndpoint_eq_error a.endpoint e).mpr he]
    rfl
  refine ⟨_, hrun, cutShort_failed a.endpoint _ _ _ (fun hmark => ?_) ?_⟩
  · exact absurd hmark (by decide)
  · exact mark_of_refused a.endpoint e he

/-! ## §3. Runs that post a form. -/

/-- What is to be seen of an outcome: exit code, standard output and standard error. -/
def verdict (a : UploadArguments) : Outcome → Nat × String × String
  | .success r => (0, if a.quiet then "" else r.data.prettyText ++ "\n", "")
  | .applicationFailure r message =>
      (1, if a.quiet then "" else r.data.prettyText ++ "\n",
        "✗ " ++ message ++ "\n"
          ++ "Error: Upload to " ++ a.endpoint ++ " was not successful" ++ "\n")
  | .transportFailure _ message =>
      (1, "", "✗ " ++ message ++ "\n" ++ "Error: Upload to " ++ a.endpoint ++ " failed" ++ "\n")

/-- The exit code alone tells whether the upload succeeded. -/
theorem verdict_eq_zero_iff (o : Outcome) : (verdict a o).1 = 0 ↔ o.isSuccess = true := by
  cases o with
  | success r => exact ⟨fun _ => rfl, fun _ => rfl⟩
  | applicationFailure r message => exact ⟨nofun, nofun⟩
  | transportFailure f message => exact ⟨nofun, nofun⟩

/-- One message, and the error that the run ends with. -/
theorem notice_then_error (message endpoint ending : String) :
    String.join ([message].map noticeText) ++ errorText ("Upload to " ++ endpoint ++ ending) []
      = "✗ " ++ message ++ "\n" ++ "Error: Upload to " ++ endpoint ++ ending ++ "\n" := by
  have hnotice : String.join ([message].map noticeText) = "✗ " ++ message ++ "\n" :=
    String.empty_append
  have herror : errorText ("Upload to " ++ endpoint ++ ending) []
      = "Error: " ++ ("Upload to " ++ endpoint ++ ending) ++ "\n" := by
    unfold errorText causesText
    rw [String.ofList_nil, String.append_empty]
  have hstart : "Error: Upload to " = "Error: " ++ "Upload to " := by decide
  rw [hnotice, herror, hstart]
  simp only [String.append_assoc]

/-- **An outcome is shown as it is to be seen**, if its message is all that was delivered. -/
theorem outcomeConsole_eq (built : Log.Record) (x : Uploader.Upload) (o : Outcome)
    (hdelivered : x.delivered = o.message?.toList) :
    let c := outcomeConsole a built x o
    (c.exitCode, c.stdout, c.stderr) = verdict a o ∧ c.exchanges = x.exchanges
      ∧ c.logs = built :: x.logs := by
  unfold outcomeConsole
  rw [hdelivered]
  cases o with
  | success r => exact ⟨rfl, rfl, rfl⟩
  | applicationFailure r message =>
      refine ⟨?_, rfl, rfl⟩
      have hstderr := notice_then_error message a.endpoint " was not successful"
      exact congrArg (fun s => (1, responseText a.quiet r, s)) hstderr
  | transportFailure f message =>
      refine ⟨?_, rfl, rfl⟩
      have hstderr := notice_then_error message a.endpoint " failed"
      exact congrArg (fun s => (1, "", s)) hstderr

/-- A direct notifier is delivered the message of the outcome. -/
theorem delivered_direct (u : Uploader) (t : Uploader.Turn) :
    ((u.withNotifier .direct).turn t).2.delivered
      = (((u.withNotifier .direct).turn t).2.outcome.bind Outcome.message?).toList := by
  rw [((u.withNotifier .direct).tells_turn t).delivered]
  exact List.flatMap_singleton' _

/-- **A form that is posted** is posted once, and its outcome is shown; without one, the run
does not end. -/
theorem runUpload_posted (f : Form) (hform : form read a = .ok f) (u : Uploader)
    (hu : Uploader.ofConfig (config a) = .ok u) :
    let x := ((u.withNotifier .direct).submit network boundary f).2
    (x.outcome = none → runUpload read network boundary a = none)
      ∧ ∀ o, x.outcome = some o → ∃ c, runUpload read network boundary a = some c
        ∧ (c.exitCode, c.stdout, c.stderr) = verdict a o ∧ c.exchanges = x.exchanges
        ∧ c.logs = builtRecord f :: x.logs := by
  intro x
  have hrun : runUpload read network boundary a
      = x.outcome.map (outcomeConsole a (builtRecord f) x) := by
    unfold runUpload
    rw [hform, hu]
  have hdelivered : x.delivered = (x.outcome.bind Outcome.message?).toList :=
    delivered_direct u ⟨network, boundary, f⟩
  constructor
  · intro hwait
    rw [hrun, hwait]
    rfl
  · intro o ho
    rw [ho] at hdelivered
    refine ⟨outcomeConsole a (builtRecord f) x o, ?_, outcomeConsole_eq a _ x o hdelivered⟩
    rw [hrun, ho]
    rfl

/-! ## §4. The verdict. -/

/-- A run that has its arguments is the upload. -/
theorem run_of_readArguments (environment : Option String)
    (arguments : List String) (ha : readArguments environment arguments = .ok a) :
    run environment read network boundary arguments
      = match runUpload read network boundary a with
        | some c => .done c
        | none => .waiting := by
  unfold run
  cases hrun : runUpload read network boundary a with
  | none => simp only [ha, hrun]
  | some c => simp only [ha, hrun]

/-- **The exit code tells what became of an upload**, however files are read.  A file that can
not be read ends the run before anything is sent, whatever the endpoint is, and the first such
file is told of; an endpoint that is blank or no URL does so too.  Otherwise the form is posted
once.  If the upload has an outcome, the run shows it: a success has exit code 0 and nothing on
standard error; any failure has exit code 1 and there its message, marked, and one error without
a cause.  If it has none, the run waits. -/
theorem exit_tells_outcome (environment : Option String) (read : FileReader)
    (hnamed : FileTree.Named read) (network : Http.Network) (boundary : Boundary)
    (arguments : List String) (a : UploadArguments)
    (ha : readArguments environment arguments = .ok a) :
    let ran := run environment read network boundary arguments
    (¬ Readable read a.files →
        ∃ before name path after fault c, a.files = before ++ (name, path) :: after
          ∧ Readable read before ∧ read (bytesOf path) = .error fault
          ∧ ran = .done c
          ∧ c.CutShort path ("failed to read `" ++ path ++ "`: " ++ fault.message)
            [fault.message])
      ∧ (Readable read a.files → ∀ e, Refused a.endpoint e → ∃ c, ran = .done c
          ∧ c.CutShort a.endpoint "Failed to set up upload" (e.message :: e.cause?.toList))
      ∧ (Readable read a.files → (∀ e, ¬ Refused a.endpoint e) →
          ∃ u f, Uploader.ofConfig (config a) = .ok u ∧ form read a = .ok f
            ∧ let x := ((u.withNotifier .direct).submit network boundary f).2
              (x.outcome = none → ran = .waiting)
                ∧ ∀ o, x.outcome = some o → ∃ c, ran = .done c
                  ∧ (c.exitCode, c.stdout, c.stderr) = verdict a o
                  ∧ (c.exitCode = 0 ↔ o.isSuccess = true)
                  ∧ c.exchanges = x.exchanges ∧ c.logs = builtRecord f :: x.logs) := by
  intro ran
  have hran := run_of_readArguments read a network boundary environment arguments ha
  have hdone : ∀ c, runUpload read network boundary a = some c → ran = .done c := by
    intro c hc
    rw [show ran = _ from hran, hc]
  refine ⟨fun h => ?_, fun h e he => ?_, fun h hendpoint => ?_⟩
  · obtain ⟨before, name, path, after, fault, hfiles, hbefore, hread, hform⟩ :=
      form_of_unreadable hnamed a h
    obtain ⟨c, hrun, hc⟩ := runUpload_unreadable read a network boundary path fault hform
    exact ⟨before, name, path, after, fault, c, hfiles, hbefore, hread, hdone c hrun, hc⟩
  · obtain ⟨f, hform⟩ := form_of_readable hnamed a h
    obtain ⟨c, hrun, hc⟩ := runUpload_refused read a network boundary f hform e he
    exact ⟨c, hdone c hrun, hc⟩
  · obtain ⟨f, hform⟩ := form_of_readable hnamed a h
    obtain ⟨u, hu⟩ : ∃ u, Uploader.ofConfig (config a) = .ok u := by
      rw [ofConfig_config]
      cases hread : readEndpoint a.endpoint with
      | ok url => exact ⟨_, rfl⟩
      | error e => exact absurd ((readEndpoint_eq_error a.endpoint e).mp hread) (hendpoint e)
    obtain ⟨hwait, hend⟩ := runUpload_posted read a network boundary f hform u hu
    refine ⟨u, f, hu, hform, fun hnone => ?_, fun o ho => ?_⟩
    · rw [show ran = _ from hran, hwait hnone]
    · obtain ⟨c, hrun, hverdict, hexchanges, hlogs⟩ := hend o ho
      refine ⟨c, hdone c hrun, hverdict, ?_, hexchanges, hlogs⟩
      rw [← verdict_eq_zero_iff a o, ← hverdict]

/-- A command line with a blank endpoint and a file. -/
def blankLine : List String := ["upload", "-e", " ", "-f", "jar=a.jar"]

/-- What it asks for. -/
def blankArguments : UploadArguments := ⟨" ", [], [("jar", "a.jar")], none, false, false⟩

/-- A command line with an endpoint, a field, and a file that is somewhere else. -/
def jarLine : List String :=
  ["upload", "-e", "http://localhost:12345/v0/files", "-F", "group=wk00", "-f",
    "jar=/tmp/a.jar"]

/-- What it asks for. -/
def jarArguments : UploadArguments :=
  ⟨"http://localhost:12345/v0/files", [("group", "wk00")], [("jar", "/tmp/a.jar")], none, false,
    false⟩

/-- The uploader that it is posted by. -/
def jarUploader : Uploader :=
  ⟨⟨filesEndpoint, .log, .standard, none⟩,
    ⟨(config jarArguments).settings, (config jarArguments).userAgent⟩⟩

/-- The part that is made of the file. -/
def jarPart : Part := .file "jar" "a.jar" (some (MediaType.guess "a.jar")) [0x50, 0x4B]

/-- The form that is posted. -/
def jarForm : Form := ⟨[.text "group" "wk00", jarPart]⟩

/-- The file is found where it is, and named by the end of its path. -/
theorem fileParts_workshop :
    fileParts FileSystem.workshop.read [("jar", "/tmp/a.jar")] = .ok [jarPart] := by
  have hread : FileSystem.workshop.read (bytesOf "/tmp/a.jar") = .ok [0x50, 0x4B] := rfl
  have hname : fileName? FileTree.slash FileTree.dot (bytesOf "/tmp/a.jar")
      = some (bytesOf "a.jar") := rfl
  have hpart : FileTree.partFrom FileSystem.workshop.read "jar" (bytesOf "/tmp/a.jar")
      = .ok jarPart := by
    unfold FileTree.partFrom jarPart
    simp only [hread, hname, stringLossy_bytesOf]
  unfold fileParts fileParts
  simp only [hpart]

/-- An endpoint that answers with status 503 rejects it. -/
theorem outcome_jarForm (boundary : Boundary) :
    ((jarUploader.withNotifier .direct).submit (.scripted [documentAnswer 503 successDocument])
      boundary jarForm).2.outcome
    = some (.transportFailure (.status 503 (.ofData 503 successDocument))
      "Upload failed with status 503") := by
  have haccepted : ∀ p ∈ jarForm.parts, Multipart.Accepted p :=
    List.forall_mem_cons.mpr
      ⟨rfl, List.forall_mem_singleton.mpr (Multipart.accepted_guessed _ _ _)⟩
  have hblocks := (Multipart.blocks_eq_ok jarForm.parts _).mpr ⟨haccepted, rfl⟩
  let turn : Uploader.Turn :=
    ⟨.scripted [documentAnswer 503 successDocument], boundary, jarForm⟩
  have hreceived : (jarUploader.withNotifier .direct).received turn
      = some (.ok (.ofData 503 successDocument)) :=
    Transport.received_document _ _ filesEndpoint _ _ hblocks (by decide) isReachable_files
      503 (by decide) (by decide) (by decide) successDocument regular_success (by decide)
  have houtcome := (jarUploader.withNotifier .direct).outcome_turn turn
  unfold Uploader.answer? at houtcome
  rw [hreceived] at houtcome
  exact houtcome

/-- The first of these runs does not find its file where it works, and tells of that, not of its
endpoint.  The second one finds the file in `/tmp`; its endpoint answers with status 503, and it
tells of that, once. -/
theorem exit_of_missing_file_or_rejection :
    Refused " " .emptyEndpoint
      ∧ (∃ c, run none FileSystem.workshop.read .unreachable ⟨1, 2, 3, 4⟩ blankLine = .done c
        ∧ c.CutShort "a.jar" "failed to read `a.jar`: No such file or directory (os error 2)"
          ["No such file or directory (os error 2)"])
      ∧ ∃ c, run none FileSystem.workshop.read (.scripted [documentAnswer 503 successDocument])
          ⟨1, 2, 3, 4⟩ jarLine = .done c
        ∧ (c.exitCode, c.stdout, c.stderr)
          = (1, "", "✗ Upload failed with status 503\n"
            ++ "Error: Upload to http://localhost:12345/v0/files failed\n") := by
  have hblank : ∀ c ∈ " ".toList, isBlank c = true := by
    rw [show " ".toList = [' '] from rfl, List.forall_mem_singleton]
    rfl
  refine ⟨.blank hblank, ?_, ?_⟩
  · obtain ⟨hunreadable, -, -⟩ := exit_tells_outcome none _ FileSystem.workshop.named_read
      .unreachable ⟨1, 2, 3, 4⟩ blankLine blankArguments rfl
    have hmissing : FileSystem.workshop.read (bytesOf "a.jar")
        = .error (.system FileTree.missing) :=
      rfl
    have hnot : ¬ Readable FileSystem.workshop.read blankArguments.files := by
      intro h
      obtain ⟨content, hcontent⟩ := h ("jar", "a.jar") List.mem_cons_self
      rw [hmissing] at hcontent
      cases hcontent
    obtain ⟨before, name, path, after, fault, c, hfiles, -, hread, hrun, hc⟩ := hunreadable hnot
    -- there is only one file
    cases before with
    | cons first before =>
        obtain ⟨-, hrest⟩ := List.cons.inj hfiles
        cases before <;> cases hrest
    | nil =>
        cases hfiles
        rw [hmissing] at hread
        cases hread
        exact ⟨c, hrun, hc⟩
  · obtain ⟨-, -, hposted⟩ := exit_tells_outcome none _ FileSystem.workshop.named_read
      (.scripted [documentAnswer 503 successDocument]) ⟨1, 2, 3, 4⟩ jarLine jarArguments rfl
    have hreadable : Readable FileSystem.workshop.read jarArguments.files :=
      List.forall_mem_singleton.mpr ⟨[0x50, 0x4B], rfl⟩
    have hendpoint : ∀ e, ¬ Refused jarArguments.endpoint e := by
      intro e he
      have herror := (readEndpoint_eq_error _ e).mpr he
      rw [show readEndpoint jarArguments.endpoint = .ok filesEndpoint from rfl] at herror
      cases herror
    obtain ⟨u, f, hu, hf, -, hend⟩ := hposted hreadable hendpoint
    rw [show Uploader.ofConfig (config jarArguments) = .ok jarUploader from rfl] at hu
    have hform : form FileSystem.workshop.read jarArguments = .ok jarForm := by
      unfold form jarArguments
      rw [fileParts_workshop]
      rfl
    rw [hform] at hf
    cases hu
    cases hf
    obtain ⟨c, hrun, hverdict, -⟩ := hend _ (outcome_jarForm _)
    exact ⟨c, hrun, hverdict⟩

end FormUpload.CommandLine
