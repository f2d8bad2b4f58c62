import FormUpload.Proofs.Uploader.Submission

/-!
# What is logged

The log of an upload, told from its form and its outcome.  There are three who write to it:

* the lifecycle, once, that a form is about to be posted (`begunRecord`),
* the transport, if its threshold lets it, that it posts the form and what came of that
  (`transportRecords`),
* the notifier that logs, the message of a failure (`failureRecords`).

Nobody else writes (`logs_turn_of_log`), so a failure reaches the level `error` once, and the
threshold takes records away or adds some, and changes nothing else
(`logs_tell_failures_once`).
-/

namespace FormUpload

open FormUpload.Text
open FormUpload.Multipart (Boundary)

/-- The configuration with another threshold. -/
def Config.withThreshold (config : Config) (threshold : Log.Threshold) : Config :=
  { config with settings := { config.settings with threshold } }

namespace Uploader

/-! ## §1. Runs. -/

/-- What the uploads of some turns show, one after the other. -/
def uploads (u : Uploader) : List Turn → List Upload
  | [] => []
  | t :: ts => (u.turn t).2 :: (u.turn t).1.uploads ts

/-- Everything that is logged in some turns. -/
def logs (u : Uploader) (ts : List Turn) : List Log.Record := (u.uploads ts).flatMap (·.logs)

/-- The message of an upload that failed. -/
def Upload.message? (s : Upload) : Option String := s.outcome.bind Outcome.message?

theorem logs_cons (u : Uploader) (t : Turn) (ts : List Turn) :
    u.logs (t :: ts) = (u.turn t).2.logs ++ (u.turn t).1.logs ts := by
  unfold logs
  rw [uploads, List.flatMap_cons]

/-! ## §2. Records. -/

section Records

variable (threshold : Log.Threshold) (endpoint : Url) (form : Form)

/-- The record that a form is about to be posted. -/
def begunRecord : Log.Record :=
  ⟨.debug, "submitting " ++ String.ofList (decimal form.parts.length) ++ " form part(s) to "
    ++ endpoint.text⟩

/-- What the record of a posted form says. -/
def postedText : String :=
  "posting " ++ String.ofList (decimal form.parts.length) ++ " part(s) to " ++ endpoint.text

/-- The record of an outcome: the status and what the endpoint says, or the failure. -/
def endedRecord (outcome : Outcome) : Log.Record :=
  ⟨.debug, "upload to " ++ endpoint.text ++ match outcome with
    | .success r =>
        " returned status " ++ String.ofList (decimal r.status.toNat) ++ " (isSuccess: true)"
    | .applicationFailure r _ =>
        " returned status " ++ String.ofList (decimal r.status.toNat) ++ " (isSuccess: false)"
    | .transportFailure f _ => " failed: " ++ f.message⟩

/-- What the transport logs of an upload: at the threshold `trace` with the names and sizes of
the parts, at `debug` without them, and else nothing.  An upload that waits has not ended. -/
def transportRecords (outcome : Option Outcome) : List Log.Record :=
  match threshold with
  | some .trace =>
      ⟨.trace, postedText endpoint form ++ ": " ++ Transport.summary form.parts⟩
        :: (outcome.map (endedRecord endpoint)).toList
  | some .debug =>
      ⟨.debug, postedText endpoint form⟩ :: (outcome.map (endedRecord endpoint)).toList
  | _ => []

/-- The records of a failure: its message, as an error. -/
def failureRecords (outcome : Option Outcome) : List Log.Record :=
  match outcome with
  | some (.applicationFailure _ message) => [⟨.error, message⟩]
  | some (.transportFailure _ message) => [⟨.error, message⟩]
  | _ => []

end Records

/-! ## §3. Who writes what. -/

/-- A message is logged as an error, if there is one. -/
theorem failureRecords_eq (outcome : Option Outcome) :
    failureRecords outcome = ((outcome.bind Outcome.message?).toList).map (⟨.error, ·⟩) := by
  cases outcome with
  | none => rfl
  | some o => cases o <;> rfl

/-- The record of an answer is that of its outcome. -/
theorem answerRecords_eq (threshold : Log.Threshold) (endpoint : Url) (formatter : Formatter)
    (answer : Answer) : Transport.answerRecords threshold endpoint answer
      = if threshold.admits .debug then [endedRecord endpoint (.ofAnswer formatter answer)]
        else [] := by
  unfold Transport.answerRecords
  cases threshold.admits .debug with
  | false => rfl
  | true =>
      cases answer with
      | error f => simp only [endedRecord, Outcome.ofAnswer, if_true, Log.Record.debug,
          String.append_assoc]
      | ok r =>
          cases hs : r.succeeded <;>
            simp [endedRecord, Outcome.ofAnswer, hs, Log.Record.debug, Transport.numberText,
              Transport.truthText, String.append_assoc]

/-- **The transport writes before and after**, as its threshold lets it. -/
theorem transportRecords_eq (threshold : Log.Threshold) (endpoint : Url) (form : Form)
    (formatter : Formatter) (answer : Option Answer) :
    Transport.postingRecords threshold endpoint form.parts
        ++ (match answer with
          | some a => Transport.answerRecords threshold endpoint a
          | none => [])
      = transportRecords threshold endpoint form (answer.map (.ofAnswer formatter)) := by
  cases answer with
  | none =>
      cases threshold with
      | none => rfl
      | some level => cases level <;> rfl
  | some a =>
      simp only [answerRecords_eq threshold endpoint formatter a]
      cases threshold with
      | none => rfl
      | some level => cases level <;> rfl

variable (u : Uploader) (t : Turn)

/-- What the transport writes is told by the outcome. -/
theorem postingLogs_eq : u.postingLogs t = transportRecords u.transport.settings.threshold
    u.lifecycle.endpoint t.form (u.turn t).2.outcome := by
  have hanswer : (u.transport.exchange t.network t.boundary u.lifecycle.endpoint t.form.parts).2
      = u.answer? t :=
    u.transport.answer_exchange t.network t.boundary u.lifecycle.endpoint t.form.parts
  rw [outcome_turn]
  show _ = transportRecords _ _ _ ((u.answer? t).map (.ofAnswer u.lifecycle.formatter))
  rw [← transportRecords_eq, ← hanswer]
  rfl

/-- **The log of a turn**: the lifecycle's record, those of the transport, and those of the
notifier, which is told the message of the outcome. -/
theorem logs_turn : (u.turn t).2.logs
    = begunRecord u.lifecycle.endpoint t.form
      :: transportRecords u.transport.settings.threshold u.lifecycle.endpoint t.form
          (u.turn t).2.outcome
      ++ ((u.turn t).2.outcome.bind Outcome.message?).toList.flatMap
          fun m => (u.lifecycle.notifier.notify m).logs := by
  rw [(u.tells_turn t).logs, postingLogs_eq]
  rfl

/-- Where failures are logged, the notifier writes the message of a failure. -/
theorem logs_turn_of_log (hlog : u.lifecycle.notifier = .log) : (u.turn t).2.logs
    = begunRecord u.lifecycle.endpoint t.form
      :: transportRecords u.transport.settings.threshold u.lifecycle.endpoint t.form
          (u.turn t).2.outcome
      ++ failureRecords (u.turn t).2.outcome := by
  rw [logs_turn, hlog, failureRecords_eq, List.map_eq_flatMap]
  rfl

/-! ## §4. Levels. -/

/-- The transport writes no errors, and nothing that weighs less than a warning. -/
theorem level_transportRecords (threshold : Log.Threshold) (endpoint : Url) (form : Form)
    (outcome : Option Outcome) (r : Log.Record)
    (hr : r ∈ transportRecords threshold endpoint form outcome) :
    r.level = .debug ∨ r.level = .trace := by
  have hended : ∀ r ∈ (outcome.map (endedRecord endpoint)).toList, r.level = .debug := by
    intro r hr
    obtain ⟨o, -, rfl⟩ := Option.map_eq_some_iff.mp (Option.mem_toList.mp hr)
    rfl
  unfold transportRecords at hr
  split at hr
  · rcases List.mem_cons.mp hr with rfl | hr
    · exact Or.inr rfl
    · exact Or.inl (hended r hr)
  · rcases List.mem_cons.mp hr with rfl | hr
    · exact Or.inl rfl
    · exact Or.inl (hended r hr)
  · cases hr

theorem level_failureRecords (outcome : Option Outcome) (r : Log.Record)
    (hr : r ∈ failureRecords outcome) : r.level = .error := by
  rw [failureRecords_eq] at hr
  obtain ⟨message, -, rfl⟩ := List.mem_map.mp hr
  rfl

/-- The errors among the records of a turn are those of its failure. -/
theorem errors_turn (hlog : u.lifecycle.notifier = .log) :
    ((u.turn t).2.logs.filter fun r => r.level = .error)
      = failureRecords (u.turn t).2.outcome := by
  have htransport : ((transportRecords u.transport.settings.threshold u.lifecycle.endpoint t.form
      (u.turn t).2.outcome).filter fun r => r.level = .error) = [] := by
    rw [List.filter_eq_nil_iff]
    intro r hr
    rcases level_transportRecords _ _ _ _ r hr with h | h
    · simp [h]
    · simp [h]
  have hfailure : ((failureRecords (u.turn t).2.outcome).filter fun r => r.level = .error)
      = failureRecords (u.turn t).2.outcome := by
    rw [List.filter_eq_self]
    intro r hr
    rw [level_failureRecords _ r hr]
    rfl
  rw [logs_turn_of_log u t hlog, List.cons_append, List.filter_cons_of_neg (by simp [begunRecord]),
    List.filter_append, htransport, hfailure, List.nil_append]

/-- The levels of a turn's records. -/
theorem level_turn (hlog : u.lifecycle.notifier = .log) (r : Log.Record)
    (hr : r ∈ (u.turn t).2.logs) : r.level = .error ∨ r.level = .debug ∨ r.level = .trace := by
  rw [logs_turn_of_log u t hlog, List.cons_append, List.mem_cons, List.mem_append] at hr
  rcases hr with rfl | hr | hr
  · exact Or.inr (Or.inl rfl)
  · exact Or.inr (level_transportRecords _ _ _ _ r hr)
  · exact Or.inl (level_failureRecords _ r hr)

/-- **The errors of a run are the messages of its failures**, in order. -/
theorem errors_logs (hlog : u.lifecycle.notifier = .log) (ts : List Turn) :
    ((u.logs ts).filter fun r => r.level = .error)
      = ((u.uploads ts).filterMap Upload.message?).map (⟨.error, ·⟩) := by
  induction ts generalizing u with
  | nil => rfl
  | cons t ts ih =>
      have hnext := ih (u.turn t).1 ((u.same_turn t).notifier.trans hlog)
      rw [logs_cons, List.filter_append, errors_turn u t hlog, hnext, failureRecords_eq, uploads,
        List.filterMap_cons]
      unfold Upload.message?
      cases (u.turn t).2.outcome.bind Outcome.message? with
      | none => rfl
      | some m => rfl

/-- The levels of a run's records. -/
theorem level_logs (hlog : u.lifecycle.notifier = .log) (ts : List Turn) (r : Log.Record)
    (hr : r ∈ u.logs ts) : r.level = .error ∨ r.level = .debug ∨ r.level = .trace := by
  induction ts generalizing u with
  | nil => cases hr
  | cons t ts ih =>
      rw [logs_cons, List.mem_append] at hr
      rcases hr with hr | hr
      · exact u.level_turn t hlog r hr
      · exact ih (u.turn t).1 ((u.same_turn t).notifier.trans hlog) hr

/-! ## §5. Thresholds. -/

/-- The uploader with another threshold. -/
def withThreshold (u : Uploader) (threshold : Log.Threshold) : Uploader :=
  { u with transport := { u.transport with
      settings := { u.transport.settings with threshold } } }

/-- **The threshold changes nothing but the log.** -/
theorem turn_withThreshold (threshold : Log.Threshold) :
    ((u.withThreshold threshold).turn t).1 = (u.turn t).1.withThreshold threshold
      ∧ ((u.withThreshold threshold).turn t).2.exchanges = (u.turn t).2.exchanges
      ∧ ((u.withThreshold threshold).turn t).2.outcome = (u.turn t).2.outcome
      ∧ ((u.withThreshold threshold).turn t).2.delivered = (u.turn t).2.delivered := by
  -- what is received and how it is judged does not look at the threshold
  have hanswer : (u.withThreshold threshold).answer? t = u.answer? t := rfl
  rw [turn_eq, turn_eq, hanswer]
  cases u.answer? t with
  | none => exact ⟨rfl, rfl, rfl, rfl⟩
  | some answer => exact ⟨rfl, rfl, rfl, rfl⟩

/-- Nor does it in any number of turns. -/
theorem after_withThreshold (threshold : Log.Threshold) (ts : List Turn) :
    (u.withThreshold threshold).after ts = (u.after ts).withThreshold threshold := by
  induction ts using List.reverseRecOn with
  | nil => rfl
  | append_singleton ts t ih =>
      rw [after_concat, after_concat, ih, (turn_withThreshold _ t threshold).1]

/-- The uploader of a configuration, and the one with another threshold. -/
theorem of_ofConfig (config : Config) (u : Uploader) (h : ofConfig config = .ok u) :
    readEndpoint config.endpoint = .ok u.lifecycle.endpoint
      ∧ u.transport.settings = config.settings ∧ u.lifecycle.notifier = .log
      ∧ ∀ threshold, ofConfig (config.withThreshold threshold)
        = .ok (u.withThreshold threshold) := by
  rw [ofConfig_eq] at h
  cases hread : readEndpoint config.endpoint with
  | error f =>
      rw [hread] at h
      cases h
  | ok url =>
      rw [hread] at h
      simp only at h
      split at h
      · next hagent =>
        cases h
        refine ⟨rfl, rfl, rfl, fun threshold => ?_⟩
        have hread' : readEndpoint (config.withThreshold threshold).endpoint = .ok url := hread
        have hagent' : (config.withThreshold threshold).userAgent.all isHeaderValue = true := hagent
        rw [ofConfig_eq, hread', hagent']
        rfl
      · cases h

/-! ## §6. The log of a run. -/

/-- **Each failure reaches the level `error` once.**  After any turns, the log of the next one
is what the lifecycle, the transport and the notifier write, in this order; the last is the
message of the outcome, if that is a failure.  So the errors of a run are the messages of its
failures, in order, and nothing is logged as a warning or as information.  Another threshold
changes what the transport writes, and neither requests nor outcomes, nor what is held, nor
the other records. -/
theorem logs_tell_failures_once (config : Config) (u : Uploader) (hu : ofConfig config = .ok u)
    (ts : List Turn) (t : Turn) :
    let endpoint := u.lifecycle.endpoint
    let x := u.after ts
    let o := (x.turn t).2.outcome
    readEndpoint config.endpoint = .ok endpoint
      ∧ (x.turn t).2.logs = begunRecord endpoint t.form
          :: transportRecords config.settings.threshold endpoint t.form o ++ failureRecords o
      ∧ ((u.logs ts).filter fun r => r.level = .error)
        = ((u.uploads ts).filterMap Upload.message?).map (⟨.error, ·⟩)
      ∧ (∀ r ∈ u.logs ts, r.level ≠ .info ∧ r.level ≠ .warn)
      ∧ ∀ threshold, ∃ v, ofConfig (config.withThreshold threshold) = .ok v
        ∧ let y := v.after ts
          (y.turn t).2.exchanges = (x.turn t).2.exchanges ∧ (y.turn t).2.outcome = o
            ∧ (y.turn t).1.lifecycle.last = (x.turn t).1.lifecycle.last
            ∧ (y.turn t).2.logs = begunRecord endpoint t.form
                :: transportRecords threshold endpoint t.form o ++ failureRecords o := by
  intro endpoint x o
  obtain ⟨hread, hsettings, hlog, hother⟩ := of_ofConfig config u hu
  have hx : x.Same u := u.same_after ts
  have hlogx : x.lifecycle.notifier = .log := hx.notifier.trans hlog
  have hthreshold : x.transport.settings.threshold = config.settings.threshold := by
    rw [hx.transport, hsettings]
  have hlogs := x.logs_turn_of_log t hlogx
  rw [hx.endpoint] at hlogs
  refine ⟨hread, ?_, u.errors_logs hlog ts, fun r hr => ?_, fun threshold => ?_⟩
  · rw [hthreshold] at hlogs
    exact hlogs
  · rcases u.level_logs hlog ts r hr with h | h | h
    · simp [h]
    · simp [h]
    · simp [h]
  · refine ⟨u.withThreshold threshold, hother threshold, ?_⟩
    intro y
    have hy : y = x.withThreshold threshold := u.after_withThreshold threshold ts
    obtain ⟨hnext, hexchanges, houtcome, -⟩ := x.turn_withThreshold t threshold
    have hlogsy : ((x.withThreshold threshold).turn t).2.logs
        = begunRecord x.lifecycle.endpoint t.form
            :: transportRecords threshold x.lifecycle.endpoint t.form
              ((x.withThreshold threshold).turn t).2.outcome
          ++ failureRecords ((x.withThreshold threshold).turn t).2.outcome :=
      (x.withThreshold threshold).logs_turn_of_log t hlogx
    rw [houtcome, hx.endpoint] at hlogsy
    rw [hy]
    exact ⟨hexchanges, houtcome, congrArg (fun v => v.lifecycle.last) hnext, hlogsy⟩

/-- A configuration that logs everything. -/
def talkativeConfig : Config :=
  ⟨"http://localhost:12345/v0/files", { threshold := some .trace }, none⟩

/-- A turn whose form has a file with a wrong content type. -/
def untypedTurn : Turn :=
  ⟨.unreachable, ⟨1, 2, 3, 4⟩, ⟨[.file "jar" "a.jar" (some "jar") [0x50, 0x4B]]⟩⟩

/-- A turn whose form is answered with status 503. -/
def rejectedTurn : Turn :=
  ⟨.scripted [documentAnswer 503 successDocument], ⟨5, 6, 7, 8⟩,
    ⟨[.text "group" "wk00", .file "jar" "a.jar" none [0x50, 0x4B]]⟩⟩

/-- The uploader of that configuration. -/
def talkativeUploader : Uploader :=
  ⟨⟨filesEndpoint, .log, .standard, none⟩, ⟨talkativeConfig.settings, none⟩⟩

/-- After a form that could not be sent, one is rejected: the log has a summary of its parts,
the failure, and its message as an error. -/
theorem logs_of_rejected_upload :
    ofConfig talkativeConfig = .ok talkativeUploader
      ∧ ((talkativeUploader.after [untypedTurn]).turn rejectedTurn).2.logs
        = [⟨.debug, "submitting 2 form part(s) to http://localhost:12345/v0/files"⟩,
          ⟨.trace, "posting 2 part(s) to http://localhost:12345/v0/files: group (4 bytes), "
            ++ "jar=a.jar (2 bytes)"⟩,
          ⟨.debug, "upload to http://localhost:12345/v0/files failed: "
            ++ "server responded with status 503 Service Unavailable"⟩,
          ⟨.error, "Upload failed with status 503"⟩]
      ∧ ((talkativeUploader.logs [untypedTurn]).filter fun r => r.level = .error)
        = [⟨.error, "invalid content type `jar` for field `jar`: builder error"⟩] := by
  obtain ⟨-, hlogs, herrors, -⟩ :=
    logs_tell_failures_once talkativeConfig talkativeUploader rfl [untypedTurn] rejectedTurn
  have hblocks : ∃ bs, Multipart.blocks rejectedTurn.form.parts = .ok bs := ⟨_, rfl⟩
  obtain ⟨bs, hblocks⟩ := hblocks
  have hreceived : (talkativeUploader.after [untypedTurn]).received rejectedTurn
      = some (.ok (.ofData 503 successDocument)) := by
    rw [received_of_same _ (same_after _ _)]
    exact Transport.received_document _ _ filesEndpoint _ bs hblocks (by decide)
      isReachable_files 503 (by decide) (by decide) (by decide) successDocument regular_success
      (by decide)
  have houtcome : ((talkativeUploader.after [untypedTurn]).turn rejectedTurn).2.outcome
      = some (.transportFailure (.status 503 (.ofData 503 successDocument))
        "Upload failed with status 503") := by
    rw [outcome_turn]
    unfold answer?
    rw [hreceived]
    rfl
  refine ⟨rfl, ?_, ?_⟩
  · rw [hlogs, houtcome]
    decide +kernel
  · rw [herrors]
    decide +kernel

end Uploader

end FormUpload
