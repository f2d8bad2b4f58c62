import FormUpload.CommandLine.Arguments
import FormUpload.FileTree
import FormUpload.Uploader

/-!
# Running the program

An upload reads its files first, then looks at the endpoint, and only then posts
the form: fields in order, then files in order.  The response is printed unless the
program is to be quiet; what went wrong is printed in any case.

`Console` is everything that a run shows.  A run that waits for ever has none.
-/

namespace FormUpload.CommandLine

open FormUpload.Text
open FormUpload.Multipart (Boundary)

/-! ## §1. Output. -/

/-- What a run shows. -/
structure Console where
  exitCode : Nat
  stdout : String
  stderr : String
  exchanges : List Http.Exchange
  logs : List Log.Record

/-- The response as it is printed: its document, one item or member a line. -/
def responseText (quiet : Bool) (r : Response) : String :=
  if quiet then "" else r.data.prettyText ++ "\n"

/-- The line that a notified message is printed as. -/
def noticeText (message : String) : String := "✗ " ++ message ++ "\n"

/-- A text whose lines after the first are indented. -/
def indented (width : Nat) (s : String) : List Char :=
  joinWith ('\n' :: List.replicate width ' ') (splitWhere (· == '\n') s.toList)

/-- What lies under an error: one cause a line, numbered if there are several. -/
def causesText (causes : List String) : List Char :=
  match causes with
  | [] => []
  | [cause] => "\n\nCaused by:\n    ".toList ++ indented 4 cause
  | _ =>
      "\n\nCaused by:".toList ++ (causes.zipIdx.flatMap fun (cause, n) =>
        '\n' :: "    ".toList ++ decimal n ++ [':', ' '] ++ indented 7 cause)

/-- An error as the program ends with it. -/
def errorText (message : String) (causes : List String) : String :=
  "Error: " ++ message ++ String.ofList (causesText causes) ++ "\n"

/-- The run that ends with an error before anything is sent. -/
def Console.failed (message : String) (causes : List String) (logs : List Log.Record) : Console :=
  ⟨1, "", errorText message causes, [], logs⟩

/-! ## §2. Uploads. -/

/-- The configuration of an upload. -/
def config (a : UploadArguments) : Config :=
  { endpoint := a.endpoint
    settings :=
      { threshold := some .debug, timeout := a.timeout.map (· * 1000)
        rejectErrorStatus := !a.acceptErrorStatus }
    userAgent := some (programName ++ "/" ++ programVersion) }

/-- How a file is read by its path. -/
abbrev FileReader := Bytes → Except FileFault Bytes

/-- Reads files into parts; the first that can not be read makes it fail. -/
def fileParts (read : FileReader) : List (String × String) → Except Failure (List Part)
  | [] => .ok []
  | (name, path) :: r =>
      match FileTree.partFrom read name (bytesOf path) with
      | .error f => .error f
      | .ok p =>
          match fileParts read r with
          | .error f => .error f
          | .ok ps => .ok (p :: ps)

/-- The form of an upload: fields, then files. -/
def form (read : FileReader) (a : UploadArguments) : Except Failure Form :=
  match fileParts read a.files with
  | .error f => .error f
  | .ok ps => .ok (.ofParts (a.fields.map (fun field => .text field.1 field.2) ++ ps))

/-- The record that a form was put together. -/
def builtRecord (f : Form) : Log.Record :=
  .debug ("built form with " ++ String.ofList (decimal f.size) ++ " part(s)")

/-- What an upload's outcome shows. -/
def outcomeConsole (a : UploadArguments) (built : Log.Record) (u : Uploader.Upload)
    (outcome : Outcome) : Console :=
  let notices := String.join (u.delivered.map noticeText)
  let logs := built :: u.logs
  match outcome with
  | .success r => ⟨0, responseText a.quiet r, notices, u.exchanges, logs⟩
  | .applicationFailure r _ =>
      ⟨1, responseText a.quiet r,
        notices ++ errorText ("Upload to " ++ a.endpoint ++ " was not successful") [],
        u.exchanges, logs⟩
  | .transportFailure _ _ =>
      ⟨1, "", notices ++ errorText ("Upload to " ++ a.endpoint ++ " failed") [], u.exchanges,
        logs⟩

/-- Runs the upload command. -/
def runUpload (read : FileReader) (network : Http.Network) (boundary : Boundary)
    (a : UploadArguments) : Option Console :=
  match form read a with
  | .error f => some (.failed f.message f.cause?.toList [])
  | .ok f =>
      let built := builtRecord f
      match Uploader.ofConfig (config a) with
      | .error e =>
          some (.failed "Failed to set up upload" (e.message :: e.cause?.toList) [built])
      | .ok uploader =>
          let (_, upload) := (uploader.withNotifier .direct).submit network boundary f
          upload.outcome.map (outcomeConsole a built upload)

/-! ## §3. The program. -/

/-- What a command line comes to: nothing to do, or a run. -/
inductive Run where
  | usage (fault : UsageFault)
  | done (console : Console)
  /-- The run waits for ever. -/
  | waiting

/-- Runs a command line. -/
def run (environment : Option String) (read : FileReader) (network : Http.Network)
    (boundary : Boundary) (arguments : List String) : Run :=
  match readArguments environment arguments with
  | .error fault => .usage fault
  | .ok a =>
      match runUpload read network boundary a with
      | some console => .done console
      | none => .waiting

/-- What a usage fault shows. -/
def usageConsole (environment : Option String) (fault : UsageFault) : Console :=
  let text := fault.text environment
  if fault.isAnswer then ⟨fault.exitCode, text, "", [], []⟩ else ⟨fault.exitCode, "", text, [], []⟩

end FormUpload.CommandLine
