import FormUpload.Form
import FormUpload.Formatter
import FormUpload.Notifier
import FormUpload.Text.Blank
import FormUpload.Text.Quoted
import FormUpload.Url.Reading

/-!
# Upload lifecycles

A lifecycle posts forms to one fixed endpoint and keeps the last response.  From
the caller's point of view an upload never fails: `complete` turns what the transport
answers into an `Outcome`, tells the notifier of every failure, and keeps every
response, successful or not.  A failure without a response leaves the last one where
it is.
-/

namespace FormUpload

open FormUpload.Text

/-! ## §1. Endpoints. -/

/-- Reads an endpoint: a URL, blanks around it apart. -/
def readEndpoint (endpoint : String) : Except Failure Url :=
  match trimBlank endpoint.toList with
  | [] => .error .emptyEndpoint
  | trimmed =>
      match Url.parseChars trimmed with
      | .ok url => .ok url
      | .error fault => .error (.invalidEndpoint endpoint fault)

/-! ## §2. Outcomes. -/

/-- What a transport hands back: a response, or why there is none. -/
abbrev Answer := Except Failure Response

/-- What an upload ended with. -/
inductive Outcome where
  | success (response : Response)
  /-- The endpoint does not call the upload a success. -/
  | applicationFailure (response : Response) (message : String)
  /-- No usable response was obtained. -/
  | transportFailure (failure : Failure) (message : String)

namespace Outcome

/-- The outcome of an answer. -/
def ofAnswer (formatter : Formatter) (answer : Answer) : Outcome :=
  match answer with
  | .ok r => if r.succeeded then .success r else .applicationFailure r (formatter.ofResponse r)
  | .error f => .transportFailure f (formatter.ofFailure f)

/-- Whether the upload succeeded. -/
def isSuccess : Outcome → Bool
  | .success _ => true
  | _ => false

/-- The response of the upload, or the one attached to its failure. -/
def response? : Outcome → Option Response
  | .success r => some r
  | .applicationFailure r _ => some r
  | .transportFailure f _ => f.response?

/-- The message that the notifier was given. -/
def message? : Outcome → Option String
  | .success _ => none
  | .applicationFailure _ m => some m
  | .transportFailure _ m => some m

/-- The failure, if no usable response was obtained. -/
def failure? : Outcome → Option Failure
  | .transportFailure f _ => some f
  | _ => none

end Outcome

/-! ## §3. Lifecycles. -/

/-- An endpoint, who is told of failures and how, and the last response. -/
structure Lifecycle where
  endpoint : Url
  notifier : Notifier
  formatter : Formatter
  last : Option Response

namespace Lifecycle

/-- A lifecycle for an endpoint, without a response yet. -/
def create (endpoint : String) (notifier : Notifier) (formatter : Formatter) :
    Except Failure Lifecycle := do
  return ⟨← readEndpoint endpoint, notifier, formatter, none⟩

/-- The lifecycle with another notifier. -/
def withNotifier (l : Lifecycle) (notifier : Notifier) : Lifecycle := { l with notifier }

/-- The lifecycle with another formatter. -/
def withFormatter (l : Lifecycle) (formatter : Formatter) : Lifecycle := { l with formatter }

/-- The lifecycle as diagnostics show it. -/
def description (l : Lifecycle) : String :=
  "UploadLifecycle \x7b endpoint: " ++ quotedText l.endpoint.text ++ ", .. \x7d"

/-- The record that a form is about to be posted. -/
def submitting (l : Lifecycle) (form : Form) : Log.Record :=
  .debug ("submitting " ++ String.ofList (decimal form.size) ++ " form part(s) to "
    ++ l.endpoint.text)

/-- What the transport is handed: the endpoint and the parts of the form. -/
def posted (l : Lifecycle) (form : Form) : Url × List Part := (l.endpoint, form.parts)

/-- The lifecycle after an answer: a response is kept. -/
def keep (l : Lifecycle) (answer : Answer) : Lifecycle :=
  match answer with
  | .ok r => { l with last := some r }
  | .error _ => l

/-- The outcome of an answer. -/
def outcome (l : Lifecycle) (answer : Answer) : Outcome := .ofAnswer l.formatter answer

/-- What becomes of an outcome's message. -/
def notice (l : Lifecycle) (o : Outcome) : Notice :=
  match o.message? with
  | some message => l.notifier.notify message
  | none => .none

/-- Completes an upload with the transport's answer. -/
def complete (l : Lifecycle) (answer : Answer) : Lifecycle × Outcome × Notice :=
  (l.keep answer, l.outcome answer, l.notice (l.outcome answer))

end Lifecycle

end FormUpload
