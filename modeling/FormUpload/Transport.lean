import FormUpload.Http.Exchange
import FormUpload.Lifecycle
import FormUpload.Multipart

/-!
# The HTTP transport

A transport posts forms over HTTP.  A form is checked and put together before
anything is sent, so a wrong content type comes before every other fault.  A response
whose status is no success is a failure, unless the transport is told to accept it.

What is logged names the sizes of parts, never their contents.
-/

namespace FormUpload

open FormUpload.Text
open FormUpload.Multipart (Boundary)

/-! ## §1. Settings. -/

/-- How a transport behaves. -/
structure Settings where
  threshold : Log.Threshold := some .debug
  /-- The time limit in milliseconds. -/
  timeout : Option Nat := none
  /-- Whether a status that is no success is a failure. -/
  rejectErrorStatus : Bool := true
deriving DecidableEq, Repr

/-- The settings where nothing is said. -/
def Settings.standard : Settings := {}

/-- A transport: its settings, and how it names itself. -/
structure Transport where
  settings : Settings
  userAgent : Option String
deriving DecidableEq, Repr

/-! ## §2. Posting. -/

/-- What posting a form comes to. -/
structure Posting where
  exchanges : List Http.Exchange
  /-- The answer; none if the endpoint keeps the client waiting for ever. -/
  answer : Option Answer
  logs : List Log.Record

namespace Transport

/-- A number as text. -/
def numberText (n : Nat) : String := String.ofList (decimal n)

/-- One part in a summary. -/
def partSummary : Part → String
  | .text name value => name ++ " (" ++ numberText (bytesOf value).length ++ " bytes)"
  | .file name fileName _ content =>
      name ++ "=" ++ fileName ++ " (" ++ numberText content.length ++ " bytes)"

/-- The names and sizes of parts. -/
def summary (parts : List Part) : String := ", ".intercalate (parts.map partSummary)

/-- The record that a form is posted, as detailed as the threshold asks for. -/
def postingRecords (threshold : Log.Threshold) (endpoint : Url) (parts : List Part) :
    List Log.Record :=
  let text := "posting " ++ numberText parts.length ++ " part(s) to " ++ endpoint.text
  if threshold.admits .trace then [⟨.trace, text ++ ": " ++ summary parts⟩]
  else if threshold.admits .debug then [⟨.debug, text⟩]
  else []

/-- A truth value as text. -/
def truthText (b : Bool) : String := if b then "true" else "false"

/-- The record of an answer. -/
def answerRecords (threshold : Log.Threshold) (endpoint : Url) (answer : Answer) :
    List Log.Record :=
  if threshold.admits .debug then
    match answer with
    | .ok r =>
        [.debug ("upload to " ++ endpoint.text ++ " returned status " ++ numberText r.status.toNat
          ++ " (isSuccess: " ++ truthText r.succeeded ++ ")")]
    | .error f => [.debug ("upload to " ++ endpoint.text ++ " failed: " ++ f.message)]
  else []

/-- The body of a form. -/
def sendable (boundary : Boundary) (blocks : List Multipart.Block) : Http.Sendable :=
  ⟨Multipart.bodyType boundary.text, Multipart.encodedLength boundary.text blocks,
    Multipart.encode boundary.text blocks⟩

/-- The response in a final answer, or the failure that its status makes it. -/
def accept (settings : Settings) (raw : Http.RawResponse) : Answer :=
  let response := Response.ofBody raw.status raw.headers raw.body
  if settings.rejectErrorStatus && !Http.isFulfilled raw.status then
    .error (.status raw.status response)
  else .ok response

/-- The answer that sending came to. -/
def answerOf (settings : Settings) (result : Http.Result) : Option Answer :=
  result.map fun
    | .ok raw => accept settings raw
    | .error fault => .error (.request fault)

/-- The requests that posting a form makes, and the answer. -/
def exchange (t : Transport) (network : Http.Network) (boundary : Boundary) (endpoint : Url)
    (parts : List Part) : List Http.Exchange × Option Answer :=
  match Multipart.blocks parts with
  | .error f => ([], some (.error f))
  | .ok blocks =>
      let sending := Http.send ⟨t.userAgent, t.settings.timeout⟩ network endpoint
        (sendable boundary blocks)
      (sending.exchanges, answerOf t.settings sending.result)

/-- Posts a form to an endpoint. -/
def post (t : Transport) (network : Http.Network) (boundary : Boundary) (endpoint : Url)
    (parts : List Part) : Posting :=
  let (exchanges, answer) := t.exchange network boundary endpoint parts
  let after := match answer with
    | some a => answerRecords t.settings.threshold endpoint a
    | none => []
  ⟨exchanges, answer, postingRecords t.settings.threshold endpoint parts ++ after⟩

end Transport

end FormUpload
