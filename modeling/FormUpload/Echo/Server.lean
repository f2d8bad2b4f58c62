import FormUpload.Echo.Field
import FormUpload.Http.Network
import FormUpload.Http.Status
import FormUpload.Json.Printer
import FormUpload.Json.Reader
import FormUpload.Url.Reading

/-!
# The echo server

An upload endpoint that says what it received.  Each route answers in its own way:

* `/success` with a successful envelope around the fields,
* `/failure` with a message and no success,
* `/malformed` with the fields and no word on success,
* `/error` with a message and status 500,
* `/text` with a plain text,
* `/slow` like `/success`, after as many milliseconds as the field `delay_ms` says.

A body that can not be read is answered with status 400.
-/

namespace FormUpload.Echo

open FormUpload.Text
open FormUpload.Json (Value)

/-! ## §1. Answers. -/

/-- An answer of the server. -/
structure Reply where
  status : UInt16
  contentType : Option String
  body : Bytes
  /-- How many milliseconds it takes. -/
  delay : Nat
deriving DecidableEq, Repr

/-- The answer as it is written to the connection. -/
def Reply.octets (r : Reply) : Bytes :=
  bytesOf ("HTTP/1.1 " ++ Http.statusText r.status ++ "\r\n"
    ++ (match r.contentType with
      | some t => "content-type: " ++ t ++ "\r\n"
      | none => "")
    ++ "content-length: " ++ String.ofList (decimal r.body.length) ++ "\r\n\r\n") ++ r.body

/-- An answer that holds a document. -/
def Reply.document (status : UInt16) (v : Value) : Reply :=
  ⟨status, some "application/json", bytesOf v.text, 0⟩

/-- An answer that holds a text. -/
def Reply.plain (status : UInt16) (s : String) : Reply :=
  ⟨status, some "text/plain; charset=utf-8", bytesOf s, 0⟩

/-- An answer without a body. -/
def Reply.empty (status : UInt16) : Reply := ⟨status, none, [], 0⟩

/-! ## §2. Envelopes. -/

/-- A text, or null. -/
def textOrNull (s : Option String) : Value := (s.map Value.string).getD .null

/-- What is said about a field. -/
def Field.document (f : Field) : Value :=
  .ofMembers [("name", textOrNull f.name), ("fileName", textOrNull f.fileName),
    ("contentType", textOrNull f.contentType), ("size", .number (.whole f.content.length)),
    ("text", .string (stringLossy f.content))]

/-- What is said about a body. -/
def echoOf (contentType : String) (fields : List Field) : Value :=
  .ofMembers [("contentType", .string contentType), ("parts", .array (fields.map Field.document))]

/-- The message of the route that fails. -/
def failureMessage : String := "stream jar is invalid"

/-- The message of the route that breaks down. -/
def errorMessage : String := "internal error while saving file"

/-- An envelope that tells of a success. -/
def successEnvelope (echo : Value) : Value :=
  .ofMembers [("isSuccess", .bool true), ("result", echo)]

/-- How long the slow route waits. -/
def delayOf (fields : List Field) : Nat :=
  match fields.find? (·.name == some "delay_ms") with
  | some f =>
      let text := Utf8.lossy f.content
      let digits := if text.head? = some '+' then text.tail else text
      let n := digits.foldl (fun n c => n * 10 + (c.toNat - 0x30)) 0
      if !digits.isEmpty && digits.all isDigitChar && n < 0x10000000000000000 then n else 0
  | none => 0

/-! ## §3. Routes. -/

/-- The routes. -/
inductive Route where
  | success
  | failure
  | malformed
  | error
  | text
  | slow
deriving DecidableEq, Repr

/-- The route at a path. -/
def Route.at? (path : String) : Option Route :=
  if path == "/success" then some .success
  else if path == "/failure" then some .failure
  else if path == "/malformed" then some .malformed
  else if path == "/error" then some .error
  else if path == "/text" then some .text
  else if path == "/slow" then some .slow
  else none

/-- The answer of a route to a body that was read. -/
def Route.reply (contentType : String) (fields : List Field) : Route → Reply
  | .success => .document 200 (successEnvelope (echoOf contentType fields))
  | .failure =>
      .document 200 (.ofMembers [("isSuccess", .bool false),
        ("errorMessage", .ofMembers [("message", .string failureMessage)])])
  | .malformed => .document 200 (.ofMembers [("result", echoOf contentType fields)])
  | .error =>
      .document 500 (.ofMembers [("isSuccess", .bool false),
        ("errorMessage", .string errorMessage)])
  | .text => .plain 200 "ok"
  | .slow =>
      { Reply.document 200 (successEnvelope (echoOf contentType fields)) with
        delay := delayOf fields }

/-! ## §4. The server. -/

/-- Bodies longer than this are not read. -/
def bodyLimit : Nat := 2097152

/-- What a multipart content type begins with. -/
def typeStart : List Char := "multipart/form-data; boundary=".toList

/-- The path that a request asks for. -/
def pathOf (r : Http.Request) : String :=
  match Url.parse r.target with
  | .ok u => u.path.text
  | .error _ => r.target

/-- The answer to a request. -/
def reply (r : Http.Request) : Reply :=
  match Route.at? (pathOf r) with
  | none => .empty 404
  | some route =>
      if r.method != .post then .empty 405
      else
        let contentType := (r.headers.lookup "content-type").getD ""
        match afterStart? typeStart contentType.toList with
        | none => .plain 400 "Invalid `boundary` for `multipart/form-data` request"
        | some boundary =>
            let fields :=
              if bodyLimit < r.body.length then none
              else readBody (String.ofList boundary) r.body
            match fields with
            | none => .plain 400 "Error parsing `multipart/form-data` request"
            | some fields => route.reply contentType fields

/-- The network that leads to the echo server alone. -/
def network : Http.Network := fun _ r =>
  let a := reply r
  .received a.delay a.octets false

/-- The URL of a route of the server at the given address. -/
def url (address path : String) : String :=
  "http://" ++ address ++ "/" ++ String.ofList (path.toList.dropWhile (· == '/'))

end FormUpload.Echo
