import FormUpload.Http.Body
import FormUpload.Http.Network
import FormUpload.Http.Target
import FormUpload.Url.Reading
import FormUpload.Url.Reference

/-!
# Hops

A hop is one request on the way from an endpoint to its final answer.  Some statuses
send the client elsewhere (`Hop.next?`): 301, 302 and 303 to be asked with a `GET`
that has no body, 307 and 308 to be asked the same again.  A form with parts can not be
sent a second time, so the last two are followed only where there is nothing to
send.
-/

namespace FormUpload.Http

open FormUpload.Text

/-- A body that is to be sent. -/
structure Sendable where
  contentType : String
  length : Nat
  octets : Bytes
deriving DecidableEq, Repr

/-- One request on the way. -/
structure Hop where
  method : Method
  url : Url
  target : String
  authorization : Option String
  referer : Option String
  body : Option Sendable

namespace Hop

/-- The first hop: the form is posted to the endpoint. -/
def first (endpoint : Url) (body : Sendable) : Hop :=
  let (url, authorization) := withoutUser endpoint
  ⟨.post, url, targetText url, authorization, none, some body⟩

/-- A header line, if there is something to say. -/
def header (name : String) (value : Option String) : List (String × String) :=
  match value with
  | some v => [(name, v)]
  | none => []

/-- The request of a hop. -/
def request (userAgent : Option String) (h : Hop) : Request :=
  { secure := h.url.scheme == "https"
    method := h.method
    target := h.target
    headers := [("accept", "*/*"), ("accept-encoding", "gzip")]
      ++ header "authorization" h.authorization
      ++ header "content-length" (h.body.map fun b => String.ofList (decimal b.length))
      ++ header "content-type" (h.body.map (·.contentType))
      ++ [("host", hostText h.url)]
      ++ header "referer" h.referer
      ++ header "user-agent" userAgent
    body := (h.body.map (·.octets)).getD [] }

/-- Whether a status sends the client elsewhere. -/
def isRedirect (status : Nat) : Bool := [301, 302, 303, 307, 308].contains status

/-- Whether the same request is to be made elsewhere. -/
def repeatsRequest (status : Nat) : Bool := status == 307 || status == 308

/-- Method and body of the request that a status asks for; `none` if it can not
be made. -/
def onward? (h : Hop) (status : Nat) : Option (Method × Option Sendable) :=
  if repeatsRequest status then
    if (h.body.map (·.octets)).getD [] = [] then some (h.method, h.body) else none
  else if isRedirect status then some (.get, none)
  else none

/-- What the location of an answer stands for, as text without fragment. -/
def destination? (h : Hop) (headers : Headers) : Option String := do
  let location ← headers.first? "location"
  let reference ← Url.Reference.parse? (← Utf8.decode? location)
  let base ← Url.Reference.parse? h.target.toList
  let found := base.resolve reference
  let path := if found.path.isEmpty then ['/'] else found.path
  some (String.ofList { found with path, fragment := none }.text)

/-- How the next hop names this one.  What was asked for over TLS is not told to others
than TLS servers. -/
def refererFor (h : Hop) (next : Url) : Option String :=
  if h.url.scheme == "https" && next.scheme == "http" then none
  else some h.url.withoutCredentials.withoutFragment.text

/-- Where an answer sends the client. -/
inductive Step where
  /-- Nowhere: it is the final answer. -/
  | stay
  /-- To a place that is no URL. -/
  | lost
  | follow (next : Hop)

/-- The next hop after an answer. -/
def next? (h : Hop) (head : Head) : Step :=
  match h.onward? head.status, h.destination? head.headers with
  | some (method, body), some target =>
      match Url.parse target with
      | .error _ => .lost
      | .ok url =>
          if isWritable url then
            .follow ⟨method, url, target,
              if sameHost url h.url then h.authorization else none, h.refererFor url, body⟩
          else .stay
  | _, _ => .stay

end Hop

end FormUpload.Http
