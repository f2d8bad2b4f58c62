import FormUpload.Failure
import FormUpload.Http.Gzip
import FormUpload.Http.Hop

/-!
# Sending

`send` makes the requests that lead from an endpoint to its final answer, and reads
that answer.  At most `redirectLimit` requests follow the first.  Nothing is tried
twice: a connection that is closed before the head is whole, or before the body is,
ends it all.

A time limit counts only where the network falls silent; it is one limit for all
requests together.  Without one, the client waits for ever, and there is no result.
-/

namespace FormUpload.Http

open FormUpload.Text

/-! ## §1. Heads that have come. -/

/-- What has come of an answer. -/
inductive Received where
  | answer (head : Head) (framing : Framing) (rest : Bytes) (silent : Bool)
  /-- The connection failed, was closed too early, or carried no answer. -/
  | broken
  /-- More would have to come and does not. -/
  | silent

/-- The head in what comes back. -/
def receive (limit : Option Nat) (d : Delivery) : Received :=
  match d with
  | .refused => .broken
  | .received delay octets silent =>
      if limit.any (· ≤ delay) then .silent
      else match Head.read octets with
        | .broken => .broken
        | .unfinished => if silent then .silent else .broken
        | .done head rest =>
            match Framing.of? head with
            | some framing => .answer head framing rest silent
            | none => .broken

/-! ## §2. Final answers. -/

/-- A final answer. -/
structure RawResponse where
  status : UInt16
  headers : List (String × String)
  body : Bytes
deriving DecidableEq, Repr

/-- Takes the headers of one name out; the last header moves to the place of the
first of them. -/
def takeOut (name : String) (hs : List (String × Bytes)) : List (String × Bytes) :=
  if hs.any (·.1 == name) then
    let before := hs.takeWhile (·.1 != name)
    let after := (hs.dropWhile (·.1 != name)).filter (·.1 != name)
    match after.getLast? with
    | none => before
    | some last =>
        before ++ after.filter (·.1 == last.1) ++ after.filter (·.1 != last.1)
  else hs

/-- Whether a body comes packed.  One that is announced to have no octets does not. -/
def isPacked (hs : Headers) : Bool :=
  (hs.all "content-encoding").contains (bytesOf "gzip")
    && hs.first? "content-length" != some (bytesOf "0")

/-- The final answer with a whole body; `none` if that can not be unpacked. -/
def finalAnswer? (head : Head) (body : Bytes) : Option RawResponse :=
  let headers := Headers.grouped head.headers
  let texts := fun (hs : Headers) => hs.map fun h => (h.1, stringLossy h.2)
  if isPacked headers then
    (unpack? body).map fun contents =>
      ⟨UInt16.ofNat head.status,
        texts (takeOut "content-length" (takeOut "content-encoding" headers)),
        contents⟩
  else some ⟨UInt16.ofNat head.status, texts headers, body⟩

/-- What sending comes to; `none` if the client waits for ever. -/
abbrev Result := Option (Except RequestFault RawResponse)

/-- The result where the network falls silent. -/
def onSilence (limit : Option Nat) (fault : RequestFault) : Result :=
  if limit.isSome then some (.error fault) else none

/-- Reads the body after the head of the final answer. -/
def finish (limit : Option Nat) (head : Head) (framing : Framing) (rest : Bytes) (silent : Bool) :
    Result :=
  match framing.read (!silent) rest with
  | .done body _ =>
      match finalAnswer? head body with
      | some answer => some (.ok answer)
      | none => some (.error (.notReceived false))
  | .broken => some (.error (.notReceived false))
  | .unfinished =>
      if silent then onSilence limit (.notReceived true) else some (.error (.notReceived false))

/-- Whether an answer has come to its end, or is broken, so that no more of it has to
be read. -/
def isComplete (octets : Bytes) : Bool :=
  match Head.read octets with
  | .unfinished => false
  | .broken => true
  | .done head rest =>
      match Framing.of? head with
      | none => true
      | some framing =>
          match framing.read false rest with
          | .unfinished => false
          | _ => true

/-! ## §3. The way to the final answer. -/

/-- A request and what came back. -/
structure Exchange where
  request : Request
  delivery : Delivery

/-- The requests that were made, and what they came to. -/
structure Sending where
  exchanges : List Exchange
  result : Result

/-- How many requests may follow the first. -/
def redirectLimit : Nat := 10

/-- How requests are made. -/
structure Client where
  userAgent : Option String
  /-- The time limit in milliseconds. -/
  limit : Option Nat

/-- The client after some of its time has passed. -/
def Client.after (client : Client) (delay : Nat) : Client :=
  { client with limit := client.limit.map (· - delay) }

/-- Makes the request of a hop and those it leads to; `place` requests have been
made before.  Faults name the endpoint. -/
def follow (client : Client) (network : Network) (endpoint : String) (redirects place : Nat)
    (hop : Hop) : Sending :=
  let request := hop.request client.userAgent
  let delivery := network place request
  let made : List Exchange := [⟨request, delivery⟩]
  match receive client.limit delivery with
  | .broken => ⟨made, some (.error (.notSent endpoint false))⟩
  | .silent => ⟨made, onSilence client.limit (.notSent endpoint true)⟩
  | .answer head framing rest silent =>
      match hop.next? head with
      | .stay => ⟨made, finish client.limit head framing rest silent⟩
      | .lost => ⟨made, some (.error (.notBuilt none))⟩
      | .follow next =>
          match redirects with
          | 0 => ⟨made, some (.error (.tooManyRedirects hop.url.text))⟩
          | redirects + 1 =>
              if hasWebScheme next.url then
                let more := follow (client.after delivery.delay) network endpoint redirects
                  (place + 1) next
                ⟨made ++ more.exchanges, more.result⟩
              else ⟨made, some (.error (.notBuilt (some next.url.text)))⟩

/-- Posts a body to an endpoint. -/
def send (client : Client) (network : Network) (endpoint : Url) (body : Sendable) : Sending :=
  let hop := Hop.first endpoint body
  if hasWebScheme hop.url && isWritable hop.url then
    follow client network hop.url.text redirectLimit 0 hop
  else ⟨[], some (.error (.notBuilt (some hop.url.text)))⟩

end FormUpload.Http
