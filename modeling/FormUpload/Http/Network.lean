import FormUpload.Text.Utf8
import FormUpload.Url.Reference

/-!
# Requests and the network

What is written to a connection and what comes back.  A connection serves one
request.  The network is a function from the request and how many requests went
before it to what comes back, so it may answer by a script or by what it is asked.

How octets are encrypted is not told.  A request over TLS says so, and the network
answers it as any other: where no TLS connection can be made, it refuses.
-/

namespace FormUpload.Http

open FormUpload.Text

/-- The methods in use. -/
inductive Method where
  | get
  | post
deriving DecidableEq, Repr

/-- The name of a method. -/
def Method.name : Method → String
  | .get => "GET"
  | .post => "POST"

/-- A request.  Header names are in lower case. -/
structure Request where
  /-- Whether it is made over TLS. -/
  secure : Bool
  method : Method
  /-- The URL that is asked for. -/
  target : String
  headers : List (String × String)
  body : Bytes
deriving DecidableEq, Repr

/-- What a request asks for as its first line says it: the whole URL if a proxy is to
fetch it, or else path and query.  Over TLS it is the server that reads the line, even
if a proxy passes it on. -/
def Request.place (proxied : Bool) (r : Request) : String :=
  if proxied && !r.secure then r.target
  else
    let url := Url.Reference.split r.target.toList
    String.ofList (Url.Reference.text ⟨none, none, url.path, url.query, none⟩)

/-- The first line of a request. -/
def Request.lineFor (proxied : Bool) (r : Request) : String :=
  r.method.name ++ " " ++ r.place proxied ++ " HTTP/1.1"

/-- The first line of a request that goes through a proxy. -/
def Request.line (r : Request) : String := r.lineFor true

/-- The octets of a request. -/
def Request.octets (proxied : Bool) (r : Request) : Bytes :=
  bytesOf (r.lineFor proxied ++ "\r\n"
    ++ String.join (r.headers.map fun h => h.1 ++ ": " ++ h.2 ++ "\r\n") ++ "\r\n") ++ r.body

/-- What comes back over a connection. -/
inductive Delivery where
  /-- No connection could be made. -/
  | refused
  /-- Octets come after some milliseconds.  Then the connection is closed, or it
  stays open in silence. -/
  | received (delay : Nat) (octets : Bytes) (silent : Bool)
deriving DecidableEq, Repr

/-- How long what comes back takes. -/
def Delivery.delay : Delivery → Nat
  | .received delay _ _ => delay
  | .refused => 0

/-- Whether the connection stays open in silence. -/
def Delivery.isSilent : Delivery → Bool
  | .received _ _ silent => silent
  | .refused => false

/-- What comes back for a request, given the number of requests before it. -/
abbrev Network := Nat → Request → Delivery

/-- The network through which nothing can be reached. -/
def Network.unreachable : Network := fun _ _ => .refused

/-- A connection that is closed without an answer. -/
def Delivery.closed : Delivery := .received 0 [] false

/-- The network that gives the deliveries of a script, one for each request, over TLS or
not; after the last one the connection is closed. -/
def Network.scripted (script : List Delivery) : Network := fun place _ => script.getD place .closed

end FormUpload.Http
