import FormUpload.Json.Reader

/-!
# Responses

What an upload endpoint answered: a status, headers and a document.  The document
is read from the body by `Response.ofBody`; a body that is no JSON text becomes a
string.  Whether the upload succeeded is the endpoint's own word (`succeeded`):
only the member `isSuccess` with the value `true` counts, whatever the status.
-/

namespace FormUpload

open FormUpload.Text
open FormUpload.Json (Value)

/-- A response received from an upload endpoint. -/
structure Response where
  status : UInt16
  headers : List (String × String)
  data : Value
deriving Repr

namespace Response

/-! ## §1. Bodies. -/

/-- The document of a body: null if the body is empty, its JSON value if it has
one, and otherwise its text. -/
def dataOfBody (body : Bytes) : Value :=
  if body.isEmpty then .null
  else match Value.read body with
    | .ok v => v
    | .error _ => .string (stringLossy body)

/-- The response with the document of a body. -/
def ofBody (status : UInt16) (headers : List (String × String)) (body : Bytes) : Response :=
  ⟨status, headers, dataOfBody body⟩

/-- A response without headers. -/
def ofData (status : UInt16) (data : Value) : Response := ⟨status, [], data⟩

/-! ## §2. What the endpoint says. -/

/-- The member that tells whether an upload succeeded. -/
def successField : String := "isSuccess"

/-- Whether the endpoint calls the upload a success. -/
def succeeded (r : Response) : Bool :=
  ((r.data.get? successField).bind Value.asBool?).getD false

/-- The endpoint's error message: the `message` inside `errorMessage`, then
`errorMessage` itself, then `message`, the first of them that is a text. -/
def message? (r : Response) : Option String :=
  let detail := r.data.get? "errorMessage"
  ((detail.bind (·.get? "message")).bind Value.asString?)
    <|> detail.bind Value.asString?
    <|> (r.data.get? "message").bind Value.asString?

/-- The value of the first header with the given name, in any letter case. -/
def header? (r : Response) (name : String) : Option String :=
  (r.headers.find? fun h => sameIgnoringCase h.1 name).map (·.2)

/-! ## §3. Equality and text. -/

/-- Equality of responses, documents compared as values. -/
def same (a b : Response) : Bool :=
  a.status == b.status && a.headers == b.headers && a.data.same b.data

/-- The document that stands for the headers. -/
def headerItems (headers : List (String × String)) : Value :=
  .array (headers.map fun h => .array [.string h.1, .string h.2])

/-- The compact text of a response: its fields as members of an object, in the
order status, headers, data. -/
def text (r : Response) : String :=
  (Value.object [("status", .number (.whole r.status.toNat)),
    ("headers", headerItems r.headers), ("data", r.data)]).text

end Response

end FormUpload
