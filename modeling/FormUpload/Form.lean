import FormUpload.Text.Utf8

/-!
# Forms

A form is an ordered list of parts, each a text field or a file.  Nothing is
checked here: names may repeat and the form may be empty; the endpoint decides
what it accepts.
-/

namespace FormUpload

open FormUpload.Text

/-- One part of a form. -/
inductive Part where
  | text (name value : String)
  /-- A file; without a content type, the file name stands for one. -/
  | file (name fileName : String) (contentType : Option String) (content : Bytes)
deriving DecidableEq, Repr

namespace Part

/-- The name of a part. -/
def name : Part → String
  | .text name _ => name
  | .file name _ _ _ => name

/-- Whether the part is a file. -/
def isFile : Part → Bool
  | .text _ _ => false
  | .file _ _ _ _ => true

/-- The octets that a part carries. -/
def content : Part → Bytes
  | .text _ value => bytesOf value
  | .file _ _ _ content => content

end Part

/-- A form. -/
structure Form where
  parts : List Part
deriving DecidableEq, Repr

namespace Form

/-- The form without parts. -/
def empty : Form := ⟨[]⟩

/-- The form with the given parts. -/
def ofParts (parts : List Part) : Form := ⟨parts⟩

/-- The form with one more part at its end. -/
def push (form : Form) (part : Part) : Form := ⟨form.parts ++ [part]⟩

/-- The form with more parts at its end. -/
def append (form : Form) (parts : List Part) : Form := ⟨form.parts ++ parts⟩

/-- Adds a text field. -/
def addText (form : Form) (name value : String) : Form := form.push (.text name value)

/-- Adds a file without a content type. -/
def addFile (form : Form) (name fileName : String) (content : Bytes) : Form :=
  form.push (.file name fileName none content)

/-- Adds a file with a content type. -/
def addTypedFile (form : Form) (name fileName contentType : String) (content : Bytes) : Form :=
  form.push (.file name fileName (some contentType) content)

/-- The number of parts. -/
def size (form : Form) : Nat := form.parts.length

/-- Whether the form has no parts. -/
def isEmpty (form : Form) : Bool := form.parts.isEmpty

/-- The part at the given place. -/
def get? (form : Form) (place : Nat) : Option Part := form.parts[place]?

end Form

end FormUpload
