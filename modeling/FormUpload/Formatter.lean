import FormUpload.Failure

/-!
# Formatters

A formatter words the failures of uploads for the person who uploads: responses
that are no success, and failures without a usable response.
-/

namespace FormUpload

open FormUpload.Text

/-- How failed uploads are worded. -/
structure Formatter where
  ofResponse : Response → String
  ofFailure : Failure → String

namespace Formatter

/-- The endpoint's own message, or else its status. -/
def responseText (r : Response) : String :=
  match r.message? with
  | some message => message
  | none => "Upload failed with status " ++ String.ofList (decimal r.status.toNat)

/-- The wording of the attached response, if there is one; a time limit has a
wording of its own. -/
def failureText (f : Failure) : String :=
  match f.response? with
  | some r => responseText r
  | none => if f.timedOut then "Upload timed out" else f.message

/-- The usual formatter. -/
def standard : Formatter := ⟨responseText, failureText⟩

end Formatter

end FormUpload
