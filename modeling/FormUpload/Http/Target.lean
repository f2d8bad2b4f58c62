import FormUpload.Text.Base64
import FormUpload.Text.Percent
import FormUpload.Url

/-!
# Where requests go

Only `http` and `https` URLs can be asked for anything, and only if their authority
holds no character that a request may not.  User and password are taken out of a URL
and sent in a header instead, unless the user name is not UTF-8.
-/

namespace FormUpload.Http

open FormUpload.Text

/-! ## §1. What can be asked for. -/

/-- Whether the scheme is one that requests are made for. -/
def hasWebScheme (u : Url) : Bool := u.scheme == "http" || u.scheme == "https"

/-- The characters of an authority. -/
def isAuthorityChar (c : Char) : Bool :=
  isLetter c || isDigitChar c
    || ['!', '$', '&', '\'', '(', ')', '*', '+', ',', '-', '.', ';', '=', '_', '~', ':', '[',
      ']', '@'].contains c

/-- The longest URL in octets. -/
def targetLimit : Nat := 65534

/-- Whether a request for the URL can be written.  Percent signs are for users and
passwords only. -/
def isWritable (u : Url) : Bool :=
  u.credentialText.toList.all (fun c => isAuthorityChar c || c == '%')
    && ((u.host.map (·.text)).getD "").toList.all isAuthorityChar
    && (bytesOf u.text).length ≤ targetLimit

/-- The URL as a request names it. -/
def targetText (u : Url) : String := u.withoutFragment.text

/-- Host and port as a request names them. -/
def hostText (u : Url) : String :=
  (u.host.map (·.text)).getD ""
    ++ (match u.port with
      | some p => ":" ++ String.ofList (decimal p)
      | none => "")

/-- The port that is meant, also if it goes without saying. -/
def portMeant (u : Url) : Option Nat := u.port <|> Url.defaultPort? u.scheme

/-- Whether two URLs lead to the same host and port. -/
def sameHost (u v : Url) : Bool := u.hostText? == v.hostText? && portMeant u == portMeant v

/-! ## §2. Users and passwords. -/

/-- User and password of a URL, decoded; a password that is not UTF-8 does not
count. -/
def credentials? (u : Url) : Option (String × Option String) := do
  let user ← string? (percentDecode (bytesOf u.username))
  let password := u.password.bind fun p => string? (percentDecode (bytesOf p))
  if user == "" && password.isNone then none else some (user, password)

/-- The header value that names user and password. -/
def authorizationText (credentials : String × Option String) : String :=
  "Basic " ++ String.ofList
    (base64 (bytesOf (credentials.1 ++ ":" ++ credentials.2.getD "")))

/-- The URL that is asked for, and the header value for its user. -/
def withoutUser (u : Url) : Url × Option String :=
  match credentials? u with
  | some c => (u.withoutCredentials, some (authorizationText c))
  | none => (u, none)

end FormUpload.Http
