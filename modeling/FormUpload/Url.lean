import FormUpload.Url.Host

/-!
# URLs

A parsed URL and its text.  All parts are kept in the encoded form in which they
are written.  The host is absent if the URL has no authority at all; an authority
without a host has the empty domain.

Schemes fall into three kinds, which differ in how the rest is read: `file`, the
network schemes with a default port, and all others.
-/

namespace FormUpload

open FormUpload.Text

namespace Url

/-! ## §1. Schemes. -/

/-- The three kinds of schemes. -/
inductive SchemeKind where
  | file
  | network
  | foreign
deriving DecidableEq, Repr

/-- The default port of a network scheme. -/
def defaultPort? (scheme : String) : Option Nat :=
  if scheme == "http" || scheme == "ws" then some 80
  else if scheme == "https" || scheme == "wss" then some 443
  else if scheme == "ftp" then some 21
  else none

/-- The kind of a scheme. -/
def kindOf (scheme : String) : SchemeKind :=
  if scheme == "file" then .file
  else if (defaultPort? scheme).isSome then .network
  else .foreign

/-- Whether a backslash counts as a slash and the path is never empty. -/
def SchemeKind.isSpecial : SchemeKind → Bool
  | .foreign => false
  | _ => true

/-! ## §2. Paths. -/

/-- What follows the authority. -/
inductive Path where
  /-- One text that no segments are read from. -/
  | bare (text : String)
  /-- Segments, each after a slash. -/
  | slashed (segments : List String)
deriving DecidableEq, Repr

/-- The text of a path. -/
def Path.text : Path → String
  | .bare t => t
  | .slashed segments => String.join (segments.map ("/" ++ ·))

end Url

/-! ## §3. URLs. -/

/-- A parsed URL. -/
structure Url where
  scheme : String
  username : String
  password : Option String
  host : Option Url.Host
  /-- The port, if it is not the default of the scheme. -/
  port : Option Nat
  path : Url.Path
  query : Option String
  fragment : Option String
deriving DecidableEq, Repr

namespace Url

/-- The host as callers see it: an empty domain is none. -/
def hostText? (u : Url) : Option String :=
  match u.host with
  | none => none
  | some (.domain "") => none
  | some h => some h.text

/-- Whether the URL names a user or a password. -/
def hasCredentials (u : Url) : Bool := u.username != "" || u.password.isSome

/-- User and password before the host. -/
def credentialText (u : Url) : String :=
  if u.hasCredentials then
    u.username ++ (match u.password with
      | some p => ":" ++ p
      | none => "") ++ "@"
  else ""

/-- Everything between the scheme and the path.  Without an authority, a path
that begins with two slashes is kept apart from it by `/.`. -/
def authorityText (u : Url) : String :=
  match u.host with
  | some h =>
      "//" ++ u.credentialText ++ h.text
        ++ (match u.port with
          | some p => ":" ++ String.ofList (decimal p)
          | none => "")
  | none =>
      match u.path with
      | .slashed ("" :: _ :: _) => "/."
      | _ => ""

/-- The query with its mark. -/
def queryText (u : Url) : String :=
  match u.query with
  | some q => "?" ++ q
  | none => ""

/-- The fragment with its mark. -/
def fragmentText (u : Url) : String :=
  match u.fragment with
  | some f => "#" ++ f
  | none => ""

/-- The URL up to its query. -/
def textUpToQuery (u : Url) : String :=
  u.scheme ++ ":" ++ u.authorityText ++ u.path.text ++ u.queryText

/-- The text of a URL. -/
def text (u : Url) : String := u.textUpToQuery ++ u.fragmentText

/-- The URL without user and password. -/
def withoutCredentials (u : Url) : Url := { u with username := "", password := none }

/-- The URL without its fragment. -/
def withoutFragment (u : Url) : Url := { u with fragment := none }

end Url

end FormUpload
