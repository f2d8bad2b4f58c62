import FormUpload.Text.Ascii
import FormUpload.Text.Split

/-!
# References between URLs

A reference is read strictly: characters that a URL may not hold are not tolerated.
`Reference.resolve` finds what it stands for at a base: a missing scheme, authority,
path or query is taken from the base, and dot segments are removed.
-/

namespace FormUpload.Url

open FormUpload.Text

/-- A reference; a missing part differs from an empty one. -/
structure Reference where
  scheme : Option (List Char)
  authority : Option (List Char)
  path : List Char
  query : Option (List Char)
  fragment : Option (List Char)
deriving DecidableEq, Repr

namespace Reference

/-! ## §1. Characters. -/

/-- Characters without a meaning of their own. -/
def isUnreserved (c : Char) : Bool :=
  isLetter c || isDigitChar c || ['-', '.', '_', '~'].contains c

/-- Marks that may stand for themselves. -/
def isSubDelimiter (c : Char) : Bool :=
  ['!', '$', '&', '\'', '(', ')', '*', '+', ',', ';', '='].contains c

/-- Characters of a segment. -/
def inSegment (c : Char) : Bool := isUnreserved c || isSubDelimiter c || c == ':' || c == '@'

/-- Whether all characters satisfy `p` or belong to a percent sign with two
digits. -/
def allEncoded (p : Char → Bool) : List Char → Bool
  | [] => true
  | '%' :: a :: b :: r =>
      (hexValueChar? a).isSome && (hexValueChar? b).isSome && allEncoded p r
  | c :: r => p c && allEncoded p r

/-- Whether a scheme is well formed. -/
def isScheme (cs : List Char) : Bool :=
  match cs with
  | c :: r =>
      isLetter c && r.all fun c =>
        isLetter c || isDigitChar c || c == '+' || c == '-' || c == '.'
  | [] => false

/-- Whether host and port are well formed. -/
def isHostPort (cs : List Char) : Bool :=
  let portOk := fun (cs : List Char) => match cs with
    | [] => true
    | ':' :: digits => digits.all isDigitChar
    | _ => false
  match cs with
  | '[' :: r =>
      match cutWhere (· == ']') r with
      | some (address, rest) =>
          address.all (fun c => isUnreserved c || isSubDelimiter c || c == ':') && portOk rest
      | none => false
  | _ =>
      let name := cs.takeWhile (· != ':')
      allEncoded (fun c => isUnreserved c || isSubDelimiter c) name
        && portOk (cs.drop name.length)

/-- Whether an authority is well formed. -/
def isAuthority (cs : List Char) : Bool :=
  match cutWhere (· == '@') cs with
  | some (user, rest) =>
      allEncoded (fun c => isUnreserved c || isSubDelimiter c || c == ':') user && isHostPort rest
  | none => isHostPort cs

/-! ## §2. Reading and writing. -/

/-- Cuts off what follows a mark. -/
def cutMark (mark : Char) (cs : List Char) : List Char × Option (List Char) :=
  match cutWhere (· == mark) cs with
  | some (a, b) => (a, some b)
  | none => (cs, none)

/-- The parts of a reference. -/
def split (cs : List Char) : Reference :=
  let (rest, fragment) := cutMark '#' cs
  let (rest, query) := cutMark '?' rest
  let (scheme, rest) := match cutWhere (· == ':') rest with
    | some (s, r) => if s.contains '/' || s.isEmpty then (none, rest) else (some s, r)
    | none => (none, rest)
  match rest with
  | '/' :: '/' :: r =>
      let authority := r.takeWhile (· != '/')
      ⟨scheme, some authority, r.drop authority.length, query, fragment⟩
  | _ => ⟨scheme, none, rest, query, fragment⟩

/-- Whether all parts are well formed. -/
def isWellFormed (r : Reference) : Bool :=
  r.scheme.all isScheme && r.authority.all isAuthority
    && allEncoded (fun c => inSegment c || c == '/') r.path
    && r.query.all (allEncoded fun c => inSegment c || c == '/' || c == '?')
    && r.fragment.all (allEncoded fun c => inSegment c || c == '/' || c == '?')
    && (r.scheme.isSome || r.path.head? != some ':')

/-- Reads a reference. -/
def parse? (cs : List Char) : Option Reference :=
  let r := split cs
  if r.isWellFormed then some r else none

/-- The text of a reference. -/
def text (r : Reference) : List Char :=
  (r.scheme.map (· ++ [':'])).getD [] ++ (r.authority.map (['/', '/'] ++ ·)).getD [] ++ r.path
    ++ (r.query.map ('?' :: ·)).getD [] ++ (r.fragment.map ('#' :: ·)).getD []

/-! ## §3. Resolving. -/

/-- Removes dot segments; `stack` holds the segments so far, the last first. -/
def withoutDots (stack : List (List Char)) : List (List Char) → List (List Char)
  | [] => stack.reverse
  | [['.']] => ([] :: stack).reverse
  | [['.', '.']] => ([] :: stack.tail).reverse
  | s :: r =>
      if s = ['.'] then withoutDots stack r
      else if s = ['.', '.'] then withoutDots stack.tail r
      else withoutDots (s :: stack) r

/-- A path without dot segments. -/
def normalPath (path : List Char) : List Char :=
  match path with
  | '/' :: r => '/' :: joinWith ['/'] (withoutDots [] (splitWhere (· == '/') r))
  | _ => path

/-- The path up to and with its last slash. -/
def directoryOf (path : List Char) : List Char :=
  (path.reverse.dropWhile (· != '/')).reverse

/-- The path of a reference that begins with no slash, seen from a base. -/
def merge (base : Reference) (path : List Char) : List Char :=
  if base.authority.isSome && base.path.isEmpty then '/' :: path
  else directoryOf base.path ++ path

/-- What a reference stands for at a base. -/
def resolve (base r : Reference) : Reference :=
  if r.scheme.isSome then { r with path := normalPath r.path }
  else if r.authority.isSome then { r with scheme := base.scheme, path := normalPath r.path }
  else if r.path.isEmpty then
    { base with query := if r.query.isSome then r.query else base.query, fragment := r.fragment }
  else
    let path := if r.path.head? = some '/' then r.path else merge base r.path
    ⟨base.scheme, base.authority, normalPath path, r.query, r.fragment⟩

end Reference

end FormUpload.Url
