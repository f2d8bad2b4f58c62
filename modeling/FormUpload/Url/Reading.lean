import FormUpload.Url

/-!
# Reading URLs

`Url.parse` reads an absolute URL.  Controls and spaces around it and tabs and line
breaks anywhere in it do not count.  The scheme decides what is read next: an
authority and a path of segments, or for foreign schemes possibly one bare text.

Segments are read with a stack.  A double-dot segment takes the last segment off
the stack unless that is a drive letter; the empty segments at the head of a
`file` path go away at the end.
-/

namespace FormUpload.Url

open FormUpload.Text

/-! ## §1. Which characters are encoded. -/

/-- In a fragment. -/
def inFragmentSet (c : Char) : Bool := isControl c || [' ', '"', '<', '>', '\x60'].contains c

/-- In a path. -/
def inPathSet (c : Char) : Bool := inFragmentSet c || ['#', '?', '{', '}'].contains c

/-- In a user name or password. -/
def inUserSet (c : Char) : Bool :=
  inPathSet c || ['/', ':', ';', '=', '@', '[', '\\', ']', '^', '|'].contains c

/-- In a query; a special scheme encodes the apostrophe too. -/
def inQuerySet (kind : SchemeKind) (c : Char) : Bool :=
  isControl c || [' ', '"', '#', '<', '>'].contains c || (kind.isSpecial && c == '\'')

/-! ## §2. Path segments. -/

/-- A letter followed by a colon or a bar. -/
def isDriveLetter (cs : List Char) : Bool :=
  match cs with
  | [a, b] => isLetter a && (b == ':' || b == '|')
  | _ => false

/-- Whether the segment is one point, which may be encoded. -/
def isSingleDot (cs : List Char) : Bool :=
  [['.'], ['%', '2', 'e']].contains (cs.map lowerChar)

/-- Whether the segment is two points, each of which may be encoded. -/
def isDoubleDot (cs : List Char) : Bool :=
  [['.', '.'], ['.', '%', '2', 'e'], ['%', '2', 'e', '.'],
    ['%', '2', 'e', '%', '2', 'e']].contains (cs.map lowerChar)

/-- Whether the character ends a segment. -/
def endsSegment (kind : SchemeKind) (c : Char) : Bool :=
  c == '/' || (kind.isSpecial && c == '\\')

/-- Adds a segment to the stack of those before it; `last` says that no slash
follows.  The drive letter that begins a `file` path gets a colon. -/
def pushSegment (kind : SchemeKind) (last : Bool) (stack : List (List Char)) (segment : List Char) :
    List (List Char) :=
  let empty := if last then [[]] else []
  if isDoubleDot segment then
    empty ++ match stack with
      | [] => []
      | s :: r => if isDriveLetter s then s :: r else r
  else if isSingleDot segment then empty ++ stack
  else if kind = .file ∧ stack = [] ∧ isDriveLetter segment then
    (segment.take 1 ++ [':']) :: stack
  else segment :: stack

/-- Whether the path begins with a drive letter that takes the place of a
host. -/
def beginsWithDrive (segments : List (List Char)) : Bool :=
  match segments with
  | s :: _ => isDriveLetter s
  | [] => false

/-- The segments of a path after its first slash. -/
def segmentsOf (kind : SchemeKind) (cs : List Char) : List (List Char) :=
  let raw := splitWhere (endsSegment kind) cs
  let encoded := raw.map (percentEncode inPathSet)
  let stack := match encoded.reverse with
    | [] => []
    | last :: before =>
        pushSegment kind true (before.reverse.foldl (pushSegment kind false) []) last
  stack.reverse

/-- The segments without the empty ones at their head; one stays if all are
empty. -/
def dropEmptyHead (segments : List (List Char)) : List (List Char) :=
  match segments.dropWhile List.isEmpty with
  | [] => [[]]
  | r => r

/-- A path with these segments. -/
def slashedOf (segments : List (List Char)) : Path := .slashed (segments.map String.ofList)

/-! ## §3. What follows the path. -/

/-- The characters up to a mark, and those from the mark on. -/
def upTo (p : Char → Bool) (cs : List Char) : List Char × List Char :=
  (cs.takeWhile (!p ·), cs.dropWhile (!p ·))

/-- Whether the character ends a path. -/
def endsPath (c : Char) : Bool := c == '?' || c == '#'

/-- Query and fragment. -/
def queryAndFragment (kind : SchemeKind) (cs : List Char) : Option String × Option String :=
  let fragmentOf (cs : List Char) := String.ofList (percentEncode inFragmentSet cs)
  match cs with
  | '?' :: r =>
      let (q, rest) := upTo (· == '#') r
      (some (String.ofList (percentEncode (inQuerySet kind) q)),
        match rest with
        | _ :: f => some (fragmentOf f)
        | [] => none)
  | '#' :: f => (none, some (fragmentOf f))
  | _ => (none, none)

/-! ## §4. The authority. -/

/-- Whether the character ends an authority. -/
def endsAuthority (kind : SchemeKind) (c : Char) : Bool :=
  c == '/' || c == '?' || c == '#' || (kind.isSpecial && c == '\\')

/-- User, password and what follows the last at-sign of the authority. -/
structure UserInfo where
  username : String
  password : Option String
  rest : List Char

/-- The text before the last at-sign, and the text after it. -/
def cutLastAt (cs : List Char) : Option (List Char × List Char) :=
  (cutWhere (· == '@') cs.reverse).map fun (a, b) => (b.reverse, a.reverse)

/-- Reads user and password.  The user name ends at the first colon; an empty
password is none. -/
def userInfo (kind : SchemeKind) (cs : List Char) : Except Fault UserInfo :=
  let (authority, tail) := upTo (endsAuthority kind) cs
  match cutLastAt authority with
  | none => .ok ⟨"", none, cs⟩
  | some (info, host) =>
      if info.isEmpty && host.isEmpty && !tail.isEmpty then .error .emptyHost
      else
        let encode (cs : List Char) := String.ofList (percentEncode inUserSet cs)
        match cutWhere (· == ':') info with
        | none => .ok ⟨encode info, none, host ++ tail⟩
        | some (user, password) =>
            .ok ⟨encode user, if password.isEmpty then none else some (encode password),
              host ++ tail⟩

/-- The host text and what follows it: a colon ends it unless it stands in
brackets. -/
def cutHost (kind : SchemeKind) : (inBrackets : Bool) → List Char → List Char × List Char
  | _, [] => ([], [])
  | inBrackets, c :: r =>
      if endsAuthority kind c || (c == ':' && !inBrackets) then ([], c :: r)
      else
        let inside := if c == '[' then true else if c == ']' then false else inBrackets
        let (a, b) := cutHost kind inside r
        (c :: a, b)

/-- Reads a port: decimal digits up to the end of the authority. -/
def portFrom (n : Nat) (any : Bool) : List Char → Except Fault (Option Nat × List Char)
  | [] => .ok (if any then some n else none, [])
  | c :: r =>
      if isDigitChar c then
        let n := n * 10 + (c.toNat - 0x30)
        if 65535 < n then .error .badPort else portFrom n true r
      else if c == '/' || c == '\\' || c == '?' || c == '#' then
        .ok (if any then some n else none, c :: r)
      else .error .badPort

/-- Reads the host. -/
def hostOf (kind : SchemeKind) (cs : List Char) : Except Fault Host :=
  if kind.isSpecial then
    if cs.isEmpty then .error .emptyHost else Host.parse cs
  else Host.parseForeign cs

/-- The path after an authority. -/
def pathAfterAuthority (kind : SchemeKind) (cs : List Char) : Path × List Char :=
  let (path, rest) := upTo endsPath cs
  match path with
  | [] => (if kind.isSpecial then .slashed [""] else .slashed [], rest)
  | c :: r => (slashedOf (segmentsOf kind (if endsSegment kind c then r else c :: r)), rest)

/-- Reads what follows the two slashes. -/
def withAuthority (scheme : String) (kind : SchemeKind) (cs : List Char) : Except Fault Url := do
  let info ← userInfo kind cs
  let (hostChars, rest) := cutHost kind false info.rest
  let host ← hostOf kind hostChars
  let hasUser := info.username != "" || info.password.isSome
  let (port, rest) ← match rest with
    | ':' :: r => if hostChars.isEmpty then .error .emptyHost else portFrom 0 false r
    | _ => pure (none, rest)
  if hostChars.isEmpty && hasUser then .error .emptyHost
  else
    let (path, rest) := pathAfterAuthority kind rest
    let (query, fragment) := queryAndFragment kind rest
    return {
      scheme, username := info.username, password := info.password, host := some host
      port := if port == defaultPort? scheme then none else port
      path, query, fragment }

/-! ## §5. The three kinds of schemes. -/

/-- A URL under a foreign scheme. -/
def foreignUrl (scheme : String) (cs : List Char) : Except Fault Url :=
  match cs with
  | '/' :: '/' :: r => withAuthority scheme .foreign r
  | _ =>
      let (pathChars, rest) := upTo endsPath cs
      let path := match pathChars with
        | '/' :: r => slashedOf (segmentsOf .foreign r)
        | _ => .bare (String.ofList (percentEncode isControl pathChars))
      let (query, fragment) := queryAndFragment .foreign rest
      .ok { scheme, username := "", password := none, host := none, port := none, path, query
            fragment }

/-- A `file` URL with a host or without. -/
def fileUrlOf (host : Host) (pathChars rest : List Char) : Url :=
  let segments := segmentsOf .file pathChars
  let (query, fragment) := queryAndFragment .file rest
  { scheme := "file", username := "", password := none
    host := some (if beginsWithDrive segments then .domain "" else host)
    port := none, path := slashedOf (dropEmptyHead segments), query, fragment }

/-- A `file` URL.  After two slashes a host may stand; `localhost` and a drive
letter are none. -/
def fileUrl (cs : List Char) : Except Fault Url :=
  let isSlash (c : Char) := endsSegment .file c
  let noHost (cs : List Char) : Url :=
    let (path, rest) := upTo endsPath cs
    fileUrlOf (.domain "") path rest
  match cs with
  | a :: b :: r =>
      if isSlash a && isSlash b then
        let (hostChars, rest) := upTo (endsAuthority .file) r
        if hostChars.isEmpty || isDriveLetter hostChars then .ok (noHost r)
        else do
          let host ← Host.parse hostChars
          if host = .domain "localhost" then .ok (noHost rest)
          else
            let (path, rest) := upTo endsPath rest
            .ok (fileUrlOf host path.tail rest)
      else .ok (noHost (if isSlash a then b :: r else cs))
  | [a] => .ok (noHost (if isSlash a then [] else cs))
  | [] => .ok (noHost [])

/-! ## §6. URLs. -/

/-- A control character or a space. -/
def isEdge (c : Char) : Bool := c.toNat ≤ 0x20

/-- The characters that count. -/
def strip (cs : List Char) : List Char :=
  (((cs.dropWhile isEdge).reverse.dropWhile isEdge).reverse).filter fun c =>
    c != '\t' && c != '\n' && c != '\r'

/-- Whether the character may stand in a scheme. -/
def inScheme (c : Char) : Bool := isLetter c || isDigitChar c || c == '+' || c == '-' || c == '.'

/-- The scheme in lower case and what follows its colon. -/
def schemeOf? (cs : List Char) : Option (String × List Char) :=
  match cs with
  | c :: _ =>
      if isLetter c then
        match upTo (!inScheme ·) cs with
        | (scheme, ':' :: rest) => some (String.ofList (scheme.map lowerChar), rest)
        | _ => none
      else none
  | [] => none

/-- Reads an absolute URL. -/
def parseChars (cs : List Char) : Except Fault Url :=
  match schemeOf? (strip cs) with
  | none => .error .noScheme
  | some (scheme, rest) =>
      match kindOf scheme with
      | .file => fileUrl rest
      | .network =>
          withAuthority scheme .network (rest.dropWhile fun c => c == '/' || c == '\\')
      | .foreign => foreignUrl scheme rest

/-- Reads an absolute URL. -/
def parse (s : String) : Except Fault Url := parseChars s.toList

end FormUpload.Url
