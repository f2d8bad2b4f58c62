import FormUpload.Url.Domain
import FormUpload.Text.Split

/-!
# Hosts

A host is a domain name, an IPv4 address or an IPv6 address.  A domain name whose
last label is a number is an IPv4 address or a fault, never a name.  `Host.text`
writes addresses in one way: four decimal numbers, or eight hexadecimal pieces in
brackets with the longest run of two or more zero pieces left out.
-/

namespace FormUpload.Url

open FormUpload.Text

/-- Why a text is no URL. -/
inductive Fault where
  | noScheme
  | emptyHost
  | badPort
  | badIpv4
  | badIpv6
  | badDomain
  | badHostCharacter
deriving DecidableEq, Repr

/-- The wording of a fault. -/
def Fault.message : Fault → String
  | .noScheme => "relative URL without a base"
  | .emptyHost => "empty host"
  | .badPort => "invalid port number"
  | .badIpv4 => "invalid IPv4 address"
  | .badIpv6 => "invalid IPv6 address"
  | .badDomain => "invalid international domain name"
  | .badHostCharacter => "invalid domain character"

/-- A host. -/
inductive Host where
  | domain (name : String)
  | ipv4 (address : Nat)
  | ipv6 (pieces : List Nat)
deriving DecidableEq, Repr

/-! ## §1. IPv4. -/

/-- The number that digits of a base spell. -/
def numberIn (base : Nat) (cs : List Char) : Option Nat :=
  cs.foldl (fun n c => do
    let n ← n
    let d ← hexValueChar? c
    if d < base then some (n * base + d) else none) (some 0)

/-- A part of an IPv4 address: decimal, octal after a zero, hexadecimal after
`0x`.  The bare prefix is zero. -/
def ipv4Part? : List Char → Option Nat
  | [] => none
  | '0' :: 'x' :: r => numberIn 16 r
  | '0' :: 'X' :: r => numberIn 16 r
  | '0' :: c :: r => numberIn 8 (c :: r)
  | cs => numberIn 10 cs

/-- Whether the last label of a name, the empty one after a final point apart, is
a number. -/
def endsInNumber (cs : List Char) : Bool :=
  let labels := (splitWhere (· == '.') cs).reverse
  let last? := match labels with
    | [] :: r => r.head?
    | l :: _ => some l
    | [] => none
  match last? with
  | some l => (!l.isEmpty && l.all isDigitChar) || (ipv4Part? l).isSome
  | none => false

/-- An IPv4 address of one to four parts; the last part fills what the others
leave. -/
def ipv4? (cs : List Char) : Option Nat := do
  let labels := splitWhere (· == '.') cs
  let labels := if labels.getLast? == some [] then labels.dropLast else labels
  if 4 < labels.length then none
  else
    let parts ← labels.mapM ipv4Part?
    let last ← parts.getLast?
    let heads := parts.dropLast
    if Nat.pow 256 (4 - heads.length) ≤ last || heads.any (255 < ·) then none
    else
      let high := heads.foldl (fun n p => n * 256 + p) 0
      some (high * Nat.pow 256 (4 - heads.length) + last)

/-- An IPv4 address as four decimal numbers. -/
def ipv4Text (n : Nat) : List Char :=
  joinWith ['.'] ([n / 16777216 % 256, n / 65536 % 256, n / 256 % 256, n % 256].map decimal)

/-! ## §2. IPv6. -/

/-- The pieces read so far and, if two colons have been seen, the number of
pieces before them. -/
structure PieceList where
  pieces : List Nat
  gap : Option Nat

/-- A decimal number up to 255 without leading zero. -/
def byteOf? (cs : List Char) : Option Nat :=
  if cs.isEmpty || !cs.all isDigitChar || (1 < cs.length && cs.head? == some '0')
      || 3 < cs.length then none
  else (numberIn 10 cs).bind fun n => if n ≤ 255 then some n else none

/-- The two pieces that an address in IPv4 form stands for. -/
def embedded? (cs : List Char) : Option (List Nat) := do
  match ← (splitWhere (· == '.') cs).mapM byteOf? with
  | [a, b, c, d] => some [a * 256 + b, c * 256 + d]
  | _ => none

/-- Reads pieces up to the end.  A piece has at most four digits; the last two
pieces may be in IPv4 form. -/
def piecesFrom : (fuel : Nat) → PieceList → List Char → Option PieceList
  | _, l, [] => some l
  | 0, _, _ => none
  | fuel + 1, l, s =>
      if l.pieces.length = 8 then none
      else
        match s with
        | ':' :: r =>
            if l.gap.isSome then none
            else piecesFrom fuel ⟨l.pieces ++ [0], some (l.pieces.length + 1)⟩ r
        | _ =>
            let digits := (s.take 4).takeWhile fun c => (hexValueChar? c).isSome
            let rest := s.drop digits.length
            match rest with
            | [] => do
                let v ← numberIn 16 digits
                piecesFrom fuel { l with pieces := l.pieces ++ [v] } []
            | '.' :: _ => do
                if digits.isEmpty || 6 < l.pieces.length then none
                else
                  let two ← embedded? s
                  some { l with pieces := l.pieces ++ two }
            | ':' :: r => do
                if r.isEmpty then none
                else
                  let v ← numberIn 16 digits
                  piecesFrom fuel { l with pieces := l.pieces ++ [v] } r
            | _ :: _ => none

/-- The eight pieces of an IPv6 address; the pieces after two colons move to the
end. -/
def ipv6? (cs : List Char) : Option (List Nat) := do
  let start ← match cs with
    | ':' :: ':' :: r => some (⟨[0], some 1⟩, r)
    | ':' :: _ => none
    | [] => none
    | [_] => none
    | s => some (⟨[], none⟩, s)
  let l ← piecesFrom (cs.length + 1) start.1 start.2
  match l.gap with
  | none => if l.pieces.length = 8 then some l.pieces else none
  | some g =>
      if 8 < l.pieces.length then none
      else some (l.pieces.take g ++ List.replicate (8 - l.pieces.length) 0 ++ l.pieces.drop g)

/-- The first longest run of zero pieces, as its start and length. -/
def longestZeros (ps : List Nat) : Nat × Nat :=
  (List.range ps.length).foldl (fun best i =>
    let n := ((ps.drop i).takeWhile (· == 0)).length
    if best.2 < n then (i, n) else best) (0, 0)

/-- Pieces in lower-case hexadecimal digits with a colon between any two. -/
def pieceText (ps : List Nat) : List Char := joinWith [':'] (ps.map (Nat.toDigits 16))

/-- An IPv6 address, the longest run of two or more zero pieces left out. -/
def ipv6Text (ps : List Nat) : List Char :=
  let (i, n) := longestZeros ps
  if n < 2 then pieceText ps
  else pieceText (ps.take i) ++ ':' :: ':' :: pieceText (ps.drop (i + n))

/-! ## §3. Hosts. -/

/-- The text in brackets; `none` if the last character is no closing bracket. -/
def unbracket? (cs : List Char) : Option (List Char) :=
  match cs.reverse with
  | ']' :: r => some r.reverse
  | _ => none

/-- An IPv6 host, after its opening bracket. -/
def bracketedHost (cs : List Char) : Except Fault Host :=
  match (unbracket? cs).bind ipv6? with
  | some ps => .ok (.ipv6 ps)
  | none => .error .badIpv6

/-- The host of a URL whose scheme names a network protocol. -/
def Host.parse (cs : List Char) : Except Fault Host :=
  match cs with
  | '[' :: r => bracketedHost r
  | _ =>
      match Domain.toAscii? (percentDecode (Utf8.encode cs)) with
      | none => .error .badDomain
      | some [] => .error .emptyHost
      | some name =>
          if endsInNumber name then
            match ipv4? name with
            | some n => .ok (.ipv4 n)
            | none => .error .badIpv4
          else .ok (.domain (String.ofList name))

/-- The characters that a host under another scheme may not hold. -/
def isForbiddenInHost (c : Char) : Bool :=
  ['\x00', '\t', '\n', '\r', ' ', '#', '/', ':', '<', '>', '?', '@', '[', '\\', ']', '^',
    '|'].contains c

/-- The host of a URL under any other scheme: taken as it is, controls and
characters beyond ASCII encoded. -/
def Host.parseForeign (cs : List Char) : Except Fault Host :=
  match cs with
  | '[' :: r => bracketedHost r
  | _ =>
      if cs.any isForbiddenInHost then .error .badHostCharacter
      else .ok (.domain (String.ofList (percentEncode isControl cs)))

/-- The text of a host. -/
def Host.text : Host → String
  | .domain name => name
  | .ipv4 n => String.ofList (ipv4Text n)
  | .ipv6 ps => String.ofList ('[' :: ipv6Text ps ++ [']'])

end FormUpload.Url
