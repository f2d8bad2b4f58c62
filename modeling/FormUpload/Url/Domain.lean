import FormUpload.Text.Percent
import FormUpload.Url.Domain.Label
import FormUpload.Url.Domain.Punycode

/-!
# Domain names

`Domain.toAscii?` brings a domain name into its ASCII form: characters are mapped
and composed, every label is checked, and a label with characters beyond ASCII is
written in Punycode after `xn--`.  Neither the length of labels nor their hyphens
are checked.  A name of plain ASCII labels is only put into lower case.
-/

namespace FormUpload.Url.Domain

open FormUpload.Text

/-- The ASCII characters that no domain name may hold. -/
def isForbidden (c : Char) : Bool :=
  c.toNat ≤ 0x20 || c.toNat == 0x7F
    || ['#', '%', '/', ':', '<', '>', '?', '@', '[', '\\', ']', '^', '|'].contains c

/-- The beginning of a label in Punycode. -/
def punycodeMark : List Char := ['x', 'n', '-', '-']

/-- A label whose characters are its own: kept by the mapping, composed, not
begun by a mark, with allowed joiners. -/
def isSound (cs : List Char) : Bool :=
  cs.all isKept && normalize cs == cs
    && (match cs with
        | c :: _ => !isMark c.toNat
        | [] => true)
    && joinersAllowed [] cs

/-- The characters that a mapped label stands for; `none` if it stands for
none. -/
def labelText? (cs : List Char) : Option (List Char) :=
  match afterStart? punycodeMark cs with
  | some code => do
      let text ← Punycode.decode? code
      if text.all (·.toNat < 0x80) || !isSound text then none else some text
  | none => if isSound cs then some cs else none

/-- A label in ASCII characters. -/
def labelAscii (cs : List Char) : List Char :=
  if cs.all (·.toNat < 0x80) then cs else punycodeMark ++ Punycode.encode cs

/-- Whether the name is plain: ASCII characters only, and no label in Punycode. -/
def isPlain (cs : List Char) : Bool :=
  cs.all (·.toNat < 0x80)
    && (splitWhere (· == '.') cs).all fun l => (afterStart? punycodeMark l).isNone

/-- The ASCII form of a domain name. -/
def toAscii? (octets : Bytes) : Option (List Char) := do
  let cs ← Utf8.decode? octets
  let lowered := cs.map lowerChar
  if isPlain lowered then
    if lowered.any isForbidden then none else some lowered
  else
    let labels ← (splitWhere (· == '.') (normalize (← mapText cs))).mapM labelText?
    let turned := labels.any fun l => l.any turnsDirection
    if turned && !labels.all keepsDirection then none
    else
      let name := joinWith ['.'] (labels.map labelAscii)
      if name.any isForbidden then none else some name

end FormUpload.Url.Domain
