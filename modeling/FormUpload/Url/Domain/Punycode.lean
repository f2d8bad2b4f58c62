import FormUpload.Text.Ascii

/-!
# Punycode

A label of arbitrary characters as ASCII letters, digits and hyphens, and back.
The ASCII characters of a label come first, then a hyphen if there are any, then
one variable-length number for each other character, in the order of their scalar
values; `adapt` sets the digit thresholds from the numbers so far.
-/

namespace FormUpload.Url.Domain.Punycode

/-! ## §1. Digits and thresholds. -/

def base : Nat := 36
def leastThreshold : Nat := 1
def greatestThreshold : Nat := 26

/-- The digit for a number below 36: letters first, then the decimal digits. -/
def digit (n : Nat) : Char := Char.ofNat (if n < 26 then 0x61 + n else 0x30 + n - 26)

/-- The value of a digit of either case. -/
def digitValue? (c : Char) : Option Nat :=
  let v := c.toNat
  if 0x30 ≤ v && v ≤ 0x39 then some (v - 0x30 + 26)
  else if 0x41 ≤ v && v ≤ 0x5A then some (v - 0x41)
  else if 0x61 ≤ v && v ≤ 0x7A then some (v - 0x61)
  else none

/-- The threshold of the digit at place `k` under a bias. -/
def threshold (k bias : Nat) : Nat :=
  if k ≤ bias then leastThreshold
  else if bias + greatestThreshold ≤ k then greatestThreshold
  else k - bias

/-- The bias after a number, from how large it was and how many characters there
are by now. -/
def adapt (delta count : Nat) (first : Bool) : Nat :=
  let delta := delta / (if first then 700 else 2)
  reduce (delta + delta / count) 0 8
where
  /-- Divides by 35 while the number is large. -/
  reduce (delta k : Nat) : Nat → Nat
    | 0 => k + 36 * delta / (delta + 38)
    | fuel + 1 =>
        if 455 < delta then reduce (delta / 35) (k + 36) fuel
        else k + 36 * delta / (delta + 38)

/-- The bias before the first number. -/
def initialBias : Nat := 72

/-- The scalar value before the first number. -/
def initialValue : Nat := 128

/-! ## §2. Writing. -/

/-- A number in digits that shrink by their thresholds. -/
def writeNumber (bias : Nat) : (fuel : Nat) → (k q : Nat) → List Char
  | 0, _, q => [digit q]
  | fuel + 1, k, q =>
      let t := threshold k bias
      if q < t then [digit q]
      else digit (t + (q - t) % (base - t))
        :: writeNumber bias fuel (k + base) ((q - t) / (base - t))

/-- The state between two numbers of a label. -/
structure State where
  value : Nat
  delta : Nat
  bias : Nat
  done : Nat

/-- Passes over the label for the characters of value `m`, writing a number for
each. -/
def writeRound (m basic : Nat) : List Nat → State → List Char × State
  | [], st => ([], st)
  | c :: r, st =>
      if c < m then writeRound m basic r { st with delta := st.delta + 1 }
      else if c = m then
        let here := writeNumber st.bias 32 base st.delta
        let st' := { st with
          delta := 0, bias := adapt st.delta (st.done + 1) (st.done == basic), done := st.done + 1 }
        let (rest, st'') := writeRound m basic r st'
        (here ++ rest, st'')
      else writeRound m basic r st

/-- Writes the numbers for all characters of value `st.value` and above. -/
def writeRest (basic : Nat) (cs : List Nat) : (fuel : Nat) → State → List Char
  | 0, _ => []
  | fuel + 1, st =>
      match (cs.filter (st.value ≤ ·)).min? with
      | none => []
      | some m =>
          let st := { st with delta := st.delta + (m - st.value) * (st.done + 1), value := m }
          let (text, st) := writeRound m basic cs st
          text ++ writeRest basic cs fuel { st with delta := st.delta + 1, value := m + 1 }

/-- The label in ASCII characters. -/
def encode (cs : List Char) : List Char :=
  let plain := cs.filter (·.toNat < 0x80)
  let n := plain.length
  (if n = 0 then [] else plain ++ ['-'])
    ++ writeRest n (cs.map Char.toNat) (cs.length + 1) ⟨initialValue, 0, initialBias, n⟩

/-! ## §3. Reading. -/

/-- A number in digits, with the characters after it. -/
def readNumber (bias : Nat) : (k weight i : Nat) → List Char → Option (Nat × List Char)
  | _, _, _, [] => none
  | k, w, i, c :: r => do
      let d ← digitValue? c
      let i := i + d * w
      if 0x100000000 ≤ i then none
      else
        let t := threshold k bias
        if d < t then some (i, r) else readNumber bias (k + base) (w * (base - t)) i r

/-- Puts a character at a place. -/
def insertAt (c : Char) : Nat → List Char → List Char
  | 0, cs => c :: cs
  | _ + 1, [] => [c]
  | n + 1, d :: cs => d :: insertAt c n cs

/-- Reads numbers and puts the characters they name at their places. -/
def readRest : (fuel : Nat) → (value i bias : Nat) → List Char → List Char → Option (List Char)
  | _, _, _, _, out, [] => some out
  | 0, _, _, _, _, _ :: _ => none
  | fuel + 1, value, i, bias, out, s => do
      let (j, rest) ← readNumber bias base 1 i s
      let count := out.length + 1
      let bias := adapt (j - i) count (i == 0)
      let value := value + j / count
      if 0x10FFFF < value ∨ (0xD800 ≤ value ∧ value ≤ 0xDFFF) then none
      else
        let place := j % count
        readRest fuel value (place + 1) bias (insertAt (Char.ofNat value) place out) rest

/-- The label that ASCII characters spell.  The last hyphen ends the plain
characters; one that stands first ends nothing. -/
def decode? (cs : List Char) : Option (List Char) :=
  let tail := (cs.reverse.takeWhile (· ≠ '-')).reverse
  let plain := ((cs.reverse.dropWhile (· ≠ '-')).drop 1).reverse
  if !cs.all (·.toNat < 0x80) then none
  else if plain.isEmpty then readRest (cs.length + 1) initialValue 0 initialBias [] cs
  else readRest (cs.length + 1) initialValue 0 initialBias plain tail

end FormUpload.Url.Domain.Punycode
