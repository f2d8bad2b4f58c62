import FormUpload.Text.Utf8

/-!
# Compressed octets

Octets that are compressed are a sequence of bits.  They come in blocks: a block is
kept as it is, or it is a sequence of symbols, each an octet or a stretch of what was
written before.  Symbols are written by a prefix code, which a block brings with it or
takes from the two fixed ones.

Nothing here looks back at what was read, so bits are a list.  Its length tells where
octets begin, since there are whole octets to read.
-/

namespace FormUpload.Http.Deflate

open FormUpload.Text

/-! ## §1. Bits. -/

/-- The bits of an octet, the low one first. -/
def octetBits (b : UInt8) : List Bool := (List.range 8).map b.toNat.testBit

/-- The bits of some octets. -/
def bitsOf (s : Bytes) : List Bool := s.flatMap octetBits

/-- Reads a number of so many bits, the low one first. -/
def number? : (width : Nat) → List Bool → Option (Nat × List Bool)
  | 0, s => some (0, s)
  | _ + 1, [] => none
  | width + 1, b :: s => do
      let (n, s) ← number? width s
      return (b.toNat + 2 * n, s)

/-- The bits from the next octet on. -/
def aligned (s : List Bool) : List Bool := s.drop (s.length % 8)

/-- Reads so many octets and puts them after those that are written. -/
def octets? : (count : Nat) → List Bool → Array UInt8 → Option (List Bool × Array UInt8)
  | 0, s, written => some (s, written)
  | count + 1, s, written => do
      let (n, s) ← number? 8 s
      octets? count s (written.push (UInt8.ofNat n))

/-! ## §2. Prefix codes. -/

/-- A prefix code: the symbols with codewords of one bit, of two, and so on, each in
the order of their codewords.  Shorter codewords go before longer ones. -/
abbrev Code := List (List Nat)

/-- The longest codeword. -/
def codewordLimit : Nat := 15

/-- The code whose symbols have codewords of the given lengths; a symbol with length
zero has none. -/
def Code.ofLengths (lengths : List Nat) : Code :=
  (List.range codewordLimit).map fun n =>
    lengths.zipIdx.filterMap fun (length, symbol) => if length = n + 1 then some symbol else none

/-- How many codewords of the greatest length are not used, given how many beginnings
there are for those of the first; `none` if there are too few. -/
def Code.unused? : Code → (room : Nat) → Option Nat
  | [], room => some room
  | symbols :: longer, room =>
      if symbols.length ≤ 2 * room then Code.unused? longer (2 * room - symbols.length) else none

/-- Whether every sequence of bits begins with a codeword. -/
def Code.isComplete (code : Code) : Bool := code.unused? 1 == some 0

/-- The code of symbols or distances.  It may lack codewords if it has no more than
one. -/
def Code.make? (lengths : List Nat) : Option Code :=
  let code := Code.ofLengths lengths
  if code.isComplete || code.flatten.length ≤ 1 then some code else none

/-- Reads a symbol.  The bits that were read of its codeword are `place` codewords
after the first of the longer ones. -/
def Code.symbol? : Code → (place : Nat) → List Bool → Option (Nat × List Bool)
  | [], _, _ => none
  | _ :: _, _, [] => none
  | symbols :: longer, place, b :: s =>
      let place := 2 * place + b.toNat
      match symbols[place]? with
      | some symbol => some (symbol, s)
      | none => Code.symbol? longer (place - symbols.length) s

/-! ## §3. Symbols. -/

/-- The octet that was written so many octets ago. -/
def back? (written : Array UInt8) (distance : Nat) : Option UInt8 :=
  if distance ≤ written.size then written[written.size - distance]? else none

/-- Writes so many octets, each the one that was written `distance` octets before. -/
def copy? (distance : Nat) : (count : Nat) → Array UInt8 → Option (Array UInt8)
  | 0, written => some written
  | count + 1, written => do
      copy? distance count (written.push (← back? written distance))

/-- Reads a number whose symbol tells how many bits it has.  Among each `group` symbols
it has the same number of bits, one more than among those before. -/
def scaled? (group symbol : Nat) (s : List Bool) : Option (Nat × List Bool) := do
  let width := symbol / group - 1
  let low := if symbol < group then symbol else (group + symbol % group) * Nat.pow 2 width
  let (n, s) ← number? width s
  return (low + n, s)

/-- The symbol that ends a block. -/
def endOfBlock : Nat := 256

/-- Reads how long a stretch is, after its symbol. -/
def stretch? (symbol : Nat) (s : List Bool) : Option (Nat × List Bool) :=
  let place := symbol - (endOfBlock + 1)
  if place < 28 then (scaled? 4 place s).map fun (n, s) => (n + 3, s)
  else if place = 28 then some (258, s)
  else none

/-- Reads how far back a stretch begins. -/
def distance? (distances : Code) (s : List Bool) : Option (Nat × List Bool) := do
  let (symbol, s) ← distances.symbol? 0 s
  if symbol < 30 then (scaled? 2 symbol s).map fun (n, s) => (n + 1, s) else none

/-- Reads symbols to the end of their block.  Each takes a bit, so `fuel` beyond the
number of bits is never used up. -/
def symbols? (symbols distances : Code) :
    (fuel : Nat) → List Bool → Array UInt8 → Option (List Bool × Array UInt8)
  | 0, _, _ => none
  | fuel + 1, s, written => do
      let (symbol, s) ← symbols.symbol? 0 s
      if symbol < endOfBlock then
        symbols? symbols distances fuel s (written.push (UInt8.ofNat symbol))
      else if symbol = endOfBlock then some (s, written)
      else
        let (count, s) ← stretch? symbol s
        let (distance, s) ← distance? distances s
        symbols? symbols distances fuel s (← copy? distance count written)

/-! ## §4. Codes that blocks bring with them. -/

/-- The order in which the lengths of codewords for lengths are written. -/
def lengthOrder : List Nat := [16, 17, 18, 0, 8, 7, 9, 6, 10, 5, 11, 4, 12, 3, 13, 2, 14, 1, 15]

/-- Reads so many numbers of three bits. -/
def smallNumbers? : (count : Nat) → List Bool → Option (List Nat × List Bool)
  | 0, s => some ([], s)
  | count + 1, s => do
      let (n, s) ← number? 3 s
      let (ns, s) ← smallNumbers? count s
      return (n :: ns, s)

/-- Reads the code that lengths are written by.  It has to be complete. -/
def lengthCode? (count : Nat) (s : List Bool) : Option (Code × List Bool) := do
  let (ns, s) ← smallNumbers? count s
  let code := Code.ofLengths
    ((List.range lengthOrder.length).map fun symbol =>
      ((lengthOrder.zip ns).lookup symbol).getD 0)
  if code.isComplete then some (code, s) else none

/-- Reads the next lengths after those that are known: one, or one length several
times. -/
def moreLengths? (code : Code) (known : List Nat) (s : List Bool) :
    Option (List Nat × List Bool) := do
  let repeated (length width least : Nat) (s : List Bool) : Option (List Nat × List Bool) :=
    (number? width s).map fun (n, s) => (List.replicate (n + least) length, s)
  let (symbol, s) ← code.symbol? 0 s
  if symbol < 16 then some ([symbol], s)
  else if symbol = 16 then repeated (← known.getLast?) 2 3 s
  else if symbol = 17 then repeated 0 3 3 s
  else repeated 0 7 11 s

/-- Reads lengths until there are `wanted`.  Each step reads at least one. -/
def lengths? (code : Code) (wanted : Nat) :
    (fuel : Nat) → (known : List Nat) → List Bool → Option (List Nat × List Bool)
  | 0, _, _ => none
  | fuel + 1, known, s =>
      if known.length = wanted then some (known, s)
      else if wanted < known.length then none
      else do
        let (more, s) ← moreLengths? code known s
        lengths? code wanted fuel (known ++ more) s

/-- Reads the code for symbols and the code for distances. -/
def codes? (s : List Bool) : Option (Code × Code × List Bool) := do
  let (a, s) ← number? 5 s
  let (b, s) ← number? 5 s
  let (c, s) ← number? 4 s
  let forSymbols := a + endOfBlock + 1
  let forDistances := b + 1
  if 286 < forSymbols ∨ 30 < forDistances then none
  else
    let (code, s) ← lengthCode? (c + 4) s
    let wanted := forSymbols + forDistances
    let (lengths, s) ← lengths? code wanted (wanted + 1) [] s
    return (← Code.make? (lengths.take forSymbols), ← Code.make? (lengths.drop forSymbols), s)

/-! ## §5. Blocks. -/

/-- The fixed code for symbols. -/
def fixedSymbols : Code :=
  Code.ofLengths (List.replicate 144 8 ++ List.replicate 112 9 ++ List.replicate 24 7
    ++ List.replicate 8 8)

/-- The fixed code for distances. -/
def fixedDistances : Code := Code.ofLengths (List.replicate 32 5)

/-- Reads a block that is kept as it is: its length, the same with every bit turned
around, and its octets. -/
def kept? (s : List Bool) (written : Array UInt8) : Option (List Bool × Array UInt8) := do
  let (length, s) ← number? 16 (aligned s)
  let (turned, s) ← number? 16 s
  if length + turned = 0xFFFF then octets? length s written else none

/-- Reads blocks up to the last.  Each takes three bits, so `fuel` beyond the number of
bits is never used up. -/
def blocks? : (fuel : Nat) → List Bool → Array UInt8 → Option (List Bool × Array UInt8)
  | 0, _, _ => none
  | fuel + 1, s, written => do
      let (isLast, s) ← number? 1 s
      let (kind, s) ← number? 2 s
      let (s, written) ← match kind with
        | 0 => kept? s written
        | 1 => symbols? fixedSymbols fixedDistances (fuel + 1) s written
        | 2 => do
            let (symbols, distances, s) ← codes? s
            symbols? symbols distances (fuel + 1) s written
        | _ => none
      if isLast = 1 then some (s, written) else blocks? fuel s written

/-- What is compressed, and the bits after it. -/
def inflate? (s : List Bool) : Option (Bytes × List Bool) :=
  (blocks? (s.length + 1) s #[]).map fun (s, written) => (written.toList, aligned s)

end FormUpload.Http.Deflate
