import FormUpload.Number.Binary64

/-!
# Shortest decimal digits

The fewest decimal digits that still name a given binary64 number: among the
decimals that lie between the midpoints to its two neighbours, one of least
length, and of these the nearest.

On a grid of `n`-digit decimals only the two grid points around the number need
a look: if any grid point lies in the interval, one of these two does.
-/

namespace FormUpload.Number

/-- A decimal `digits · 10^exponent` without trailing zeros. -/
structure ShortDecimal where
  digits : Nat
  exponent : Int
deriving DecidableEq, Repr

namespace Binary64

/-! ## §1. The interval of decimals that read as a number. -/

/-- The midpoints to the two neighbours, and the number between them, all as
numerators over one denominator. -/
structure Span where
  low : Nat
  value : Nat
  high : Nat
  unit : Nat
  /-- Whether the midpoints themselves read as the number. -/
  closed : Bool

/-- The span of a positive number.  Below a power of two the gap is half as
wide. -/
def span (x : Binary64) : Span :=
  let up := Nat.pow 2 x.exponent.toNat
  let down := Nat.pow 2 (-x.exponent).toNat
  let m := 4 * x.significand
  let narrow := x.significand == leadingBit && x.exponent > minExponent
  ⟨(m - if narrow then 1 else 2) * up, m * up, (m + 2) * up, 4 * down,
    x.significand % 2 == 0⟩

/-- Whether the fraction `a / b` lies in the span. -/
def Span.contains (s : Span) (a b : Nat) : Bool :=
  let l := s.low * b
  let h := s.high * b
  let v := a * s.unit
  if s.closed then l ≤ v && v ≤ h else l < v && v < h

/-! ## §2. The search. -/

/-- The place of the leading digit of `a / b`, counted from `start` downwards. -/
def leadingPlace (a b : Nat) : Nat → Int → Int
  | 0, p => p
  | n + 1, p =>
      if b * Nat.pow 10 p.toNat ≤ a * Nat.pow 10 (-p).toNat then p
      else leadingPlace a b n (p - 1)

/-- The decimal `k · 10^e` as a fraction. -/
def gridPoint (k : Nat) (e : Int) : Nat × Nat := (k * Nat.pow 10 e.toNat, Nat.pow 10 (-e).toNat)

/-- The better of the two grid points around the number, if one of them reads
as the number: the nearer one, and the even one on a tie. -/
def onGrid (s : Span) (e : Int) : Option Nat :=
  let k := s.value * Nat.pow 10 (-e).toNat / (s.unit * Nat.pow 10 e.toNat)
  let below := gridPoint k e
  let above := gridPoint (k + 1) e
  let inBelow := s.contains below.1 below.2
  let inAbove := s.contains above.1 above.2
  if inBelow && inAbove then
    -- twice the number against the sum of the two points
    let twice := 2 * s.value * below.2
    let sum := (below.1 + above.1) * s.unit
    if twice < sum then some k
    else if sum < twice then some (k + 1)
    else some (k + k % 2)
  else if inBelow then some k
  else if inAbove then some (k + 1)
  else none

/-- The same decimal without trailing zeros. -/
def stripZeros : Nat → Nat → Int → ShortDecimal
  | 0, k, e => ⟨k, e⟩
  | n + 1, k, e =>
      if k ≠ 0 ∧ k % 10 = 0 then stripZeros n (k / 10) (e + 1) else ⟨k, e⟩

/-- Tries grids of ever more digits. -/
def searchGrids (s : Span) (lead : Int) : Nat → Nat → ShortDecimal
  | 0, _ => ⟨0, 0⟩
  | fuel + 1, n =>
      let e := lead - (n : Int) + 1
      match onGrid s e with
      | some k => stripZeros 20 k e
      | none => searchGrids s lead fuel (n + 1)

/-- The shortest decimal that reads as the magnitude of the number. -/
def shortest (x : Binary64) : ShortDecimal :=
  if x.isZero then ⟨0, 0⟩
  else
    let s := x.span
    searchGrids s (leadingPlace s.value s.unit 640 309) 17 1

end Binary64

end FormUpload.Number
