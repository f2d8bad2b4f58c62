/-!
# Finite binary64 numbers

A number `± m · 2^q` with `m < 2^53` and `-1074 ≤ q ≤ 971`, kept in the one form
that has `2^52 ≤ m` or `q = -1074`.  Arithmetic is exact on rationals of natural
numbers and rounds once, to the nearest number and to the even one on a tie
(`roundRatio?`).  A result past the largest finite number is `none`.
-/

namespace FormUpload.Number

/-- The number `(-1)^negative · significand · 2^exponent`. -/
structure Binary64 where
  negative : Bool
  significand : Nat
  exponent : Int
deriving DecidableEq, Repr

namespace Binary64

/-! ## §1. The number line. -/

/-- The exponent of subnormal numbers and of zero. -/
def minExponent : Int := -1074

/-- The exponent of the largest finite numbers. -/
def maxExponent : Int := 971

/-- Significands are below `2^53`. -/
def significandBound : Nat := 0x20000000000000

/-- Half of the bound: the least significand of a number that is not subnormal. -/
def leadingBit : Nat := 0x10000000000000

/-- Zero with a sign. -/
def zero (negative : Bool) : Binary64 := ⟨negative, 0, minExponent⟩

/-- Zero of either sign. -/
def isZero (x : Binary64) : Bool := x.significand == 0

/-- Equality of the numbers meant: the two zeros are equal. -/
def same (x y : Binary64) : Bool :=
  if x.isZero && y.isZero then true else decide (x = y)

/-- The magnitude as a fraction of natural numbers. -/
def ratio (x : Binary64) : Nat × Nat :=
  (x.significand * Nat.pow 2 x.exponent.toNat, Nat.pow 2 (-x.exponent).toNat)

/-! ## §2. Rounding. -/

/-- The quotient `n / (d · 2^q)` rounded to a whole number, a tie going to the
even one. -/
def roundScaled (n d : Nat) (q : Int) : Nat :=
  let n' := n * Nat.pow 2 (-q).toNat
  let d' := d * Nat.pow 2 q.toNat
  let m := n' / d'
  let r := n' % d'
  if 2 * r < d' then m
  else if d' < 2 * r then m + 1
  else m + m % 2

/-- The least exponent at which `n / d` has at most 53 bits before rounding. -/
def exponentFor (n d : Nat) : Int :=
  let guess : Int := max ((n.log2 : Int) - (d.log2 : Int) - 53) minExponent
  if n * Nat.pow 2 (-guess).toNat / (d * Nat.pow 2 guess.toNat) < significandBound then guess
  else guess + 1

/-- The number nearest to `n / d`; `none` past the largest finite number. -/
def roundRatio? (negative : Bool) (n d : Nat) : Option Binary64 :=
  if n = 0 then some (zero negative)
  else
    let q := exponentFor n d
    let m := roundScaled n d q
    let (m, q) := if m = significandBound then (leadingBit, q + 1) else (m, q)
    if q ≤ maxExponent then some ⟨negative, m, q⟩ else none

/-! ## §3. Arithmetic. -/

/-- The number nearest to a natural number. -/
def ofNat? (n : Nat) : Option Binary64 := roundRatio? false n 1

/-- The same number with the opposite sign. -/
def negate (x : Binary64) : Binary64 := { x with negative := !x.negative }

/-- The rounded product. -/
def mul? (x y : Binary64) : Option Binary64 :=
  roundRatio? (x.negative != y.negative) (x.ratio.1 * y.ratio.1) (x.ratio.2 * y.ratio.2)

/-- The rounded quotient; the divisor is not zero. -/
def div? (x y : Binary64) : Option Binary64 :=
  roundRatio? (x.negative != y.negative) (x.ratio.1 * y.ratio.2) (x.ratio.2 * y.ratio.1)

/-- The number nearest to a power of ten, up to the 308th. -/
def powerOfTen (k : Nat) : Binary64 := (ofNat? (Nat.pow 10 k)).getD (zero false)

/-- `m · 10^e`, computed as `m` rounded and then multiplied or divided by powers
of ten that are themselves rounded.  Powers past the 308th divide in several
steps.  The result may differ from the correctly rounded one in the last place;
`none` is a result past the largest finite number. -/
def scaleTen? (m : Nat) (e : Int) : Option Binary64 := do
  let x ← ofNat? m
  if 0 ≤ e then
    if e ≤ 308 then x.mul? (powerOfTen e.toNat)
    else if x.isZero then some x else none
  else shrink (e.natAbs / 308) x e.natAbs
where
  /-- Divides by `10^k`, taking off 308 places a step while more remain. -/
  shrink : Nat → Binary64 → Nat → Option Binary64
    | 0, x, k => x.div? (powerOfTen k)
    | n + 1, x, k =>
        if k ≤ 308 then x.div? (powerOfTen k)
        else if x.isZero then some x
        else do shrink n (← x.div? (powerOfTen 308)) (k - 308)

end Binary64

end FormUpload.Number
