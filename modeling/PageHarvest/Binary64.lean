/-!
Finite 64-bit floating-point numbers as a sign, a significand and a power of
two. A decimal is rounded to the nearest of them, and each is written with the
fewest decimal digits that round back to it. A number may also be scaled by a
power of ten in floating-point arithmetic, each step of which rounds. Everything is
computed on natural numbers.
-/

namespace PageHarvest

/-- A finite number `± significand * 2 ^ (scale - 1074)`. The significand has at
most 53 bits, and exactly 53 unless the scale is the least one. -/
structure Binary64 where
  negative : Bool
  significand : Nat
  scale : Nat
  significand_lt : significand < Nat.pow 2 53
  scale_le : scale ≤ 2045
  normal : scale = 0 ∨ Nat.pow 2 52 ≤ significand
deriving DecidableEq, Repr

namespace Binary64

instance : Inhabited Binary64 := ⟨⟨false, 0, 0, by decide, by decide, Or.inl rfl⟩⟩

def zero (negative : Bool) : Binary64 := ⟨negative, 0, 0, by decide, by decide, Or.inl rfl⟩

/-- The quotient rounded to the nearest integer, a half to the even one. -/
def divRound (n d : Nat) : Nat :=
  let q := n / d
  let r := n % d
  if 2 * r < d then q
  else if d < 2 * r then q + 1
  else if q % 2 = 0 then q else q + 1

/-- The number of binary digits, none for zero. -/
def bitLength (n : Nat) : Nat :=
  if n = 0 then 0 else n.log2 + 1

/-- The number nearest to `n / d`, counted in units of `2 ^ -1074`; none when it
lies beyond the largest finite number. -/
def nearest? (negative : Bool) (n d : Nat) : Option Binary64 :=
  let shift := bitLength (n / d) - 53
  let rounded := divRound n (d * Nat.pow 2 shift)
  let (m, k) := if rounded = Nat.pow 2 53 then (Nat.pow 2 52, shift + 1) else (rounded, shift)
  if h : m < Nat.pow 2 53 ∧ k ≤ 2045 ∧ (k = 0 ∨ Nat.pow 2 52 ≤ m) then
    some ⟨negative, m, k, h.1, h.2.1, h.2.2⟩
  else none

/-- The number nearest to `digits * 10 ^ exponent`. Far beyond the largest
number there is none, and far below the smallest it is zero; there the power
of ten need not be computed. -/
def ofDecimal? (negative : Bool) (digits : Nat) (exponent : Int) : Option Binary64 :=
  if digits = 0 then some (zero negative)
  else if 400 < exponent then none
  else if exponent + digits.log2 + 1 < -400 then some (zero negative)
  else if 0 ≤ exponent then nearest? negative (digits * Nat.pow 10 exponent.toNat * Nat.pow 2 1074) 1
  else nearest? negative (digits * Nat.pow 2 1074) (Nat.pow 10 (-exponent).toNat)

/-- The magnitude in units of `2 ^ -1074`. -/
def units (x : Binary64) : Nat := x.significand * Nat.pow 2 x.scale

def ofNat? (negative : Bool) (n : Nat) : Option Binary64 :=
  nearest? negative (n * Nat.pow 2 1074) 1

def mul? (x y : Binary64) : Option Binary64 :=
  nearest? (x.negative != y.negative) (x.units * y.units) (Nat.pow 2 1074)

/-- The rounded quotient; the divisor is not zero. -/
def div? (x y : Binary64) : Option Binary64 :=
  nearest? (x.negative != y.negative) (x.units * Nat.pow 2 1074) y.units

def maxTenPow : Nat := 308

def tenPow? (k : Nat) : Option Binary64 := ofDecimal? false 1 k

/-- The number times `10 ^ power`, with one rounding for the power of ten and one
for the product or quotient. A number that is scaled down by more than the largest
power is divided by that one first, and is rounded each time. -/
def scaleTen? (x : Binary64) (power : Int) : Option Binary64 :=
  if power.natAbs ≤ maxTenPow then do
    let ten ← tenPow? power.natAbs
    if 0 ≤ power then x.mul? ten else x.div? ten
  else if x.significand = 0 then some x
  else if 0 ≤ power then none
  else do
    let ten ← tenPow? maxTenPow
    let quotient ← x.div? ten
    quotient.scaleTen? (power + maxTenPow)
termination_by power.natAbs
decreasing_by
  simp only [maxTenPow] at *
  omega

def decimalLength (n : Nat) : Nat := (Nat.toDigits 10 n).length

/-- The least `j ≥ 1` with `2 ^ 1074 ≤ n * 10 ^ j`, looked for in `fuel` steps. -/
def leadingZeros (fuel n : Nat) : Nat :=
  match fuel with
  | 0 => 1
  | fuel + 1 => if Nat.pow 2 1074 ≤ 10 * n then 1 else leadingZeros fuel (10 * n) + 1

/-- The power of ten of the first digit of a number that is not zero. -/
def decimalExponent (x : Binary64) : Int :=
  let whole := x.units / Nat.pow 2 1074
  if whole = 0 then -(leadingZeros 400 x.units : Int) else (decimalLength whole : Int) - 1

def stripZeros (fuel digits : Nat) (exponent : Int) : Nat × Int :=
  match fuel with
  | 0 => (digits, exponent)
  | fuel + 1 =>
      if digits ≠ 0 ∧ digits % 10 = 0 then stripZeros fuel (digits / 10) (exponent + 1)
      else (digits, exponent)

/-- The decimal on the grid of multiples of `10 ^ exponent` that lies next to
`x` and rounds to it: the nearer one if both neighbours do, and the even one if
`x` lies halfway between them. -/
def onGrid? (x : Binary64) (exponent : Int) : Option Nat :=
  let n := if 0 ≤ exponent then x.units else x.units * Nat.pow 10 (-exponent).toNat
  let d := if 0 ≤ exponent then Nat.pow 2 1074 * Nat.pow 10 exponent.toNat else Nat.pow 2 1074
  let low := n / d
  let high := low + 1
  let back (c : Nat) : Bool := ofDecimal? x.negative c exponent = some x
  match back low, back high with
  | true, true => some (divRound n d)
  | true, false => some low
  | false, true => some high
  | false, false => none

/-- The digits and exponent of the decimal with the fewest digits that rounds
to `x`. Seventeen digits are always enough; the last resort is the exact value,
which has no more than 1074 places. -/
def shortest (x : Binary64) : Nat × Int :=
  let first := x.decimalExponent
  let grids := (List.range 17).map fun i => first - Int.ofNat i
  match grids.findSome? fun g => (x.onGrid? g).map fun c => (c, g) with
  | some (c, g) => stripZeros 400 c g
  | none => stripZeros 1100 (x.units * Nat.pow 5 1074) (-1074)

end Binary64

end PageHarvest
