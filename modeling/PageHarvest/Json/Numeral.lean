import PageHarvest.Json.Basic
import PageHarvest.Text.Decimal

/-!
Numbers as they are written in a document. A numeral without fraction and exponent
is a whole number if it fits, except for minus zero. Every other one is a
floating-point number, and there are two ways to find it: the number nearest to the
decimal, or the one that comes out when the first digits are scaled in
floating-point arithmetic. The two may lie side by side.
-/

namespace PageHarvest.Json

open Text (digitsValue)

/-- The parts of a number in a text. There may be no digits after the point, and no
exponent. -/
structure Numeral where
  negative : Bool
  whole : List Char
  fraction : List Char
  exponent : Option Int
deriving DecidableEq

/-- Digits are appended to a number as long as it stays below `2 ^ 64`. The result
is that number, and how many digits went into it. -/
def takeDigits (n : Nat) : List Char → Nat × Nat
  | [] => (n, 0)
  | c :: rest =>
      let next := 10 * n + (c.toNat - '0'.toNat)
      if next < Nat.pow 2 64 then
        let (taken, count) := takeDigits next rest
        (taken, count + 1)
      else (n, 0)

namespace Numeral

/-- The power of ten of the last digit. -/
def power (n : Numeral) : Int := n.exponent.getD 0 - n.fraction.length

/-- The floating-point number that is nearest to the decimal. -/
def nearest? (n : Numeral) : Option Binary64 :=
  Binary64.ofDecimal? n.negative (digitsValue (n.whole ++ n.fraction)) n.power

/-- The floating-point number that comes out of the first digits. Whole digits that
are left out still count as places; the fraction is taken from its first digit on
even then, and what is left out of it does not count. -/
def scaled? (n : Numeral) : Option Binary64 := do
  let (front, wholeCount) := takeDigits 0 n.whole
  let (significand, fractionCount) := takeDigits front n.fraction
  let x ← Binary64.ofNat? n.negative significand
  x.scaleTen? (n.exponent.getD 0 + (n.whole.length - wholeCount : Nat) - fractionCount)

/-- The number that a numeral stands for, if `real` finds the floating-point
numbers. -/
def number? (real : Numeral → Option Binary64) (n : Numeral) : Option Number :=
  let value := digitsValue n.whole
  let signed : Int := if n.negative then -(value : Int) else value
  if n.fraction.isEmpty && n.exponent.isNone && Number.fits signed &&
      !(n.negative && value == 0) then
    some (.int signed)
  else (real n).map .real

end Numeral

end PageHarvest.Json
