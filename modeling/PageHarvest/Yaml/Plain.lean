import PageHarvest.Json.Document

/-!
What plain scalars stand for: null, truth values, whole numbers in four bases,
floating-point numbers, and else the text itself. Digits after a leading zero
are a text, a whole number that does not fit in 64 bits has no value, and
infinities and what is not a number become null.
-/

namespace PageHarvest.Yaml

open Text (digitsValue spanDigits)

def radixValue? (radix : Nat) (ds : List Char) : Option Nat :=
  if ds.isEmpty then none
  else
    ds.foldlM (fun n c => do
      let d ← Json.hexValue? c
      if d < radix then some (radix * n + d) else none) 0

/-- Digits of which the first of several is zero. -/
def isPadded (ds : List Char) : Bool :=
  ds.length != 1 && ds.head? == some '0' && ds.all Char.isDigit

def magnitude? (cs : List Char) : Option Nat :=
  match cs with
  | '0' :: 'x' :: ds => radixValue? 16 ds
  | '0' :: 'o' :: ds => radixValue? 8 ds
  | '0' :: 'b' :: ds => radixValue? 2 ds
  | ds => if isPadded ds then none else radixValue? 10 ds

/-- What a whole number stands for. Beyond 64 bits it has no value, and from 128
bits on it is not read as a whole number. -/
inductive Whole where
  | value (n : Int)
  | tooBig
  | other
deriving DecidableEq, Repr

def readWhole (cs : List Char) : Whole :=
  let judge (limit : Nat) (value : Int) (n : Nat) : Whole :=
    if Json.Number.fits value then .value value else if n ≤ limit then .tooBig else .other
  match cs with
  | '-' :: ds =>
      match magnitude? ds with
      | some n => judge (Nat.pow 2 127) (-(n : Int)) n
      | none => .other
  | cs =>
      let ds := if cs.head? = some '+' then cs.drop 1 else cs
      match magnitude? ds with
      | some n => judge (Nat.pow 2 128 - 1) n n
      | none => .other

/-- Reads a decimal with a point or an exponent or both. Digits may be missing on
one side of the point. Beyond the largest number there is none. -/
def readReal? (cs : List Char) : Option Binary64 := do
  let (negative, cs) :=
    match cs with
    | '-' :: rest => (true, rest)
    | '+' :: rest => (false, rest)
    | rest => (false, rest)
  let (whole, cs) := spanDigits cs
  let (fraction, cs) :=
    match cs with
    | '.' :: rest => spanDigits rest
    | rest => ([], rest)
  if whole.isEmpty && fraction.isEmpty then none
  else
    let (exponent, cs) ← Json.readExponent cs
    if cs.isEmpty then
      Binary64.ofDecimal? negative (digitsValue (whole ++ fraction))
        (exponent.getD 0 - fraction.length)
    else none

/-- Digits that would be a number without their leading zeros. -/
def isPaddedNumber (cs : List Char) : Bool :=
  match cs with
  | '-' :: ds | '+' :: ds => isPadded ds
  | ds => isPadded ds

/-- The texts of null. Infinities, and what is not a number, have no value. -/
def nullTexts : List String :=
  ["", "~", "null", "Null", "NULL", ".inf", ".Inf", ".INF", "+.inf", "+.Inf", "+.INF", "-.inf",
    "-.Inf", "-.INF", ".nan", ".NaN", ".NAN"]

/-- What a plain scalar stands for; none if it is a number that is too big. -/
def plainValue? (text : String) : Option Json :=
  if nullTexts.contains text then some .null
  else if ["true", "True", "TRUE"].contains text then some (.bool true)
  else if ["false", "False", "FALSE"].contains text then some (.bool false)
  else
    match readWhole text.toList with
    | .value n => some (.number (.int n))
    | .tooBig => none
    | .other =>
        if isPaddedNumber text.toList then some (.string text)
        else
          match readReal? text.toList with
          | some x => some (.number (.real x))
          | none => some (.string text)

end PageHarvest.Yaml
