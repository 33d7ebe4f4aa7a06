import PageHarvest.Json.Basic

/-!
The text of JSON values, compact and indented. Strings escape the quote, the
backslash and what lies below the space, and nothing else. A floating-point
number has the fewest digits that read back to it, and always a fraction or an
exponent, so that it is never taken for a whole number.
-/

namespace PageHarvest.Json

def digits (n : Nat) : List Char := Nat.toDigits 10 n

def intText (n : Int) : List Char :=
  if n < 0 then '-' :: digits n.natAbs else digits n.natAbs

/-- How the digits of a floating-point number are set: positional notation for
decimal exponents from `least` to `greatest`, and otherwise one digit before the
point and a signed exponent. -/
structure RealLayout where
  least : Int
  greatest : Int

/-- Numbers from `0.00001` up to sixteen digits before the point are positional. -/
def realLayout : RealLayout := ⟨-5, 15⟩

def zeros (count : Nat) : List Char := List.replicate count '0'

/-- A positive decimal `significand * 10 ^ exponent`. -/
def decimalText (layout : RealLayout) (significand : Nat) (exponent : Int) : List Char :=
  let ds := digits significand
  let point := (ds.length : Int) + exponent
  let first := point - 1
  if layout.least ≤ first ∧ first ≤ layout.greatest then
    if point ≤ 0 then '0' :: '.' :: zeros (-point).toNat ++ ds
    else if 0 ≤ exponent then ds ++ zeros exponent.toNat ++ ['.', '0']
    else ds.take point.toNat ++ '.' :: ds.drop point.toNat
  else
    let fraction := if ds.length = 1 then [] else '.' :: ds.drop 1
    let sign := if first < 0 then '-' else '+'
    ds.take 1 ++ fraction ++ 'e' :: sign :: digits first.natAbs

/-- A finite floating-point number. Zero is `0.0`, or `-0.0` where negative. -/
def realText (x : Binary64) : List Char :=
  let magnitude :=
    if x.significand = 0 then ['0', '.', '0']
    else
      let (significand, exponent) := x.shortest
      decimalText realLayout significand exponent
  if x.negative then '-' :: magnitude else magnitude

def Number.render : Number → List Char
  | .int n => intText n
  | .real x => realText x

def hexDigit (n : Nat) : Char := Nat.digitChar n

def escapeChar (c : Char) : List Char :=
  if c = '"' then ['\\', '"']
  else if c = '\\' then ['\\', '\\']
  else if c = '\x08' then ['\\', 'b']
  else if c = '\t' then ['\\', 't']
  else if c = '\n' then ['\\', 'n']
  else if c = '\x0c' then ['\\', 'f']
  else if c = '\r' then ['\\', 'r']
  else if c.toNat < 0x20 then
    ['\\', 'u', '0', '0', hexDigit (c.toNat / 16), hexDigit (c.toNat % 16)]
  else [c]

def quoted (s : String) : List Char :=
  '"' :: s.toList.flatMap escapeChar ++ ['"']

mutual

/-- A value without any blanks. -/
def render : Json → List Char
  | .null => ['n', 'u', 'l', 'l']
  | .bool true => ['t', 'r', 'u', 'e']
  | .bool false => ['f', 'a', 'l', 's', 'e']
  | .number n => n.render
  | .string s => quoted s
  | .array items => '[' :: renderItems items
  | .object members => '{' :: renderMembers members
termination_by structural v => v

/-- What follows the opening bracket of an array. -/
def renderItems : List Json → List Char
  | [] => [']']
  | v :: rest => render v ++ renderMoreItems rest
termination_by structural vs => vs

def renderMoreItems : List Json → List Char
  | [] => [']']
  | v :: rest => ',' :: render v ++ renderMoreItems rest
termination_by structural vs => vs

/-- What follows the opening brace of an object. -/
def renderMembers : List (String × Json) → List Char
  | [] => ['}']
  | (k, v) :: rest => quoted k ++ ':' :: render v ++ renderMoreMembers rest
termination_by structural ms => ms

def renderMoreMembers : List (String × Json) → List Char
  | [] => ['}']
  | (k, v) :: rest => ',' :: quoted k ++ ':' :: render v ++ renderMoreMembers rest
termination_by structural ms => ms

end

def compact (v : Json) : String := String.ofList (render v)

/-- A new line that starts at a nesting depth, two spaces for each level. -/
def newLine (depth : Nat) : List Char := '\n' :: List.replicate (2 * depth) ' '

mutual

/-- A value over several lines; empty arrays and objects stay on one. -/
def renderPretty (depth : Nat) : Json → List Char
  | .null => ['n', 'u', 'l', 'l']
  | .bool true => ['t', 'r', 'u', 'e']
  | .bool false => ['f', 'a', 'l', 's', 'e']
  | .number n => n.render
  | .string s => quoted s
  | .array [] => ['[', ']']
  | .array (v :: rest) =>
      '[' :: newLine (depth + 1) ++ renderPretty (depth + 1) v ++ prettyItems depth rest
  | .object [] => ['{', '}']
  | .object ((k, v) :: rest) =>
      '{' :: newLine (depth + 1) ++ quoted k ++ ':' :: ' ' ::
        renderPretty (depth + 1) v ++ prettyMembers depth rest
termination_by structural v => v

def prettyItems (depth : Nat) : List Json → List Char
  | [] => newLine depth ++ [']']
  | v :: rest =>
      ',' :: newLine (depth + 1) ++ renderPretty (depth + 1) v ++ prettyItems depth rest
termination_by structural vs => vs

def prettyMembers (depth : Nat) : List (String × Json) → List Char
  | [] => newLine depth ++ ['}']
  | (k, v) :: rest =>
      ',' :: newLine (depth + 1) ++ quoted k ++ ':' :: ' ' ::
        renderPretty (depth + 1) v ++ prettyMembers depth rest
termination_by structural ms => ms

end

def pretty (v : Json) : String := String.ofList (renderPretty 0 v)

end PageHarvest.Json
