/-!
Punycode: a label of letters beyond ASCII written in ASCII. The other letters
come first, then the positions and code points of the rest as a sequence of
numbers with digits in base 36 of varying weight.
-/

namespace PageHarvest.Url

/-- The digit for a value below 36: letters first, then numerals. -/
def punycodeDigit (d : Nat) : Char :=
  if d < 26 then Char.ofNat ('a'.toNat + d) else Char.ofNat ('0'.toNat + (d - 26))

def punycodeThreshold (k bias : Nat) : Nat :=
  if k ≤ bias then 1 else if bias + 26 ≤ k then 26 else k - bias

/-- Divides by 35 until at most 455 is left, and counts 36 for each division. -/
def punycodeDamp (fuel delta k : Nat) : Nat × Nat :=
  match fuel with
  | 0 => (delta, k)
  | fuel + 1 => if 455 < delta then punycodeDamp fuel (delta / 35) (k + 36) else (delta, k)

/-- The bias after a number was written as part of `count` characters. -/
def punycodeBias (delta count : Nat) (first : Bool) : Nat :=
  let delta := if first then delta / 700 else delta / 2
  let (delta, k) := punycodeDamp delta (delta + delta / count) 0
  k + 36 * delta / (delta + 38)

def punycodeNumber (fuel bias k q : Nat) : List Char :=
  match fuel with
  | 0 => []
  | fuel + 1 =>
      let t := punycodeThreshold k bias
      if q < t then [punycodeDigit q]
      else
        punycodeDigit (t + (q - t) % (36 - t)) ::
          punycodeNumber fuel bias (k + 36) ((q - t) / (36 - t))

/-- The state of writing: the text so far, the number in progress, the bias and
how many characters are written. -/
structure PunycodeState where
  written : List Char
  delta : Nat
  bias : Nat
  count : Nat

def punycodeRound (basic m : Nat) (label : List Char) (s : PunycodeState) : PunycodeState :=
  label.foldl (fun s c =>
    if c.toNat < m then { s with delta := s.delta + 1 }
    else if c.toNat = m then
      { written := s.written ++ punycodeNumber (s.delta + 1) s.bias 36 s.delta
        delta := 0
        bias := punycodeBias s.delta (s.count + 1) (s.count == basic)
        count := s.count + 1 }
    else s) s

/-- Goes through the code points from `n` on, each time the least that is left. -/
def punycodeRounds (fuel basic n : Nat) (label : List Char) (s : PunycodeState) : List Char :=
  match fuel with
  | 0 => s.written
  | fuel + 1 =>
      match (label.map Char.toNat).filter (n ≤ ·) with
      | [] => s.written
      | first :: more =>
          let m := more.foldl min first
          let s := { s with delta := s.delta + (m - n) * (s.count + 1) }
          let s := punycodeRound basic m label s
          punycodeRounds fuel basic (m + 1) label { s with delta := s.delta + 1 }

/-- A label in Punycode, without the mark that says so. -/
def punycode (label : List Char) : List Char :=
  let basic := label.filter fun c => c.toNat < 0x80
  let start := if basic.isEmpty then [] else basic ++ ['-']
  punycodeRounds label.length basic.length 0x80 label ⟨start, 0, 72, basic.length⟩

end PageHarvest.Url
