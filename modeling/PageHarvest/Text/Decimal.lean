/-!
Decimal numerals: the number that digits stand for, and the numerals of numbers
that fit in a given range.
-/

namespace PageHarvest.Text

def digitsValue (ds : List Char) : Nat :=
  ds.foldl (fun n c => 10 * n + (c.toNat - '0'.toNat)) 0

def spanDigits (s : List Char) : List Char × List Char :=
  (s.takeWhile Char.isDigit, s.dropWhile Char.isDigit)

def numeral? (ds : List Char) : Option Nat :=
  if ds.isEmpty || !ds.all Char.isDigit then none else some (digitsValue ds)

/-- A number of at most so many bits, with or without a plus sign. -/
def natOfBits? (bits : Nat) (cs : List Char) : Option Nat := do
  let n ← numeral? (if cs.head? = some '+' then cs.drop 1 else cs)
  if n < Nat.pow 2 bits then some n else none

/-- The codes of the digits. -/
theorem isDigit_range {c : Char} (h : c.isDigit = true) : 48 ≤ c.toNat ∧ c.toNat ≤ 57 := by
  simpa [Char.isDigit, UInt32.le_iff_toNat_le] using h

theorem digitsValue_toDigits (n : Nat) : digitsValue (Nat.toDigits 10 n) = n :=
  Nat.ofDigitChars_ten_toDigits

theorem digitsValue_replicate_zero (count : Nat) : digitsValue (List.replicate count '0') = 0 :=
  Nat.ofDigitChars_replicate_zero

theorem digitsValue_append (front back : List Char) :
    digitsValue (front ++ back) =
      Nat.pow 10 back.length * digitsValue front + digitsValue back := by
  have happend := Nat.ofDigitChars_append (b := 10) (l := front) (m := back) 0
  rw [Nat.ofDigitChars_eq_ofDigitChars_zero (l := back)] at happend
  exact happend

/-- A number has no more digits than it is written with. -/
theorem digitsValue_lt {ds : List Char} (h : ∀ c ∈ ds, c.isDigit = true) :
    digitsValue ds < Nat.pow 10 ds.length := by
  have step : ∀ ds : List Char, (∀ c ∈ ds, c.isDigit = true) → ∀ n places, n < 10 ^ places →
      ds.foldl (fun n c => 10 * n + (c.toNat - '0'.toNat)) n < 10 ^ (places + ds.length) := by
    intro ds
    induction ds with
    | nil => exact fun _ n places hn => hn
    | cons c ds ih =>
        intro hdigits n places hn
        have hrange := isDigit_range (hdigits c (by simp))
        have hnext : 10 * n + (c.toNat - '0'.toNat) < 10 ^ (places + 1) := by
          rw [Nat.pow_succ]
          simp
          omega
        have hrest := ih (fun d hd => hdigits d (by simp [hd])) _ _ hnext
        simpa [Nat.add_assoc, Nat.add_comm 1] using hrest
  have hvalue := step ds h 0 0 (by decide)
  rwa [Nat.zero_add] at hvalue

/-- Digits end where another character begins. -/
theorem spanDigits_append {ds rest : List Char} (hdigits : ∀ c ∈ ds, c.isDigit = true)
    (hrest : ∀ c ∈ rest.head?, c.isDigit = false) : spanDigits (ds ++ rest) = (ds, rest) := by
  rw [spanDigits, List.takeWhile_append_of_pos hdigits, List.dropWhile_append_of_pos hdigits]
  cases rest with
  | nil => simp
  | cons c rest => simp [hrest c rfl]

end PageHarvest.Text
