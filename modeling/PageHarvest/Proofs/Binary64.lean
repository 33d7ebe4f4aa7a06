import Mathlib.Tactic.Common
import Mathlib.Tactic.Ring
import Mathlib.Tactic.SplitIfs
import PageHarvest.Binary64

/-!
A decimal is rounded by its value, whatever its spelling: digits and exponent may
trade zeros. The decimal that is printed of a number rounds back to it. On a grid
this was seen when the decimal was chosen, and with all its places the decimal is
the number itself.
-/

namespace PageHarvest.Binary64

variable {negative : Bool} {x : Binary64} {n d k : Nat}

theorem divRound_mul (hk : 0 < k) (n d : Nat) : divRound (k * n) (k * d) = divRound n d := by
  have hlow : 2 * (k * (n % d)) < k * d ↔ 2 * (n % d) < d := by
    rw [Nat.mul_left_comm, Nat.mul_lt_mul_left hk]
  have hhigh : k * d < 2 * (k * (n % d)) ↔ d < 2 * (n % d) := by
    rw [Nat.mul_left_comm, Nat.mul_lt_mul_left hk]
  simp only [divRound, Nat.mul_div_mul_left _ _ hk, Nat.mul_mod_mul_left, hlow, hhigh]

theorem nearest?_mul (hk : 0 < k) (negative : Bool) (n d : Nat) :
    nearest? negative (k * n) (k * d) = nearest? negative n d := by
  simp only [nearest?, Nat.mul_div_mul_left _ _ hk, Nat.mul_assoc, divRound_mul hk]

/-- Two quotients of one value are rounded to the same number. -/
theorem nearest?_congr {n' d' : Nat} (hd : 0 < d) (hd' : 0 < d') (h : n * d' = n' * d) :
    nearest? negative n d = nearest? negative n' d' := by
  rw [← nearest?_mul hd' negative n d, ← nearest?_mul hd negative n' d', Nat.mul_comm d' n, h,
    Nat.mul_comm d' d, Nat.mul_comm n' d]

theorem lt_two_pow_bitLength (n : Nat) : n < 2 ^ bitLength n := by
  unfold bitLength
  split_ifs with hzero
  · omega
  · exact Nat.lt_log2_self

theorem lt_bitLength (h : 2 ^ k ≤ n) : k < bitLength n :=
  (Nat.pow_lt_pow_iff_right (by decide)).mp (Nat.lt_of_le_of_lt h (lt_two_pow_bitLength n))

theorem bitLength_le (h : n < 2 ^ k) : bitLength n ≤ k := by
  unfold bitLength
  split_ifs with hzero
  · exact Nat.zero_le k
  · exact (Nat.log2_lt hzero).mpr h

/-- What is rounded to a finite number is not far above the largest. -/
theorem bitLength_of_nearest? (h : nearest? negative n d = some x) :
    bitLength (n / d) ≤ 2098 := by
  simp only [nearest?] at h
  split_ifs at h with hcarry hfits hfits
  · omega
  · omega

/-- Less than half of the smallest positive number is rounded to zero. -/
theorem le_of_nearest? (h : nearest? negative n d = some x) (hx : x.significand ≠ 0) :
    d ≤ 2 * n := by
  by_contra hsmall
  have hlt : n < d := by omega
  have hhalf : 2 * n < d := by omega
  have hrounded : divRound n (d * Nat.pow 2 (bitLength (n / d) - 53)) = 0 := by
    simp [Nat.div_eq_of_lt hlt, bitLength, divRound, Nat.mod_eq_of_lt hlt, hhalf]
  have hcarry : ¬ 0 = Nat.pow 2 53 := by decide
  simp only [nearest?, hrounded, if_neg hcarry] at h
  split at h
  · cases h
    exact hx rfl
  · cases h

@[irreducible] def leastPlace : Nat := 1074

theorem leastPlace_eq : leastPlace = 1074 := by
  unfold leastPlace
  rfl

def numerator (digits : Nat) (exponent : Int) : Nat :=
  digits * Nat.pow 10 exponent.toNat * Nat.pow 2 leastPlace

def denominator (exponent : Int) : Nat := Nat.pow 10 (-exponent).toNat

variable {digits : Nat} {exponent : Int}

theorem denominator_pos (exponent : Int) : 0 < denominator exponent := Nat.pow_pos (by decide)

theorem numerator_of_nonpos (h : exponent ≤ 0) :
    numerator digits exponent = digits * Nat.pow 2 leastPlace := by
  rw [numerator, Int.toNat_eq_zero.mpr h]
  exact congrArg (· * Nat.pow 2 leastPlace) (Nat.mul_one digits)

theorem denominator_of_nonneg (h : 0 ≤ exponent) : denominator exponent = 1 := by
  rw [denominator, Int.toNat_eq_zero.mpr (by omega), Nat.pow_eq, Nat.pow_zero]

theorem two_pow_le_ten_pow (n : Nat) : 2 ^ (3 * n) ≤ 10 ^ n := by
  rw [Nat.pow_mul]
  exact Nat.pow_le_pow_left (by decide) n

/-- The decimals for which no power of ten is computed are too big. -/
theorem nearest?_of_big (hdigits : digits ≠ 0) (h : 400 < exponent) :
    nearest? negative (numerator digits exponent) (denominator exponent) ≠ some x := by
  intro hnear
  have hbits := bitLength_of_nearest? hnear
  have hten : 2 ^ (3 * exponent.toNat) ≤ digits * 10 ^ exponent.toNat :=
    Nat.le_trans (two_pow_le_ten_pow _) (Nat.le_mul_of_pos_left _ (by omega))
  have hlarge : 2 ^ (3 * exponent.toNat + leastPlace) ≤ numerator digits exponent := by
    rw [Nat.pow_add]
    exact Nat.mul_le_mul_right _ hten
  have hlt := lt_bitLength hlarge
  rw [denominator_of_nonneg (by omega), Nat.div_one] at hbits
  rw [leastPlace_eq] at hlt
  omega

/-- The decimals for which none is computed on the other side are too small. -/
theorem nearest?_of_small (hx : x.significand ≠ 0) (h : exponent + digits.log2 + 1 < -400) :
    nearest? negative (numerator digits exponent) (denominator exponent) ≠ some x := by
  intro hnear
  have hle := le_of_nearest? hnear hx
  have hten : 2 ^ (3 * (-exponent).toNat) ≤ denominator exponent := two_pow_le_ten_pow _
  have hdigits : digits < 2 ^ (digits.log2 + 1) := Nat.lt_log2_self
  have hsmall : 2 * (digits * 2 ^ leastPlace) < 2 ^ (digits.log2 + 1 + leastPlace + 1) := by
    rw [Nat.pow_succ, Nat.pow_add _ (digits.log2 + 1), Nat.mul_comm 2]
    exact Nat.mul_lt_mul_of_pos_right
      (Nat.mul_lt_mul_of_pos_right hdigits (Nat.pow_pos (by decide))) (by decide)
  rw [numerator_of_nonpos (by omega)] at hle
  have hlt := Nat.lt_of_le_of_lt (Nat.le_trans hten hle) hsmall
  have hexponents := (Nat.pow_lt_pow_iff_right (by decide)).mp hlt
  rw [leastPlace_eq] at hexponents
  omega

/-- A decimal that is not rounded to zero is rounded by its value. -/
theorem ofDecimal?_eq_some_iff (hdigits : digits ≠ 0) (hx : x.significand ≠ 0) :
    ofDecimal? negative digits exponent = some x ↔
      nearest? negative (numerator digits exponent) (denominator exponent) = some x := by
  unfold ofDecimal?
  rw [if_neg hdigits, ← leastPlace_eq]
  split_ifs with hbig hsmall hsign
  · simp only [nearest?_of_big hdigits hbig]
  · have hzero : zero negative ≠ x := by
      rintro rfl
      exact hx rfl
    simp only [Option.some.injEq, hzero, nearest?_of_small hx hsmall]
  · rw [denominator_of_nonneg hsign, numerator]
  · rw [numerator_of_nonpos (by omega), denominator]

theorem digits_ne_zero (hx : x.significand ≠ 0) (h : ofDecimal? negative digits exponent = some x) :
    digits ≠ 0 := by
  rintro rfl
  cases h
  exact hx rfl

/-- Zeros may be added to the digits, or taken away again. -/
theorem ofDecimal?_zeros (hx : x.significand ≠ 0) (zeros : Nat) :
    ofDecimal? negative (digits * 10 ^ zeros) (exponent - zeros) = some x ↔
      ofDecimal? negative digits exponent = some x := by
  by_cases hdigits : digits = 0
  · subst hdigits
    simp [ofDecimal?]
  have hextended : digits * 10 ^ zeros ≠ 0 := Nat.mul_ne_zero hdigits (by simp)
  rw [ofDecimal?_eq_some_iff hextended hx, ofDecimal?_eq_some_iff hdigits hx]
  -- Both quotients have the value `digits * 10 ^ exponent`.
  have hpowers : 10 ^ zeros * 10 ^ (exponent - zeros).toNat * 10 ^ (-exponent).toNat =
      10 ^ exponent.toNat * 10 ^ (-(exponent - zeros)).toNat := by
    rw [← Nat.pow_add, ← Nat.pow_add, ← Nat.pow_add]
    congr 1
    omega
  have hvalue : numerator (digits * 10 ^ zeros) (exponent - zeros) * denominator exponent =
      numerator digits exponent * denominator (exponent - zeros) := by
    calc numerator (digits * 10 ^ zeros) (exponent - zeros) * denominator exponent
        = digits * (10 ^ zeros * 10 ^ (exponent - zeros).toNat * 10 ^ (-exponent).toNat) *
            2 ^ leastPlace := by
          simp only [numerator, denominator, Nat.pow_eq]
          ring
      _ = digits * (10 ^ exponent.toNat * 10 ^ (-(exponent - zeros)).toNat) * 2 ^ leastPlace := by
          rw [hpowers]
      _ = numerator digits exponent * denominator (exponent - zeros) := by
          simp only [numerator, denominator, Nat.pow_eq]
          ring
  rw [nearest?_congr (denominator_pos _) (denominator_pos _) hvalue]

theorem divRound_exact (n : Nat) {d : Nat} (hd : 0 < d) : divRound (n * d) d = n := by
  simp [divRound, Nat.mul_div_cancel _ hd, Nat.mul_mod_left, hd]

/-- The significand has as many bits as are kept, unless the scale is the least
one. -/
theorem bitLength_units (x : Binary64) : bitLength x.units - 53 = x.scale := by
  have hpos : 0 < 2 ^ x.scale := Nat.pow_pos (by decide)
  rcases x.normal with hleast | hnormal
  · have hunits : x.units = x.significand := by
      rw [units, hleast]
      exact Nat.mul_one _
    have hbits : bitLength x.units ≤ 53 := bitLength_le (hunits ▸ x.significand_lt)
    omega
  · have hlow : 2 ^ (52 + x.scale) ≤ x.units := by
      rw [Nat.pow_add]
      exact Nat.mul_le_mul_right _ hnormal
    have hhigh : x.units < 2 ^ (53 + x.scale) := by
      rw [Nat.pow_add]
      exact Nat.mul_lt_mul_of_pos_right x.significand_lt hpos
    have hleast := lt_bitLength hlow
    have hmost := bitLength_le hhigh
    omega

/-- A number is the one that is nearest to its own value. -/
theorem nearest?_units (x : Binary64) : nearest? x.negative x.units 1 = some x := by
  have hround : divRound x.units (1 * Nat.pow 2 x.scale) = x.significand := by
    rw [Nat.one_mul]
    exact divRound_exact _ (Nat.pow_pos (by decide))
  have hcarry : ¬ x.significand = Nat.pow 2 53 := Nat.ne_of_lt x.significand_lt
  simp only [nearest?, Nat.div_one, bitLength_units, hround, if_neg hcarry]
  exact dif_pos ⟨x.significand_lt, x.scale_le, x.normal⟩

/-- With all its places a number is a decimal, which rounds to that number. -/
theorem ofDecimal?_exact (hx : x.significand ≠ 0) :
    ofDecimal? x.negative (x.units * Nat.pow 5 leastPlace) (-(leastPlace : Int)) = some x := by
  have hunits : x.units ≠ 0 := Nat.mul_ne_zero hx (Nat.pow_pos (by decide)).ne'
  have hdigits : x.units * Nat.pow 5 leastPlace ≠ 0 :=
    Nat.mul_ne_zero hunits (Nat.pow_pos (by decide)).ne'
  have hvalue : numerator (x.units * Nat.pow 5 leastPlace) (-(leastPlace : Int)) * 1 =
      x.units * denominator (-(leastPlace : Int)) := by
    rw [numerator_of_nonpos (by omega), denominator, neg_neg, Int.toNat_natCast, Nat.mul_one,
      Nat.mul_assoc]
    exact congrArg _ (Nat.mul_pow 5 2 leastPlace).symm
  rw [ofDecimal?_eq_some_iff hdigits hx, nearest?_congr (denominator_pos _) Nat.one_pos hvalue,
    nearest?_units]

theorem divRound_cases (n d : Nat) : divRound n d = n / d ∨ divRound n d = n / d + 1 := by
  unfold divRound
  dsimp only
  split_ifs <;> simp

/-- What is chosen on a grid has been seen to round back. -/
theorem ofDecimal?_of_onGrid? {c : Nat} (h : x.onGrid? exponent = some c) :
    ofDecimal? x.negative c exponent = some x := by
  simp only [onGrid?] at h
  split at h
  · rename_i hlow hhigh
    cases h
    rcases divRound_cases _ _ with hround | hround
    · rw [hround]
      exact of_decide_eq_true hlow
    · rw [hround]
      exact of_decide_eq_true hhigh
  · rename_i hlow hhigh
    cases h
    exact of_decide_eq_true hlow
  · rename_i hlow hhigh
    cases h
    exact of_decide_eq_true hhigh
  · cases h

theorem ofDecimal?_stripZeros (hx : x.significand ≠ 0) (fuel : Nat)
    (h : ofDecimal? negative digits exponent = some x) :
    ofDecimal? negative (stripZeros fuel digits exponent).1 (stripZeros fuel digits exponent).2 =
      some x := by
  induction fuel generalizing digits exponent with
  | zero => exact h
  | succ fuel ih =>
      rw [stripZeros]
      split_ifs with hzero
      · apply ih
        have htens : digits / 10 * 10 ^ 1 = digits := by omega
        have hplaces : exponent + 1 - (1 : Nat) = exponent := by omega
        rw [← ofDecimal?_zeros hx 1, htens, hplaces]
        exact h
      · exact h

/-- The shortest decimal of a number rounds to that number. -/
theorem ofDecimal?_shortest (hx : x.significand ≠ 0) :
    ofDecimal? x.negative x.shortest.1 x.shortest.2 = some x := by
  unfold shortest
  dsimp only
  split
  · rename_i c g hfound
    obtain ⟨grid, -, hgrid⟩ := List.exists_of_findSome?_eq_some hfound
    obtain ⟨c', hc', heq⟩ := Option.map_eq_some_iff.mp hgrid
    cases heq
    exact ofDecimal?_stripZeros hx 400 (ofDecimal?_of_onGrid? hc')
  · have hexponent : (-1074 : Int) = -(leastPlace : Int) := by
      rw [leastPlace_eq]
      rfl
    rw [hexponent, ← leastPlace_eq]
    exact ofDecimal?_stripZeros hx 1100 (ofDecimal?_exact hx)

end PageHarvest.Binary64
