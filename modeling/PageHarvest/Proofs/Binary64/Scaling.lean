import PageHarvest.Proofs.Binary64

/-!
Scaling by a power of ten in floating-point arithmetic. A significand below `2 ^ 53`
and the powers of ten up to the twenty-second are exact, so that only their product
or quotient is rounded, and the result is the nearest number. Otherwise both operands
may have been rounded before. The result is finite all the same, unless the decimal
lies among the three largest numbers or beyond them.
-/

namespace PageHarvest.Binary64

variable {negative : Bool} {x y : Binary64} {n d m k : Nat}

theorem div_le_divRound (n d : Nat) : n / d ≤ divRound n d := by
  rcases divRound_cases n d with h | h <;> omega

/-- Rounding adds at most a half. -/
theorem two_mul_divRound_le (n d : Nat) : 2 * (divRound n d * d) ≤ 2 * n + d := by
  have hparts : n / d * d + n % d = n := Nat.div_add_mod' n d
  have hnext : (n / d + 1) * d = n / d * d + d := Nat.succ_mul _ _
  unfold divRound
  dsimp only
  split_ifs <;> omega

theorem two_pow_le_of_lt_bitLength (h : k < bitLength n) : 2 ^ k ≤ n := by
  by_contra hsmall
  have hbits := bitLength_le (Nat.lt_of_not_le hsmall)
  omega

theorem bitLength_mono (h : n ≤ m) : bitLength n ≤ bitLength m :=
  bitLength_le (Nat.lt_of_le_of_lt h (lt_two_pow_bitLength m))

/-- The binary places that are left out of a quotient. -/
def cut (n d : Nat) : Nat := bitLength (n / d) - 53

theorem div_cut (n d : Nat) : n / (d * 2 ^ cut n d) = n / d / 2 ^ cut n d :=
  (Nat.div_div_eq_div_mul ..).symm

/-- If places are left out, the others are as many as are kept. -/
theorem le_div_cut (h : cut n d ≠ 0) : 2 ^ 52 ≤ n / d / 2 ^ cut n d := by
  have hbits : 52 + cut n d < bitLength (n / d) := by
    unfold cut at h ⊢
    omega
  rw [Nat.le_div_iff_mul_le (Nat.pow_pos (by decide)), ← Nat.pow_add]
  exact two_pow_le_of_lt_bitLength hbits

theorem div_cut_lt (n d : Nat) : n / d / 2 ^ cut n d < 2 ^ 53 := by
  rw [Nat.div_lt_iff_lt_mul (Nat.pow_pos (by decide)), ← Nat.pow_add]
  have hbits : bitLength (n / d) ≤ 53 + cut n d := by
    unfold cut
    omega
  exact Nat.lt_of_lt_of_le (lt_two_pow_bitLength _) (Nat.pow_le_pow_right (by decide) hbits)

theorem le_divRound_cut (h : cut n d ≠ 0) : 2 ^ 52 ≤ divRound n (d * 2 ^ cut n d) := by
  refine Nat.le_trans (le_div_cut h) ?_
  rw [← div_cut]
  exact div_le_divRound _ _

theorem divRound_cut_le (n d : Nat) : divRound n (d * 2 ^ cut n d) ≤ 2 ^ 53 := by
  have hfloor := div_cut_lt n d
  rw [← div_cut] at hfloor
  rcases divRound_cases n (d * 2 ^ cut n d) with hround | hround <;> omega

/-- The magnitude of a rounded number; a carry moves one place and changes nothing. -/
theorem units_of_nearest? (h : nearest? negative n d = some x) :
    x.negative = negative ∧ x.units = divRound n (d * 2 ^ cut n d) * 2 ^ cut n d := by
  simp only [nearest?] at h
  split_ifs at h with hcarry hfits hfits
  · obtain rfl := Option.some.inj h
    have hrounded : divRound n (d * 2 ^ cut n d) = 2 ^ 53 := hcarry
    refine ⟨rfl, ?_⟩
    calc 2 ^ 52 * 2 ^ (cut n d + 1)
        = 2 ^ 53 * 2 ^ cut n d := by rw [Nat.pow_succ]; omega
      _ = divRound n (d * 2 ^ cut n d) * 2 ^ cut n d := by rw [hrounded]
  · obtain rfl := Option.some.inj h
    exact ⟨rfl, rfl⟩

/-- What is below this many units is not rounded beyond the largest number. -/
def limit : Nat := (2 ^ 54 - 1) * 2 ^ (970 + leastPlace)

theorem cut_le_of_lt_limit (hd : 0 < d) (h : n < limit * d) : cut n d ≤ 971 + leastPlace := by
  have hquotient : n / d < limit := (Nat.div_lt_iff_lt_mul hd).mpr h
  have hlimit : limit < 2 ^ 54 * 2 ^ (970 + leastPlace) :=
    Nat.mul_lt_mul_of_pos_right (by decide) (Nat.pow_pos (by decide))
  rw [← Nat.pow_add] at hlimit
  have hpower := bitLength_le (Nat.lt_trans hquotient hlimit)
  unfold cut
  omega

/-- With the greatest scale a carry would mean that the limit was reached. -/
theorem cut_ne_of_carry (h : n < limit * d) (hcarry : divRound n (d * 2 ^ cut n d) = 2 ^ 53) :
    cut n d ≠ 971 + leastPlace := by
  intro hcut
  have hhalf := two_mul_divRound_le n (d * 2 ^ cut n d)
  have hunit : d * 2 ^ cut n d = 2 * (d * 2 ^ (970 + leastPlace)) := by
    rw [hcut, show 971 + leastPlace = 970 + leastPlace + 1 by omega, Nat.pow_succ',
      Nat.mul_left_comm]
  rw [hcarry, hunit] at hhalf
  rw [limit, Nat.mul_assoc, Nat.mul_comm _ d] at h
  omega

/-- Every quotient below the limit is rounded to a number. -/
theorem exists_nearest? (negative : Bool) (hd : 0 < d) (h : n < limit * d) :
    ∃ x, nearest? negative n d = some x := by
  have hplaces := leastPlace_eq
  have hcut := cut_le_of_lt_limit hd h
  by_cases hfull : divRound n (d * 2 ^ cut n d) = 2 ^ 53
  · have hcarried : divRound n (d * Nat.pow 2 (bitLength (n / d) - 53)) = Nat.pow 2 53 := hfull
    have hplace : cut n d + 1 ≤ 2045 := by
      have hother := cut_ne_of_carry h hfull
      omega
    simp only [nearest?, if_pos hcarried]
    exact ⟨_, dif_pos ⟨by decide, hplace, .inr (Nat.le_refl _)⟩⟩
  · have hkept : ¬ divRound n (d * Nat.pow 2 (bitLength (n / d) - 53)) = Nat.pow 2 53 := hfull
    have hsmall : divRound n (d * 2 ^ cut n d) < 2 ^ 53 :=
      Nat.lt_of_le_of_ne (divRound_cut_le n d) hfull
    rw [hplaces] at hcut
    simp only [nearest?, if_neg hkept]
    exact ⟨_, dif_pos ⟨hsmall, hcut, or_iff_not_imp_left.mpr le_divRound_cut⟩⟩

/-- A rounded number is at least as large as every number that the quotient reaches. -/
theorem units_le_of_nearest? (hd : 0 < d) (h : nearest? negative n d = some y)
    (hx : x.units * d ≤ n) : x.units ≤ y.units := by
  have hquotient : x.units ≤ n / d := (Nat.le_div_iff_mul_le hd).mpr hx
  have hscale : x.scale ≤ cut n d := by
    have hbits := bitLength_mono hquotient
    rw [← bitLength_units x]
    unfold cut
    omega
  have hrounded := div_le_divRound n (d * 2 ^ cut n d)
  rw [div_cut] at hrounded
  rw [(units_of_nearest? h).2]
  rcases Nat.eq_or_lt_of_le hscale with hscale | hscale
  · have hkept : x.significand ≤ n / d / 2 ^ cut n d := by
      rw [Nat.le_div_iff_mul_le (Nat.pow_pos (by decide)), ← hscale]
      exact hquotient
    rw [units, hscale]
    exact Nat.mul_le_mul_right _ (Nat.le_trans hkept hrounded)
  · -- The quotient has more places than `x`.
    calc x.units
        ≤ 2 ^ 53 * 2 ^ x.scale := Nat.mul_le_mul_right _ x.significand_lt.le
      _ = 2 ^ 52 * 2 ^ (x.scale + 1) := by rw [Nat.pow_succ]; omega
      _ ≤ 2 ^ 52 * 2 ^ cut n d :=
          Nat.mul_le_mul_left _ (Nat.pow_le_pow_right (by decide) hscale)
      _ ≤ divRound n (d * 2 ^ cut n d) * 2 ^ cut n d :=
          Nat.mul_le_mul_right _ (le_divRound_cut (by omega))

/-- A rounded number exceeds what was rounded by at most the fraction `2 ^ -53`. -/
theorem units_mul_le_of_nearest? (h : nearest? negative n 1 = some x) :
    x.units * 2 ^ 53 ≤ n * (2 ^ 53 + 1) := by
  have hhalf := two_mul_divRound_le n (1 * 2 ^ cut n 1)
  rw [(units_of_nearest? h).2]
  by_cases hcut : cut n 1 = 0
  · rw [hcut, Nat.pow_zero, Nat.mul_one, Nat.mul_one] at *
    have hexact := divRound_exact n Nat.one_pos
    rw [Nat.mul_one] at hexact
    omega
  · have hlarge := le_div_cut hcut
    rw [Nat.div_one, Nat.le_div_iff_mul_le (Nat.pow_pos (by decide))] at hlarge
    rw [Nat.one_mul] at *
    omega

/-- A number of at most 53 bits, followed by zeros, is not changed by rounding. -/
theorem nearest?_exact (negative : Bool) (hm : m < 2 ^ 53) (hk : k ≤ 971 + leastPlace) :
    ∃ x, nearest? negative (m * 2 ^ k) 1 = some x ∧ x.negative = negative ∧
      x.units = m * 2 ^ k := by
  have hlimit : m * 2 ^ k < limit * 1 := by
    calc m * 2 ^ k
        ≤ (2 ^ 53 - 1) * 2 ^ (970 + leastPlace + 1) :=
          Nat.mul_le_mul (by omega) (Nat.pow_le_pow_right (by decide) (by omega))
      _ = (2 ^ 54 - 2) * 2 ^ (970 + leastPlace) := by rw [Nat.pow_succ]; omega
      _ < limit * 1 := by
          rw [limit, Nat.mul_one]
          exact Nat.mul_lt_mul_of_pos_right (by decide) (Nat.pow_pos (by decide))
  obtain ⟨x, hx⟩ := exists_nearest? negative Nat.one_pos hlimit
  obtain ⟨hsign, hunits⟩ := units_of_nearest? hx
  have hbits : bitLength (m * 2 ^ k) ≤ 53 + k := by
    refine bitLength_le ?_
    rw [Nat.pow_add]
    exact Nat.mul_lt_mul_of_pos_right hm (Nat.pow_pos (by decide))
  have hcut : cut (m * 2 ^ k) 1 ≤ k := by
    unfold cut
    rw [Nat.div_one]
    omega
  have hsplit : m * 2 ^ k =
      m * 2 ^ (k - cut (m * 2 ^ k) 1) * 2 ^ cut (m * 2 ^ k) 1 := by
    rw [Nat.mul_assoc, ← Nat.pow_add, Nat.sub_add_cancel hcut]
  refine ⟨x, hx, hsign, ?_⟩
  generalize cut (m * 2 ^ k) 1 = c at *
  rw [hunits, hsplit, Nat.one_mul, divRound_exact _ (Nat.pow_pos (by decide))]

theorem ofNat?_eq (negative : Bool) (n : Nat) :
    ofNat? negative n = nearest? negative (n * 2 ^ leastPlace) 1 := by
  unfold ofNat?
  rw [← leastPlace_eq]
  rfl

theorem tenPow?_eq (hk : k ≤ maxTenPow + 1) :
    tenPow? k = nearest? false (10 ^ k * 2 ^ leastPlace) 1 := by
  have hsmall : ¬ 400 < (k : Int) := by
    unfold maxTenPow at hk
    omega
  have hlarge : ¬ (k : Int) + Nat.log2 1 + 1 < -400 := by omega
  rw [tenPow?, ofDecimal?, if_neg Nat.one_ne_zero, if_neg hsmall, if_neg hlarge,
    if_pos (Int.natCast_nonneg k), Int.toNat_natCast, Nat.one_mul, ← leastPlace_eq]
  rfl

def one : Binary64 where
  negative := false
  significand := 2 ^ 52
  scale := leastPlace - 52
  significand_lt := by decide
  scale_le := by rw [leastPlace_eq]; decide
  normal := .inr (Nat.le_refl _)

theorem units_one : one.units = 2 ^ leastPlace := by
  have hplaces : 52 ≤ leastPlace := by rw [leastPlace_eq]; decide
  calc one.units = 2 ^ (52 + (leastPlace - 52)) := (Nat.pow_add ..).symm
    _ = 2 ^ leastPlace := by rw [Nat.add_sub_cancel' hplaces]

/-- Every power of ten in the range is a number, and none is below one. -/
theorem exists_tenPow? (hk : k ≤ maxTenPow) :
    ∃ ten, tenPow? k = some ten ∧ 2 ^ leastPlace ≤ ten.units := by
  have hgreatest : Nat.pow 10 maxTenPow * Nat.pow 2 leastPlace < limit := by decide +kernel
  have hlimit : 10 ^ k * 2 ^ leastPlace < limit * 1 := by
    generalize maxTenPow = greatest at hk hgreatest
    rw [Nat.mul_one]
    exact Nat.lt_of_le_of_lt
      (Nat.mul_le_mul_right _ (Nat.pow_le_pow_right (by decide) hk)) hgreatest
  obtain ⟨ten, hten⟩ := exists_nearest? false Nat.one_pos hlimit
  refine ⟨ten, (tenPow?_eq (Nat.le_succ_of_le hk)).trans hten, ?_⟩
  rw [← units_one]
  refine units_le_of_nearest? Nat.one_pos hten ?_
  rw [units_one, Nat.mul_one]
  exact Nat.le_mul_of_pos_left _ (Nat.pow_pos (by decide))

theorem units_lt_limit (x : Binary64) : x.units < limit := by
  have hplaces := leastPlace_eq
  have hscale := x.scale_le
  calc x.units
      ≤ (2 ^ 53 - 1) * 2 ^ (970 + leastPlace + 1) := by
        refine Nat.mul_le_mul (Nat.le_sub_one_of_lt x.significand_lt) ?_
        exact Nat.pow_le_pow_right (by decide) (by omega)
    _ = (2 ^ 54 - 2) * 2 ^ (970 + leastPlace) := by rw [Nat.pow_succ]; omega
    _ < limit := Nat.mul_lt_mul_of_pos_right (by decide) (Nat.pow_pos (by decide))

/-- A quotient by one or more is finite. -/
theorem exists_div? (x : Binary64) (hy : 2 ^ leastPlace ≤ y.units) : ∃ z, x.div? y = some z := by
  have hpos : 0 < 2 ^ leastPlace := Nat.pow_pos (by decide)
  rw [div?, ← leastPlace_eq]
  have hdivisor := Nat.lt_of_lt_of_le hpos hy
  exact exists_nearest? _ hdivisor (Nat.mul_lt_mul_of_lt_of_le x.units_lt_limit hy hdivisor)

/-- Whatever is scaled down is finite. -/
theorem exists_scaleTen?_of_neg (x : Binary64) {power : Int} (hpower : power < 0) :
    ∃ y, x.scaleTen? power = some y := by
  induction x, power using scaleTen?.induct with
  | case1 x power hrange =>
      obtain ⟨ten, hten, hunits⟩ := exists_tenPow? hrange
      rw [scaleTen?, if_pos hrange, hten, Option.bind_eq_bind, Option.bind_some,
        if_neg (Int.not_le.mpr hpower)]
      exact exists_div? x hunits
  | case2 x power hrange hzero =>
      rw [scaleTen?, if_neg hrange, if_pos hzero]
      exact ⟨x, rfl⟩
  | case3 x power hrange hzero hnonneg => omega
  | case4 x power hrange hzero hneg ih =>
      obtain ⟨ten, hten, hunits⟩ := exists_tenPow? (Nat.le_refl maxTenPow)
      obtain ⟨quotient, hquotient⟩ := exists_div? x hunits
      rw [scaleTen?, if_neg hrange, if_neg hzero, if_neg hneg, hten, Option.bind_eq_bind,
        Option.bind_some, hquotient, Option.bind_some]
      refine ih quotient ?_
      unfold maxTenPow at hrange ⊢
      omega

theorem nearest?_zero (negative : Bool) (hd : 0 < d) :
    nearest? negative 0 d = some (zero negative) := by
  rw [← nearest?_units (zero negative)]
  refine nearest?_congr hd Nat.one_pos ?_
  simp [units, zero]

theorem ofNat?_zero (negative : Bool) : ofNat? negative 0 = some (zero negative) := by
  rw [ofNat?_eq, Nat.zero_mul, nearest?_zero negative Nat.one_pos]

/-- Every number of 64 bits is rounded to a number. -/
theorem exists_ofNat? (negative : Bool) (h : n < 2 ^ 64) : ∃ x, ofNat? negative n = some x := by
  rw [ofNat?_eq]
  refine exists_nearest? negative Nat.one_pos ?_
  calc n * 2 ^ leastPlace
      < 2 ^ 64 * 2 ^ leastPlace := Nat.mul_lt_mul_of_pos_right h (Nat.pow_pos (by decide))
    _ ≤ 2 ^ (970 + leastPlace) := by
        rw [← Nat.pow_add]
        exact Nat.pow_le_pow_right (by decide) (by omega)
    _ ≤ limit * 1 := by
        rw [Nat.mul_one]
        exact Nat.le_mul_of_pos_left _ (by decide)

/-- Zero stays zero, by whatever power it is scaled. -/
theorem exists_scaleTen?_of_zero (hx : x.significand = 0) {power : Int} (hpower : 0 ≤ power) :
    ∃ y, x.scaleTen? power = some y := by
  rw [scaleTen?]
  split_ifs with hrange
  · obtain ⟨ten, hten, -⟩ := exists_tenPow? hrange
    have hunits : x.units * ten.units = 0 := by
      rw [units, hx, Nat.zero_mul, Nat.zero_mul]
    have hplaces : 0 < Nat.pow 2 leastPlace := Nat.pow_pos (by decide)
    rw [hten, Option.bind_eq_bind, Option.bind_some, mul?, hunits, ← leastPlace_eq,
      nearest?_zero _ hplaces]
    exact ⟨_, rfl⟩
  · exact ⟨x, rfl⟩

theorem ofDecimal?_eq_nearest? {digits : Nat} {exponent : Int} (hlow : -22 ≤ exponent)
    (hhigh : exponent ≤ 22) :
    ofDecimal? negative digits exponent =
      nearest? negative (numerator digits exponent) (denominator exponent) := by
  unfold ofDecimal?
  rw [← leastPlace_eq]
  split_ifs with hzero hbig hsmall hsign
  · rw [hzero, numerator, Nat.zero_mul, Nat.zero_mul,
      nearest?_zero negative (denominator_pos exponent)]
  · omega
  · omega
  · rw [denominator_of_nonneg hsign, numerator]
  · rw [numerator_of_nonpos (by omega), denominator]

/-- The powers of ten up to the twenty-second are exact, for their odd part has at most
53 bits. -/
theorem tenPow?_exact (hk : k ≤ 22) :
    ∃ ten, tenPow? k = some ten ∧ ten.negative = false ∧ ten.units = 10 ^ k * 2 ^ leastPlace := by
  have hodd : 5 ^ k < 2 ^ 53 :=
    Nat.lt_of_le_of_lt (Nat.pow_le_pow_right (by decide) hk) (by decide)
  have hsplit : 10 ^ k * 2 ^ leastPlace = 5 ^ k * 2 ^ (k + leastPlace) := by
    rw [Nat.pow_add, ← Nat.mul_assoc, ← Nat.mul_pow]
  have hrange : k ≤ maxTenPow + 1 := by
    unfold maxTenPow
    omega
  rw [tenPow?_eq hrange, hsplit]
  exact nearest?_exact false hodd (by omega)

/-- With exact operands only the result is rounded. -/
theorem scaleTen?_exact (negative : Bool) {digits : Nat} (hdigits : digits < 2 ^ 53) {power : Int}
    (hlow : -22 ≤ power) (hhigh : power ≤ 22) :
    ∃ x, ofNat? negative digits = some x ∧
      x.scaleTen? power = ofDecimal? negative digits power := by
  obtain ⟨x, hx, hsign, hunits⟩ := nearest?_exact negative hdigits (k := leastPlace) (by omega)
  obtain ⟨ten, hten, htenSign, htenUnits⟩ := tenPow?_exact (k := power.natAbs) (by omega)
  have hrange : power.natAbs ≤ maxTenPow := by
    unfold maxTenPow
    omega
  have hplaces : 0 < 2 ^ leastPlace := Nat.pow_pos (by decide)
  have htens : 0 < 10 ^ power.natAbs * 2 ^ leastPlace :=
    Nat.mul_pos (Nat.pow_pos (by decide)) hplaces
  refine ⟨x, (ofNat?_eq negative digits).trans hx, ?_⟩
  rw [scaleTen?, if_pos hrange, hten, Option.bind_eq_bind, Option.bind_some,
    ofDecimal?_eq_nearest? hlow hhigh]
  split_ifs with hnonneg
  · rw [mul?, hsign, htenSign, Bool.bne_false, hunits, htenUnits, ← leastPlace_eq,
      denominator_of_nonneg hnonneg]
    refine nearest?_congr hplaces Nat.one_pos ?_
    have hpower : power.natAbs = power.toNat := by omega
    rw [hpower, numerator, Nat.pow_eq, Nat.pow_eq]
    ring
  · rw [div?, hsign, htenSign, Bool.bne_false, hunits, htenUnits, ← leastPlace_eq,
      numerator_of_nonpos (by omega)]
    refine nearest?_congr htens (denominator_pos power) ?_
    have hpower : power.natAbs = (-power).toNat := by omega
    rw [hpower, denominator, Nat.pow_eq, Nat.pow_eq]
    ring

/-- The least of the three largest numbers. What is below it may be rounded twice and
still be finite. -/
def nearLargest : Binary64 where
  negative := false
  significand := 2 ^ 53 - 3
  scale := 971 + leastPlace
  significand_lt := by decide
  scale_le := by rw [leastPlace_eq]
  normal := .inr (by decide)

theorem units_nearLargest : nearLargest.units = (2 ^ 54 - 6) * 2 ^ (970 + leastPlace) := by
  have hscale : 971 + leastPlace = 970 + leastPlace + 1 := by omega
  calc nearLargest.units = (2 ^ 53 - 3) * 2 ^ (970 + leastPlace + 1) := by rw [← hscale]; rfl
    _ = (2 ^ 54 - 6) * 2 ^ (970 + leastPlace) := by rw [Nat.pow_succ]; omega

/-- The power of ten after the greatest is not a number, although everything below the
limit is one. -/
theorem le_maxTenPow (h : 10 ^ k * 2 ^ leastPlace < limit) : k ≤ maxTenPow := by
  by_contra hlarge
  have hlimit : 10 ^ (maxTenPow + 1) * 2 ^ leastPlace < limit * 1 := by
    rw [Nat.mul_one]
    exact Nat.lt_of_le_of_lt (Nat.mul_le_mul_right _
      (Nat.pow_le_pow_right (by decide) (Nat.lt_of_not_le hlarge))) h
  obtain ⟨next, hnext⟩ := exists_nearest? false Nat.one_pos hlimit
  have hnone : tenPow? (maxTenPow + 1) = none := by decide +kernel
  rw [tenPow?_eq (Nat.le_refl _), hnext] at hnone
  cases hnone

/-- Each factor may have been rounded up, but the distance between `nearLargest` and the
limit is more than both add. -/
theorem units_mul_units_lt {other : Bool} (hx : nearest? negative n 1 = some x)
    (hy : nearest? other m 1 = some y) (h : n * m ≤ nearLargest.units * 2 ^ leastPlace) :
    x.units * y.units < limit * 2 ^ leastPlace := by
  have hunit : 0 < 2 ^ (970 + leastPlace) * 2 ^ leastPlace :=
    Nat.mul_pos (Nat.pow_pos (by decide)) (Nat.pow_pos (by decide))
  have hbound : x.units * y.units * (2 ^ 53 * 2 ^ 53) ≤
      nearLargest.units * 2 ^ leastPlace * ((2 ^ 53 + 1) * (2 ^ 53 + 1)) := by
    calc x.units * y.units * (2 ^ 53 * 2 ^ 53)
        = x.units * 2 ^ 53 * (y.units * 2 ^ 53) := Nat.mul_mul_mul_comm ..
      _ ≤ n * (2 ^ 53 + 1) * (m * (2 ^ 53 + 1)) :=
          Nat.mul_le_mul (units_mul_le_of_nearest? hx) (units_mul_le_of_nearest? hy)
      _ = n * m * ((2 ^ 53 + 1) * (2 ^ 53 + 1)) := Nat.mul_mul_mul_comm ..
      _ ≤ nearLargest.units * 2 ^ leastPlace * ((2 ^ 53 + 1) * (2 ^ 53 + 1)) :=
          Nat.mul_le_mul_right _ h
  rw [units_nearLargest, Nat.mul_assoc (2 ^ 54 - 6)] at hbound
  rw [limit, Nat.mul_assoc]
  omega

/-- A significand is scaled up to a number, if the exact product is below the limit by
some units in the last place. -/
theorem exists_scaleTen?_of_nonneg (negative : Bool) {digits : Nat} {power : Int}
    (hpower : 0 ≤ power) (hdigits : 0 < digits)
    (h : digits * 10 ^ power.toNat * 2 ^ leastPlace < nearLargest.units) :
    ∃ x y, ofNat? negative digits = some x ∧ x.scaleTen? power = some y := by
  have htens : 0 < 10 ^ power.toNat := Nat.pow_pos (by decide)
  have hplaces : 0 < 2 ^ leastPlace := Nat.pow_pos (by decide)
  have hlimit := nearLargest.units_lt_limit
  have hsignificand : digits * 2 ^ leastPlace < limit := by
    have hle := Nat.mul_le_mul_right (2 ^ leastPlace) (Nat.le_mul_of_pos_right digits htens)
    omega
  have hten : 10 ^ power.toNat * 2 ^ leastPlace < limit := by
    have hle := Nat.mul_le_mul_right (2 ^ leastPlace)
      (Nat.le_mul_of_pos_left (10 ^ power.toNat) hdigits)
    omega
  have hrange : power.toNat ≤ maxTenPow := le_maxTenPow hten
  have hvalue : digits * 2 ^ leastPlace * (10 ^ power.toNat * 2 ^ leastPlace) ≤
      nearLargest.units * 2 ^ leastPlace := by
    calc digits * 2 ^ leastPlace * (10 ^ power.toNat * 2 ^ leastPlace)
        = digits * 10 ^ power.toNat * 2 ^ leastPlace * 2 ^ leastPlace := by ring
      _ ≤ nearLargest.units * 2 ^ leastPlace := Nat.mul_le_mul_right _ h.le
  rw [← Nat.mul_one limit] at hsignificand hten
  obtain ⟨x, hx⟩ := exists_nearest? negative Nat.one_pos hsignificand
  obtain ⟨ten, htenPow⟩ := exists_nearest? false Nat.one_pos hten
  obtain ⟨y, hy⟩ := exists_nearest? (x.negative != ten.negative) hplaces
    (units_mul_units_lt hx htenPow hvalue)
  have habs : power.natAbs = power.toNat := by omega
  refine ⟨x, y, (ofNat?_eq negative digits).trans hx, ?_⟩
  rw [scaleTen?, habs, if_pos hrange, tenPow?_eq (Nat.le_succ_of_le hrange), htenPow,
    Option.bind_eq_bind, Option.bind_some, if_pos hpower, mul?, ← leastPlace_eq]
  exact hy

end PageHarvest.Binary64
