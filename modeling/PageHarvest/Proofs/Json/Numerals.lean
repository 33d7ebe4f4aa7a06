import PageHarvest.Proofs.Binary64.Scaling
import PageHarvest.Proofs.Json.Numbers

/-!
Numerals that are read by scaling their first digits. While the digits stay below
`2 ^ 53` and their power of ten is at most the twenty-second, up or down, the number
that is read is the nearest one. With more digits it may be another, but whatever
number was printed, some number is read.
-/

namespace PageHarvest.Json

open Text (digitsValue)

variable {n : Nat} {ds : List Char}

theorem digitsValue_cons (c : Char) (ds : List Char) :
    digitsValue (c :: ds) = (c.toNat - '0'.toNat) * 10 ^ ds.length + digitsValue ds := by
  have hsingle : digitsValue [c] = c.toNat - '0'.toNat := by simp [digitsValue]
  rw [← List.singleton_append, Text.digitsValue_append, hsingle, Nat.pow_eq, Nat.mul_comm]

/-- Digits in front of others move up by their number of places. -/
theorem append_digit (n : Nat) (c : Char) (ds : List Char) :
    (10 * n + (c.toNat - '0'.toNat)) * 10 ^ ds.length + digitsValue ds =
      n * 10 ^ (c :: ds).length + digitsValue (c :: ds) := by
  rw [digitsValue_cons, List.length_cons, Nat.pow_succ]
  ring

/-- Digits that fit are all taken. -/
theorem takeDigits_of_lt (h : n * 10 ^ ds.length + digitsValue ds < 2 ^ 64) :
    takeDigits n ds = (n * 10 ^ ds.length + digitsValue ds, ds.length) := by
  induction ds generalizing n with
  | nil => simp [takeDigits, digitsValue]
  | cons c ds ih =>
      rw [← append_digit] at h
      have hnext : 10 * n + (c.toNat - '0'.toNat) < Nat.pow 2 64 := by
        have hplaces := Nat.le_mul_of_pos_right (10 * n + (c.toNat - '0'.toNat))
          (Nat.pow_pos (a := 10) (n := ds.length) (by decide))
        rw [Nat.pow_eq]
        omega
      rw [takeDigits, if_pos hnext, ih h, append_digit]
      rfl

theorem takeDigits_lt (h : n < 2 ^ 64) : (takeDigits n ds).1 < 2 ^ 64 := by
  induction ds generalizing n with
  | nil => exact h
  | cons c ds ih =>
      rw [takeDigits]
      split_ifs with hnext
      · exact ih hnext
      · exact h

/-- What is taken is no more than the whole, once the places that are left out are
put back. -/
theorem takeDigits_le (n : Nat) (ds : List Char) :
    (takeDigits n ds).2 ≤ ds.length ∧
      (takeDigits n ds).1 * 10 ^ (ds.length - (takeDigits n ds).2) ≤
        n * 10 ^ ds.length + digitsValue ds := by
  induction ds generalizing n with
  | nil => simp [takeDigits]
  | cons c ds ih =>
      rw [takeDigits]
      split_ifs with hnext
      · obtain ⟨hcount, hvalue⟩ := ih (10 * n + (c.toNat - '0'.toNat))
        rw [append_digit] at hvalue
        refine ⟨Nat.succ_le_succ hcount, ?_⟩
        rw [List.length_cons, Nat.add_sub_add_right]
        exact hvalue
      · exact ⟨Nat.zero_le _, Nat.le_add_right _ _⟩

namespace Numeral

variable {numeral : Numeral} {x : Binary64}

/-- The whole number that all digits make up. -/
theorem digitsValue_parts (numeral : Numeral) :
    digitsValue (numeral.whole ++ numeral.fraction) =
      digitsValue numeral.whole * 10 ^ numeral.fraction.length +
        digitsValue numeral.fraction := by
  rw [Text.digitsValue_append, Nat.pow_eq, Nat.mul_comm]

/-- A numeral whose whole part is taken as it is. -/
theorem scaled?_eq (hwhole : digitsValue numeral.whole < 2 ^ 64) :
    numeral.scaled? =
      (Binary64.ofNat? numeral.negative
          (takeDigits (digitsValue numeral.whole) numeral.fraction).1).bind fun x =>
        x.scaleTen? (numeral.exponent.getD 0 -
          (takeDigits (digitsValue numeral.whole) numeral.fraction).2) := by
  have hvalue : 0 * 10 ^ numeral.whole.length + digitsValue numeral.whole =
      digitsValue numeral.whole := by
    rw [Nat.zero_mul, Nat.zero_add]
  rw [← hvalue] at hwhole
  rw [scaled?, takeDigits_of_lt hwhole, hvalue]
  simp

/-- A numeral of few digits and a small power of ten. -/
def IsShort (numeral : Numeral) : Prop :=
  digitsValue (numeral.whole ++ numeral.fraction) < 2 ^ 53 ∧
    -22 ≤ numeral.power ∧ numeral.power ≤ 22

instance : Decidable numeral.IsShort := inferInstanceAs (Decidable (_ ∧ _ ∧ _))

/-- A short numeral is read as the nearest number. -/
theorem IsShort.scaled?_eq_nearest? (h : numeral.IsShort) : numeral.scaled? = numeral.nearest? := by
  obtain ⟨hall, hleast, hgreatest⟩ := h
  have hdigits := hall
  rw [digitsValue_parts] at hdigits
  have hwhole : digitsValue numeral.whole < 2 ^ 64 := by
    have hplaces := Nat.le_mul_of_pos_right (digitsValue numeral.whole)
      (Nat.pow_pos (a := 10) (n := numeral.fraction.length) (by decide))
    omega
  obtain ⟨x, hx, hscale⟩ :=
    Binary64.scaleTen?_exact numeral.negative hall hleast hgreatest
  rw [digitsValue_parts] at hx
  rw [scaled?_eq hwhole, takeDigits_of_lt (Nat.lt_trans hdigits (by decide)), hx,
    Option.bind_some]
  exact hscale

/-- The digits before the point always fit. -/
theorem Denotes.digitsValue_whole_lt (h : numeral.Denotes x) :
    digitsValue numeral.whole < 2 ^ 64 := by
  calc digitsValue numeral.whole
      < 10 ^ numeral.whole.length := Text.digitsValue_lt h.isWhole.digits
    _ ≤ 10 ^ 16 := Nat.pow_le_pow_right (by decide) h.short
    _ < 2 ^ 64 := by decide

/-- The printed decimal is below every number that is greater than the one printed. -/
theorem Denotes.numerator_lt (h : numeral.Denotes x) (hx : x.significand ≠ 0) {y : Binary64}
    (hxy : x.units < y.units) :
    Binary64.numerator (digitsValue (numeral.whole ++ numeral.fraction)) numeral.power <
      y.units * Binary64.denominator numeral.power := by
  have hnearest := h.nearest
  have hdigits := Binary64.digits_ne_zero hx hnearest
  rw [nearest?, Binary64.ofDecimal?_eq_some_iff hdigits hx] at hnearest
  by_contra hlarge
  have hreached := Binary64.units_le_of_nearest? (Binary64.denominator_pos _) hnearest
    (Nat.le_of_not_lt hlarge)
  omega

/-- Digits that are left out do not make a decimal larger. -/
theorem scaled_le_numerator {significand digits left : Nat} {power : Int}
    (h : significand * 10 ^ left ≤ digits) (hpower : 0 ≤ power + left) :
    significand * 10 ^ (power + left).toNat * 2 ^ Binary64.leastPlace *
        Binary64.denominator power ≤ Binary64.numerator digits power := by
  have hpowers : 10 ^ (power + left).toNat * 10 ^ (-power).toNat =
      10 ^ left * 10 ^ power.toNat := by
    rw [← Nat.pow_add, ← Nat.pow_add]
    congr 1
    omega
  calc significand * 10 ^ (power + left).toNat * 2 ^ Binary64.leastPlace *
        Binary64.denominator power
      = significand * (10 ^ (power + left).toNat * 10 ^ (-power).toNat) *
          2 ^ Binary64.leastPlace := by
        rw [Binary64.denominator, Nat.pow_eq]
        ring
    _ = significand * 10 ^ left * 10 ^ power.toNat * 2 ^ Binary64.leastPlace := by
        rw [hpowers]
        ring
    _ ≤ digits * 10 ^ power.toNat * 2 ^ Binary64.leastPlace :=
        Nat.mul_le_mul_right _ (Nat.mul_le_mul_right _ h)
    _ = Binary64.numerator digits power := rfl

/-- Whatever was printed below the three largest numbers, some number is read. -/
theorem Denotes.exists_scaled? (h : numeral.Denotes x)
    (hx : x.units < Binary64.nearLargest.units) : ∃ y, numeral.scaled? = some y := by
  have hwhole := h.digitsValue_whole_lt
  obtain ⟨hcount, htaken⟩ := takeDigits_le (digitsValue numeral.whole) numeral.fraction
  have hfits : (takeDigits (digitsValue numeral.whole) numeral.fraction).1 < 2 ^ 64 :=
    takeDigits_lt hwhole
  rw [← digitsValue_parts] at htaken
  rw [scaled?_eq hwhole]
  generalize takeDigits (digitsValue numeral.whole) numeral.fraction = taken at *
  obtain ⟨significand, count⟩ := taken
  dsimp only at *
  have hpower : numeral.exponent.getD 0 - count =
      numeral.power + (numeral.fraction.length - count : Nat) := by
    unfold power
    omega
  rw [hpower]
  by_cases hsign : numeral.power + (numeral.fraction.length - count : Nat) < 0
  · obtain ⟨y, hy⟩ := Binary64.exists_ofNat? numeral.negative hfits
    rw [hy, Option.bind_some]
    exact Binary64.exists_scaleTen?_of_neg y hsign
  have hnonneg := Int.not_lt.mp hsign
  by_cases hzero : significand = 0
  · rw [hzero, Binary64.ofNat?_zero, Option.bind_some]
    exact Binary64.exists_scaleTen?_of_zero rfl hnonneg
  · have hdigits : x.significand ≠ 0 := by
      intro hnone
      rw [h.zero hnone] at htaken
      have hpos := Nat.mul_pos (Nat.pos_of_ne_zero hzero)
        (Nat.pow_pos (a := 10) (n := numeral.fraction.length - count) (by decide))
      omega
    have hbound : significand *
        10 ^ (numeral.power + (numeral.fraction.length - count : Nat)).toNat *
          2 ^ Binary64.leastPlace < Binary64.nearLargest.units :=
      Nat.lt_of_mul_lt_mul_right
        (Nat.lt_of_le_of_lt (scaled_le_numerator htaken hnonneg) (h.numerator_lt hdigits hx))
    obtain ⟨y, z, hy, hz⟩ := Binary64.exists_scaleTen?_of_nonneg numeral.negative hnonneg
      (Nat.pos_of_ne_zero hzero) hbound
    rw [hy, Option.bind_some]
    exact ⟨z, hz⟩

end Numeral

/-- The three largest numbers of either sign are printed and read as numbers, too. -/
theorem exists_reread?_of_large {x : Binary64}
    (hx : Binary64.nearLargest.units ≤ x.units) :
    ∃ y, reread? Numeral.scaled? x = some y := by
  have hlargest : ∀ negative, ∀ i < 3, ∀ hlt hle hnormal,
      (reread? Numeral.scaled? ⟨negative, 2 ^ 53 - 3 + i, 2045, hlt, hle, hnormal⟩).isSome =
        true := by
    decide +kernel
  obtain ⟨negative, significand, scale, hlt, hle, hnormal⟩ := x
  have hplaces := Binary64.leastPlace_eq
  have hunit : 0 < 2 ^ (970 + Binary64.leastPlace) := Nat.pow_pos (by decide)
  have hunits : (2 ^ 54 - 6) * 2 ^ (970 + Binary64.leastPlace) ≤ significand * 2 ^ scale :=
    Binary64.units_nearLargest ▸ hx
  have hscale : scale = 970 + Binary64.leastPlace + 1 := by
    by_contra hother
    have hsmall : 2 ^ scale ≤ 2 ^ (970 + Binary64.leastPlace) :=
      Nat.pow_le_pow_right (by decide) (by omega)
    have hproduct := Nat.mul_le_mul hlt.le hsmall
    rw [Nat.pow_eq] at hproduct
    omega
  have hsignificand : 2 ^ 53 - 3 ≤ significand := by
    have hdoubled : significand * 2 ^ scale =
        significand * 2 * 2 ^ (970 + Binary64.leastPlace) := by
      rw [hscale, Nat.pow_succ', Nat.mul_assoc]
    rw [hdoubled] at hunits
    have hhalved := Nat.le_of_mul_le_mul_right hunits hunit
    omega
  obtain ⟨i, rfl⟩ := Nat.exists_eq_add_of_le hsignificand
  obtain rfl : scale = 2045 := by omega
  have hi : i < 3 := by
    rw [Nat.pow_eq] at hlt
    omega
  exact Option.isSome_iff_exists.mp (hlargest negative i hi hlt hle hnormal)

/-- A printed number is read as some number. -/
theorem exists_reread? (x : Binary64) : ∃ y, reread? Numeral.scaled? x = some y := by
  by_cases hx : x.units < Binary64.nearLargest.units
  · obtain ⟨n, hdenotes, hreread, -⟩ := exists_reread?_eq x
    rw [hreread]
    exact hdenotes.exists_scaled? hx
  · exact exists_reread?_of_large (Nat.le_of_not_lt hx)

def reread (x : Binary64) : Binary64 :=
  (reread? Numeral.scaled? x).get (Option.isSome_iff_exists.mpr (exists_reread? x))

theorem reread?_scaled? (x : Binary64) : reread? Numeral.scaled? x = some (reread x) :=
  (Option.some_get _).symm

def PrintsShort (x : Binary64) : Prop := ∀ found ∈ readNumber (realText x), found.1.IsShort

instance (x : Binary64) : Decidable (PrintsShort x) :=
  inferInstanceAs (Decidable (∀ found ∈ readNumber (realText x), found.1.IsShort))

/-- Such a number is read as it was printed. -/
theorem reread_of_printsShort {x : Binary64} (h : PrintsShort x) : reread x = x := by
  obtain ⟨n, hdenotes, hreread, hread⟩ := exists_reread?_eq x
  have halone := hread [] (by simp [EndsNumber])
  rw [List.append_nil] at halone
  have hshort : n.IsShort := h _ halone
  have hfound := reread?_scaled? x
  rw [hreread, hshort.scaled?_eq_nearest?, hdenotes.nearest] at hfound
  exact (Option.some.inj hfound).symm

end PageHarvest.Json
