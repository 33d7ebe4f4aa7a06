import Mathlib.Data.Nat.Digits.Defs
import Mathlib.Tactic.SplitIfs
import PageHarvest.Instant

/-!
The written form of a point in time is read back to that point. Every number is
written with as many digits as its reader takes, apart from a year with a sign,
which ends at the hyphen, and a fraction, which ends at the letter Z. A leap
second is written as second sixty and is told by it.
-/

namespace PageHarvest.Instant

open Text (digitsValue trimStart isBlankChar)

section Padded

variable {width n : Nat}

theorem isDigit_of_mem_padded {c : Char} (h : c ∈ padded width n) : c.isDigit = true := by
  rcases List.mem_append.mp h with hzero | hdigit
  · rw [List.eq_of_mem_replicate hzero]
    decide
  · exact Nat.isDigit_of_mem_toDigits (by decide) (by decide) hdigit

theorem digitsValue_padded (width n : Nat) : digitsValue (padded width n) = n := by
  rw [padded, Text.digitsValue_append, Text.digitsValue_replicate_zero, Nat.mul_zero,
    Nat.zero_add, Text.digitsValue_toDigits]

theorem length_padded (hwidth : 0 < width) (h : n < Nat.pow 10 width) :
    (padded width n).length = width := by
  have hlength : (Nat.toDigits 10 n).length ≤ width :=
    (Nat.length_toDigits_le_iff (by decide) hwidth).mpr h
  rw [padded, List.length_append, List.length_replicate]
  omega

theorem padded_ne_nil (width n : Nat) : padded width n ≠ [] := by
  simp [padded, Nat.toDigits_ne_nil]

theorem takeWhile_padded {c : Char} (hc : c.isDigit = false) (rest : List Char) :
    (padded width n ++ c :: rest).takeWhile Char.isDigit = padded width n := by
  rw [List.takeWhile_append_of_pos fun _ => isDigit_of_mem_padded, List.takeWhile_cons_of_neg
    (by simp [hc]), List.append_nil]

theorem dropWhile_padded {c : Char} (hc : c.isDigit = false) (rest : List Char) :
    (padded width n ++ c :: rest).dropWhile Char.isDigit = c :: rest := by
  rw [List.dropWhile_append_of_pos fun _ => isDigit_of_mem_padded, List.dropWhile_cons_of_neg
    (by simp [hc])]

/-- No white space is lost before a number. -/
theorem trimStart_padded (rest : List Char) :
    trimStart (padded width n ++ rest) = padded width n ++ rest := by
  obtain ⟨c, cs, hcs⟩ := List.exists_cons_of_ne_nil (padded_ne_nil width n)
  have hmem : c ∈ padded width n := by simp [hcs]
  have hdigit : c.isDigit = true := isDigit_of_mem_padded hmem
  have hblank : isBlankChar c = false := Text.isBlankChar_of_isDigit hdigit
  rw [hcs, List.cons_append, Text.trimStart_of_head _ hblank]

/-- A number of as many digits as are read ends where it was written to end. -/
theorem readNumber_padded (hwidth : 0 < width) (h : n < Nat.pow 10 width) (rest : List Char) :
    readNumber width (padded width n ++ rest) = some (n, rest) := by
  have hlength := length_padded hwidth h
  have htake : (padded width n ++ rest).take width = padded width n := List.take_left' hlength
  have hdigits : (padded width n).takeWhile Char.isDigit = padded width n := by
    rw [← List.append_nil (padded width n), List.takeWhile_append_of_pos fun _ =>
      isDigit_of_mem_padded, List.takeWhile_nil]
  have hne := padded_ne_nil width n
  simp [readNumber, htake, hdigits, hne, digitsValue_padded]

theorem readField_padded (hwidth : 0 < width) (h : n < Nat.pow 10 width) (rest : List Char) :
    readField width (padded width n ++ rest) = some (n, rest) := by
  rw [readField, trimStart_padded, readNumber_padded hwidth h]

/-- A number that may take the whole text ends at the first character that is
no digit. -/
theorem readNumber_all {c : Char} (hc : c.isDigit = false) (rest : List Char) :
    readNumber (padded width n ++ c :: rest).length (padded width n ++ c :: rest) =
      some (n, c :: rest) := by
  have hne := padded_ne_nil width n
  rw [readNumber, List.take_length, takeWhile_padded hc]
  simp [hne, digitsValue_padded]

end Padded

theorem expect_cons {c : Char} (hc : isBlankChar c = false) (rest : List Char) :
    expect c (c :: rest) = some rest := by
  simp [expect, Text.trimStart_of_head _ hc]

/-- A year without a sign is one of four digits. -/
theorem readYear_padded {year : Nat} (h : year < 10000) (rest : List Char) :
    readYear (padded 4 year ++ rest) = some ((year : Int), rest) := by
  have hread := readNumber_padded (by decide : 0 < 4) (n := year) h rest
  have hsign : ∀ c cs, padded 4 year ++ rest = c :: cs → c.isDigit = true := by
    intro c cs heq
    obtain ⟨d, ds, hds⟩ := List.exists_cons_of_ne_nil (padded_ne_nil 4 year)
    have hmem : d ∈ padded 4 year := by simp [hds]
    rw [hds, List.cons_append, List.cons.injEq] at heq
    exact heq.1 ▸ isDigit_of_mem_padded hmem
  rw [readYear, trimStart_padded]
  split
  · next cs heq => exact absurd (hsign _ cs heq) (by decide)
  · next cs heq => exact absurd (hsign _ cs heq) (by decide)
  · rw [hread]
    rfl

/-- A year is read back, with or without a sign. -/
theorem readYear_yearText (year : Int) (rest : List Char) :
    readYear (yearText year ++ '-' :: rest) = some (year, '-' :: rest) := by
  have hsigned : readNumber (padded 4 year.natAbs ++ '-' :: rest).length
      (padded 4 year.natAbs ++ '-' :: rest) = some (year.natAbs, '-' :: rest) :=
    readNumber_all (by decide) rest
  unfold yearText
  split_ifs with hplain hnegative
  · rw [readYear_padded (by omega), Int.toNat_of_nonneg hplain.1]
  · have habs : -(year.natAbs : Int) = year := by omega
    rw [List.cons_append, readYear, Text.trimStart_of_head _ (by decide)]
    simp only [hsigned, Option.map_some, habs]
  · have habs : (year.natAbs : Int) = year := by omega
    rw [List.cons_append, readYear, Text.trimStart_of_head _ (by decide)]
    simp only [hsigned, Option.map_some, habs]

/-- A fraction is read back from the three, six or nine digits of it, or from
nothing. -/
theorem readFraction_fractionText {nano : Nat} (h : nano < 1000000000) (rest : List Char) :
    readFraction (fractionText nano ++ 'Z' :: rest) = some (nano, 'Z' :: rest) := by
  have hread : ∀ width n, 0 < width → width ≤ 9 → n < Nat.pow 10 width →
      readFraction ('.' :: padded width n ++ 'Z' :: rest) =
        some (n * Nat.pow 10 (9 - width), 'Z' :: rest) := by
    intro width n hwidth hnine hn
    have hlength := length_padded hwidth hn
    have hkept : (padded width n).take 9 = padded width n :=
      List.take_of_length_le (by omega)
    have hne := padded_ne_nil width n
    have hz : 'Z'.isDigit = false := by decide
    simp [readFraction, takeWhile_padded hz, dropWhile_padded hz, hkept, hlength, hne,
      digitsValue_padded]
  unfold fractionText
  split_ifs with hnone hmilli hmicro
  · rw [hnone]
    rfl
  · rw [hread 3 _ (by decide) (by decide) (by simp; omega)]
    simp; omega
  · rw [hread 6 _ (by decide) (by decide) (by simp; omega)]
    simp; omega
  · rw [hread 9 _ (by decide) (by decide) (by simp; omega)]
    simp

theorem readField_two {n : Nat} (h : n < 100) (rest : List Char) :
    readField 2 (padded 2 n ++ rest) = some (n, rest) :=
  readField_padded (by decide) h rest

theorem atOffset_zero {date : Date} {second nano : Nat} (h : second < 86400) :
    atOffset date second nano 0 = ⟨date, second, nano⟩ := by
  have hlow : ¬ (second : Int) - 0 < 0 := by omega
  have hhigh : ¬ (86400 : Int) ≤ (second : Int) - 0 := by omega
  rw [atOffset, if_neg hlow, if_neg hhigh]
  simp

theorem month_day_lt {date : Date} (h : date.isValid = true) :
    date.month < 100 ∧ date.day < 100 := by
  have hlength : daysInMonth date.year date.month ≤ 31 := by
    unfold daysInMonth
    split_ifs <;> decide
  simp only [Date.isValid, Bool.and_eq_true, decide_eq_true_eq] at h
  omega

/-- A point in time that exists is read back from its written form. -/
theorem parseChars?_render {t : Instant} (h : t.isValid = true) :
    parseChars? (render t) = some t := by
  obtain ⟨date, second, nano⟩ := t
  simp only [isValid, Bool.and_eq_true, decide_eq_true_eq, Bool.or_eq_true, beq_iff_eq] at h
  obtain ⟨⟨⟨hdate, hsecond⟩, hnano⟩, hlast⟩ := h
  obtain ⟨hmonth, hday⟩ := month_day_lt hdate
  have hhour : second / 3600 < 24 := by omega
  have hminute : second / 60 % 60 < 60 := by omega
  have hsixty : second % 60 + nano / 1000000000 ≤ 60 := by omega
  have hfraction : nano % 1000000000 < 1000000000 := Nat.mod_lt _ (by decide)
  have hdash : ∀ rest, expect '-' ('-' :: rest) = some rest := expect_cons (by decide)
  have hcolon : ∀ rest, expect ':' (':' :: rest) = some rest := expect_cons (by decide)
  simp only [render, List.append_assoc, List.cons_append]
  -- Each reader takes what one writer wrote.
  refine Option.bind_eq_some_iff.mpr ⟨_, readYear_yearText _ _, ?_⟩
  refine Option.bind_eq_some_iff.mpr ⟨_, hdash _, ?_⟩
  refine Option.bind_eq_some_iff.mpr ⟨_, readField_two hmonth _, ?_⟩
  refine Option.bind_eq_some_iff.mpr ⟨_, hdash _, ?_⟩
  refine Option.bind_eq_some_iff.mpr ⟨_, readField_two hday _, ?_⟩
  refine Option.bind_eq_some_iff.mpr ⟨_, rfl, ?_⟩
  refine Option.bind_eq_some_iff.mpr ⟨_, readField_two (by omega) _, ?_⟩
  refine Option.bind_eq_some_iff.mpr ⟨_, hcolon _, ?_⟩
  refine Option.bind_eq_some_iff.mpr ⟨_, readField_two (by omega) _, ?_⟩
  refine Option.bind_eq_some_iff.mpr ⟨_, hcolon _, ?_⟩
  refine Option.bind_eq_some_iff.mpr ⟨_, readField_two (by omega) _, ?_⟩
  refine Option.bind_eq_some_iff.mpr ⟨_, readFraction_fractionText hfraction _, ?_⟩
  refine Option.bind_eq_some_iff.mpr ⟨(0, []), rfl, ?_⟩
  have hend : (trimStart []).isEmpty = true := rfl
  simp only [hdate, hhour, hminute, hsixty, hend, decide_true, Bool.and_self, if_true]
  -- The second is sixty if and only if the point lies in a leap second.
  have hleap : (if second % 60 + nano / 1000000000 = 60 then 1 else 0) = nano / 1000000000 := by
    split_ifs <;> omega
  have hclock : second / 3600 * 3600 + second / 60 % 60 * 60 +
      (second % 60 + nano / 1000000000 - nano / 1000000000) = second := by
    omega
  have hnanos : nano % 1000000000 + nano / 1000000000 * 1000000000 = nano := by omega
  rw [hleap, hclock, hnanos, atOffset_zero hsecond, if_pos hdate]

theorem parse?_text {t : Instant} (h : t.isValid = true) : parse? t.text = some t := by
  rw [parse?, text, String.toList_ofList, parseChars?_render h]

end PageHarvest.Instant
