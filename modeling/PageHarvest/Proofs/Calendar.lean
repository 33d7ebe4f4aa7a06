import Mathlib.Tactic.Common
import Mathlib.Tactic.SplitIfs
import PageHarvest.Instant

/-!
The calendar behind a day number. Four hundred years are an era of 146097 days. The
days of an era fall into four centuries, a century into spans of four years, and such
a span into years that begin in March, so that a leap day is the last of its year.
-/

namespace PageHarvest.Date

/-- The place of a day in its era: the century, the span of four years, the year
from March on and the day in it. Only the last year of a span has a day 365, and not
at the end of a century that is not the fourth. -/
structure Place where
  century : Nat
  span : Nat
  year : Nat
  day : Nat
  century_lt : century < 4
  span_lt : span < 25
  year_lt : year < 4
  day_le : day ≤ 365
  leap : day = 365 → year = 3 ∧ (span = 24 → century = 3)

namespace Place

def number (p : Place) : Nat := 36524 * p.century + 1461 * p.span + 365 * p.year + p.day

def years (p : Place) : Nat := 100 * p.century + 4 * p.span + p.year

theorem exists_number {dayOfEra : Nat} (h : dayOfEra < 146097) :
    ∃ p : Place, p.number = dayOfEra := by
  obtain ⟨century, hcentury⟩ : ∃ century, century = min (dayOfEra / 36524) 3 := ⟨_, rfl⟩
  obtain ⟨rest, hrest⟩ : ∃ rest, rest = dayOfEra - 36524 * century := ⟨_, rfl⟩
  obtain ⟨year, hyear⟩ : ∃ year, year = min (rest % 1461 / 365) 3 := ⟨_, rfl⟩
  refine ⟨⟨century, rest / 1461, year, rest % 1461 - 365 * year, ?_, ?_, ?_, ?_, ?_⟩, ?_⟩
  · omega
  · omega
  · omega
  · omega
  · omega
  · simp only [number]
    omega

/-- The year is found by taking the leap days out before dividing. -/
theorem yearOfEra_eq (p : Place) :
    (p.number - p.number / 1460 + p.number / 36524 - p.number / 146096) / 365 = p.years := by
  obtain ⟨century, span, year, day, hcentury, hspan, hyear, hday, hleap⟩ := p
  simp only [number, years]
  generalize hnumber : 36524 * century + 1461 * span + 365 * year + day = number
  -- The last day of the era is counted twice, as a century and as an era.
  have hcenturies : number / 36524 = century + number / 146096 := by
    by_cases hlast : number = 146096
    · omega
    · have hera : number / 146096 = 0 := Nat.div_eq_of_lt (by omega)
      omega
  have hspans : number / 1460 = 25 * century + span +
      (24 * century + span + 365 * year + day) / 1460 := by omega
  omega

theorem dayOfYear_eq (p : Place) :
    p.number - (365 * p.years + p.years / 4 - p.years / 100) = p.day := by
  obtain ⟨century, span, year, day, hcentury, hspan, hyear, hday, hleap⟩ := p
  simp only [number, years]
  omega

end Place

/-- The day of a month from the day in a year that begins in March. A day 365 is the
29th of February. -/
theorem month_day : ∀ day ≤ 365,
    let monthFromMarch := (5 * day + 2) / 153
    let month := if monthFromMarch < 10 then monthFromMarch + 3 else monthFromMarch - 9
    let dayOfMonth := day - (153 * monthFromMarch + 2) / 5 + 1
    1 ≤ month ∧ month ≤ 12 ∧ (month ≠ 2 → dayOfMonth ≤ daysInMonth 1 month) ∧
      (month = 2 → dayOfMonth ≤ 28 + day / 365) := by
  decide +kernel

theorem daysInMonth_eq {month : Nat} (h : month ≠ 2) (year : Int) :
    daysInMonth year month = daysInMonth 1 month := by
  simp only [daysInMonth, if_neg h]

theorem isLeapYear_of_day (p : Place) (era : Nat) (h : p.day = 365) :
    isLeapYear ((p.years : Int) + era * 400 + 1) = true := by
  have hlast := p.leap h
  have hspan := p.span_lt
  simp only [isLeapYear, Place.years]
  simp
  omega

/-- Every day number is a day of the calendar, until the years end. -/
theorem isValid_ofDayNumber {n : Nat} (hyear : (ofDayNumber n).year ≤ 262142) :
    (ofDayNumber n).isValid = true := by
  obtain ⟨p, hp⟩ := Place.exists_number (Nat.mod_lt (n + 719468) (by decide : 0 < 146097))
  have hdate : ofDayNumber n =
      (let era := (n + 719468) / 146097
       let monthFromMarch := (5 * p.day + 2) / 153
       let month := if monthFromMarch < 10 then monthFromMarch + 3 else monthFromMarch - 9
       ⟨p.years + era * 400 + if month ≤ 2 then 1 else 0, month,
         p.day - (153 * monthFromMarch + 2) / 5 + 1⟩) := by
    simp only [ofDayNumber, ← hp, p.yearOfEra_eq, p.dayOfYear_eq]
  have hmonth := month_day p.day p.day_le
  rw [hdate] at hyear ⊢
  dsimp only at hmonth hyear ⊢
  generalize (5 * p.day + 2) / 153 = monthFromMarch at hmonth hyear ⊢
  generalize (if monthFromMarch < 10 then monthFromMarch + 3 else monthFromMarch - 9) = month
    at hmonth hyear ⊢
  obtain ⟨hfirst, hlast, hlong, hfebruary⟩ := hmonth
  simp only [isValid, Bool.and_eq_true, decide_eq_true_eq]
  refine ⟨⟨⟨⟨⟨by omega, hyear⟩, hfirst⟩, hlast⟩, by omega⟩, ?_⟩
  by_cases htwo : month = 2
  · subst htwo
    rw [daysInMonth, if_pos rfl, if_pos (Nat.le_refl 2)]
    by_cases hleapDay : p.day = 365
    · rw [isLeapYear_of_day p _ hleapDay, if_pos rfl]
      have hday := hfebruary rfl
      omega
    · have hday := hfebruary rfl
      have hle := p.day_le
      have hplain : p.day / 365 = 0 := Nat.div_eq_of_lt (by omega)
      split_ifs <;> omega
  · rw [daysInMonth_eq htwo]
    exact hlong htwo

end PageHarvest.Date
