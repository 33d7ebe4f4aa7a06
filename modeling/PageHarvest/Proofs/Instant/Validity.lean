import PageHarvest.Proofs.Calendar
import PageHarvest.Proofs.Instant

/-!
Points in time that exist. The clock gives such points, and so does every text that
is read: an offset is a number of whole minutes, so that a leap second stays at the
end of its minute, and it moves the date by one day at most.
-/

namespace PageHarvest.Instant

open Text (digitsValue)

/-- The points in time of the clock exist, until the years end. -/
theorem isValid_ofUnix {seconds nanos : Nat} (hnanos : nanos < 1000000000)
    (hyear : (ofUnix seconds nanos).date.year ≤ 262142) :
    (ofUnix seconds nanos).isValid = true := by
  have hdate : (ofUnix seconds nanos).date.isValid = true := Date.isValid_ofDayNumber hyear
  have hsecond : seconds % 86400 < 86400 := Nat.mod_lt _ (by decide)
  simp only [isValid, hdate, Bool.and_eq_true, Bool.or_eq_true, decide_eq_true_eq, true_and]
  exact ⟨⟨hsecond, Nat.lt_trans hnanos (by decide)⟩, .inl hnanos⟩

theorem nano_of_readFraction {s rest : List Char} {nano : Nat}
    (h : readFraction s = some (nano, rest)) : nano < 1000000000 := by
  unfold readFraction at h
  split at h
  · rename_i digits
    dsimp only at h
    generalize hkept : (digits.takeWhile Char.isDigit).take 9 = kept at h
    split at h
    · cases h
    · obtain ⟨rfl, -⟩ := Prod.mk.inj (Option.some.inj h)
      have hdigits : ∀ c ∈ kept, c.isDigit = true := by
        subst hkept
        exact fun c hc => List.all_eq_true.mp List.all_takeWhile c (List.mem_of_mem_take hc)
      have hlength : kept.length ≤ 9 := hkept ▸ List.length_take_le ..
      calc digitsValue kept * 10 ^ (9 - kept.length)
          < 10 ^ kept.length * 10 ^ (9 - kept.length) :=
            Nat.mul_lt_mul_of_pos_right (Text.digitsValue_lt hdigits) (Nat.pow_pos (by decide))
        _ = 10 ^ 9 := by rw [← Nat.pow_add, Nat.add_sub_cancel' hlength]
  · cases h
    decide

/-- An offset from UTC: whole minutes, and less than a day. -/
structure IsOffset (offset : Int) : Prop where
  minutes : 60 ∣ offset
  above : -86400 < offset
  below : offset < 86400

theorem isOffset_of_readOffsetSize {s rest : List Char} {offset : Int}
    (h : readOffsetSize s = some (offset, rest)) : IsOffset offset := by
  obtain ⟨⟨hours, s⟩, -, h⟩ := Option.bind_eq_some_iff.mp h
  obtain ⟨⟨minutes, s⟩, -, h⟩ := Option.bind_eq_some_iff.mp h
  dsimp only at h
  split at h
  · cases h
    exact ⟨by omega, by omega, by omega⟩
  · cases h

theorem IsOffset.neg {offset : Int} (h : IsOffset offset) : IsOffset (-offset) := by
  obtain ⟨hminutes, habove, hbelow⟩ := h
  exact ⟨by omega, by omega, by omega⟩

theorem isOffset_of_readOffset {s rest : List Char} {offset : Int}
    (h : readOffset s = some (offset, rest)) : IsOffset offset := by
  have hnone : IsOffset 0 := ⟨by decide, by decide, by decide⟩
  unfold readOffset at h
  split at h
  · cases h
    exact hnone
  · split at h
    · cases h
      exact hnone
    · cases h
      exact hnone
    · exact isOffset_of_readOffsetSize h
    · obtain ⟨⟨size, after⟩, hsize, heq⟩ := Option.map_eq_some_iff.mp h
      cases heq
      exact (isOffset_of_readOffsetSize hsize).neg
    · obtain ⟨⟨size, after⟩, hsize, heq⟩ := Option.map_eq_some_iff.mp h
      cases heq
      exact (isOffset_of_readOffsetSize hsize).neg
    · cases h

variable {second : Nat} {offset : Int}

/-- The second of a point at an offset is one of a day, and keeps its place in its
minute. -/
theorem second_atOffset (date : Date) (nano : Nat) (hsecond : second < 86400)
    (hoffset : IsOffset offset) :
    (atOffset date second nano offset).second < 86400 ∧
      (atOffset date second nano offset).second % 60 = second % 60 ∧
      (atOffset date second nano offset).nano = nano := by
  obtain ⟨hminutes, habove, hbelow⟩ := hoffset
  unfold atOffset
  dsimp only
  split_ifs <;> dsimp only <;> omega

/-- Every point in time that was read exists. -/
theorem isValid_of_parseChars? {s : List Char} {t : Instant} (h : parseChars? s = some t) :
    t.isValid = true := by
  obtain ⟨⟨year, s⟩, -, h⟩ := Option.bind_eq_some_iff.mp h
  obtain ⟨s, -, h⟩ := Option.bind_eq_some_iff.mp h
  obtain ⟨⟨month, s⟩, -, h⟩ := Option.bind_eq_some_iff.mp h
  obtain ⟨s, -, h⟩ := Option.bind_eq_some_iff.mp h
  obtain ⟨⟨day, s⟩, -, h⟩ := Option.bind_eq_some_iff.mp h
  obtain ⟨s, -, h⟩ := Option.bind_eq_some_iff.mp h
  obtain ⟨⟨hour, s⟩, -, h⟩ := Option.bind_eq_some_iff.mp h
  obtain ⟨s, -, h⟩ := Option.bind_eq_some_iff.mp h
  obtain ⟨⟨minute, s⟩, -, h⟩ := Option.bind_eq_some_iff.mp h
  obtain ⟨s, -, h⟩ := Option.bind_eq_some_iff.mp h
  obtain ⟨⟨second, s⟩, -, h⟩ := Option.bind_eq_some_iff.mp h
  obtain ⟨⟨nano, s⟩, hfraction, h⟩ := Option.bind_eq_some_iff.mp h
  obtain ⟨⟨offset, s⟩, hoffset, h⟩ := Option.bind_eq_some_iff.mp h
  have hnano := nano_of_readFraction hfraction
  have hwhole := isOffset_of_readOffset hoffset
  dsimp only at h
  generalize hleap : (if second = 60 then 1 else 0) = leap at h
  split at h
  · rename_i hclock
    simp only [Bool.and_eq_true, decide_eq_true_eq] at hclock
    obtain ⟨⟨⟨⟨-, hhour⟩, hminute⟩, hsixty⟩, -⟩ := hclock
    -- Second sixty counts as second fifty-nine, and the nanoseconds tell it.
    have hsecond : hour * 3600 + minute * 60 + (second - leap) < 86400 := by
      split_ifs at hleap <;> omega
    have hlast : nano + leap * 1000000000 < 1000000000 ∨
        (hour * 3600 + minute * 60 + (second - leap)) % 60 = 59 := by
      split_ifs at hleap <;> omega
    have hnanos : nano + leap * 1000000000 < 2000000000 := by
      split_ifs at hleap <;> omega
    obtain ⟨hday, hplace, hkept⟩ := second_atOffset ⟨year, month, day⟩
      (nano + leap * 1000000000) hsecond hwhole
    split at h
    · rename_i hdate
      cases h
      simp only [isValid, hdate, hkept, hplace, Bool.and_eq_true, Bool.or_eq_true,
        decide_eq_true_eq, beq_iff_eq, true_and]
      exact ⟨⟨hday, hnanos⟩, hlast⟩
    · cases h
  · cases h

end PageHarvest.Instant
