import Mathlib.Order.Bounds.Defs
import PageHarvest.Text.Boundary

/-!
What a cut leaves of a text. Every beginning in whole characters ends at a boundary, and
the way back stops at the last one within the limit, so no longer beginning fits. A
character has at most four bytes, so at most three bytes of the limit are left unused.
-/

namespace PageHarvest.Text

variable {text cut other : String} {limit position : Nat}

/-- The longest beginning of a text in whole characters that takes at most `limit` bytes. -/
structure IsLongestWithin (limit : Nat) (text cut : String) : Prop where
  begins : cut.toList <+: text.toList
  size_le : cut.utf8ByteSize ≤ limit
  longest : ∀ other : String, other.toList <+: text.toList → other.utf8ByteSize ≤ limit →
    other.toList <+: cut.toList

namespace IsLongestWithin

theorem unique (h : IsLongestWithin limit text cut) (h' : IsLongestWithin limit text other) :
    cut = other := by
  have hthere := h'.longest cut h.begins h.size_le
  have hback := h.longest other h'.begins h'.size_le
  exact String.toList_injective (hthere.eq_of_length_le hback.length_le)

theorem of_fits (h : text.utf8ByteSize ≤ limit) : IsLongestWithin limit text text :=
  ⟨List.prefix_rfl, h, fun _ hbegins _ => hbegins⟩

/-- What is cut off begins with a character that does not fit any more. -/
theorem limit_lt (h : IsLongestWithin limit text cut) (hlong : limit < text.utf8ByteSize) :
    limit < cut.utf8ByteSize + 4 := by
  obtain ⟨rest, hrest⟩ := h.begins
  cases rest with
  | nil =>
      obtain rfl : cut = text := String.toList_injective (by simpa using hrest)
      have hsize := h.size_le
      omega
  | cons c rest =>
      have hnext : (cut.push c).toList <+: text.toList := ⟨rest, by simp [← hrest]⟩
      have hbehind : limit < (cut.push c).utf8ByteSize := by
        refine Nat.lt_of_not_le fun hfits => ?_
        have hlonger := (h.longest _ hnext hfits).length_le
        rw [String.toList_push, List.length_append, List.length_singleton] at hlonger
        omega
      rw [String.utf8ByteSize_push] at hbehind
      have hfour := c.utf8Size_le_four
      omega

end IsLongestWithin

theorem exists_append_of_begins (h : cut.toList <+: text.toList) :
    ∃ rest : String, text = cut ++ rest := by
  obtain ⟨rest, hrest⟩ := h
  refine ⟨String.ofList rest, ?_⟩
  rw [← String.toList_inj, String.toList_append, String.toList_ofList, hrest]

theorem isBoundary_of_begins (h : cut.toList <+: text.toList) :
    isBoundary text cut.utf8ByteSize = true := by
  obtain ⟨rest, hrest⟩ := exists_append_of_begins h
  rw [isBoundary_iff_isValid]
  exact String.Pos.Raw.isValid_iff_exists_append.mpr ⟨cut, rest, hrest, rfl⟩

/-- Of two beginnings of a text the one with fewer bytes is a beginning of the other. -/
theorem begins_of_size_le (hcut : cut.toList <+: text.toList)
    (hother : other.toList <+: text.toList) (hsize : other.utf8ByteSize ≤ cut.utf8ByteSize) :
    other.toList <+: cut.toList := by
  rcases List.prefix_or_prefix_of_prefix hother hcut with hbegins | hbegins
  · exact hbegins
  · obtain ⟨rest, rfl⟩ := exists_append_of_begins hbegins
    rw [String.utf8ByteSize_append] at hsize
    obtain rfl : rest = "" := String.utf8ByteSize_eq_zero_iff.mp (by omega)
    simp

/-- The way back from a position leads to the last boundary that is not behind it. -/
theorem lastBoundary?_isGreatest {found : text.Pos}
    (h : lastBoundary? text position = some found) :
    IsGreatest {p | isBoundary text p = true ∧ p ≤ position} found.offset.byteIdx := by
  fun_induction lastBoundary? text position with
  | case1 position hboundary =>
      cases h
      exact ⟨⟨hboundary, Nat.le_refl _⟩, fun p hp => hp.2⟩
  | case2 => cases h
  | case3 previous hinside ih =>
      obtain ⟨⟨hboundary, hle⟩, hlast⟩ := ih h
      refine ⟨⟨hboundary, Nat.le_succ_of_le hle⟩, ?_⟩
      rintro p ⟨hp, hple⟩
      have hne : p ≠ previous + 1 := by
        rintro rfl
        exact hinside hp
      exact hlast ⟨hp, by omega⟩

theorem exists_lastBoundary? (text : String) (position : Nat) :
    ∃ found, lastBoundary? text position = some found :=
  Option.isSome_iff_exists.mp (lastBoundary?_isSome text position)

theorem truncate_of_fits (h : text.utf8ByteSize ≤ limit) : truncate text limit = text := if_pos h

theorem truncate_of_long {found : text.Pos} (h : limit < text.utf8ByteSize)
    (hfound : lastBoundary? text limit = some found) :
    truncate text limit = (text.sliceTo found).copy := by
  simp [truncate, Nat.not_le.mpr h, hfound]

theorem isLongestWithin_truncate (text : String) (limit : Nat) :
    IsLongestWithin limit text (truncate text limit) := by
  by_cases hfits : text.utf8ByteSize ≤ limit
  · rw [truncate_of_fits hfits]
    exact .of_fits hfits
  obtain ⟨found, hfound⟩ := exists_lastBoundary? text limit
  obtain ⟨⟨-, hle⟩, hlast⟩ := lastBoundary?_isGreatest hfound
  rw [truncate_of_long (Nat.lt_of_not_le hfits) hfound]
  have hsplits := found.splits
  generalize (text.sliceTo found).copy = cut at hsplits ⊢
  have hsize : found.offset.byteIdx = cut.utf8ByteSize := by
    rw [hsplits.offset_eq_rawEndPos, String.byteIdx_rawEndPos]
  have hbegins : cut.toList <+: text.toList := by
    rw [hsplits.eq_append, String.toList_append]
    exact List.prefix_append _ _
  rw [hsize] at hle hlast
  refine ⟨hbegins, hle, fun other hother hwithin => ?_⟩
  exact begins_of_size_le hbegins hother (hlast ⟨isBoundary_of_begins hother, hwithin⟩)

example : truncate "aé" 2 = "a" := by decide

end PageHarvest.Text
