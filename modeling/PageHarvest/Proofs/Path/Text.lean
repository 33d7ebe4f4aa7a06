import Mathlib.Tactic.Common
import PageHarvest.Path

/-!
The text of a path. Its segments have no white space at their ends, so the text has
none either; and a text is no path exactly if one of the pieces between its dots is
blank.
-/

namespace PageHarvest

namespace Text

variable {cs : List Char}

theorem trimStart_append (hne : cs ≠ []) (h : trimStart cs = cs) (ds : List Char) :
    trimStart (cs ++ ds) = cs ++ ds := by
  cases cs with
  | nil => exact absurd rfl hne
  | cons c rest => exact trimStart_of_head (rest ++ ds) (trimStart_head h)

theorem trimEnd_append_of_trimmed (hne : cs ≠ []) (h : trimEnd cs = cs) (ds : List Char) :
    trimEnd (ds ++ cs) = ds ++ cs := by
  have hreversed : trimStart cs.reverse = cs.reverse := by
    simpa [trimEnd, trimStart] using congrArg List.reverse h
  have happend := trimStart_append (by simpa using hne) hreversed ds.reverse
  simpa [trimEnd, trimStart] using congrArg List.reverse happend

theorem join_cons (sep : Char) (part : List Char) (parts : List (List Char)) :
    ∃ rest, join sep (part :: parts) = part ++ rest := by
  cases parts with
  | nil => exact ⟨[], (List.append_nil part).symm⟩
  | cons next more => exact ⟨_, rfl⟩

theorem trimEnd_join (sep : Char) {parts : List (List Char)}
    (h : ∀ part ∈ parts, part ≠ [] ∧ trimEnd part = part) :
    trimEnd (join sep parts) = join sep parts := by
  induction parts with
  | nil => rfl
  | cons part rest ih =>
      cases rest with
      | nil => exact (h part (by simp)).2
      | cons next more =>
          have htail := ih fun p hp => h p (by simp [hp])
          obtain ⟨rest, hrest⟩ := join_cons sep next more
          have hne : join sep (next :: more) ≠ [] := by
            rw [hrest]
            exact List.append_ne_nil_of_left_ne_nil (h next (by simp)).1 rest
          have hjoin : join sep (part :: next :: more) =
              (part ++ [sep]) ++ join sep (next :: more) := by
            simp [join]
          rw [hjoin]
          exact trimEnd_append_of_trimmed hne htail _

/-- Parts without white space at their ends are joined to a text without it. -/
theorem trimChars_join (sep : Char) {parts : List (List Char)}
    (h : ∀ part ∈ parts, part ≠ [] ∧ trimChars part = part) :
    trimChars (join sep parts) = join sep parts := by
  have hstart : ∀ part ∈ parts, trimStart part = part := by
    intro part hpart
    rw [← (h part hpart).2, trimStart_trimChars]
  have hend : ∀ part ∈ parts, part ≠ [] ∧ trimEnd part = part := by
    intro part hpart
    have htrimmed := (h part hpart).2
    rw [trimChars, hstart part hpart] at htrimmed
    exact ⟨(h part hpart).1, htrimmed⟩
  have hfirst : trimStart (join sep parts) = join sep parts := by
    cases parts with
    | nil => rfl
    | cons part more =>
        obtain ⟨rest, hrest⟩ := join_cons sep part more
        rw [hrest]
        exact trimStart_append (h part (by simp)).1 (hstart part (by simp)) rest
  rw [trimChars, hfirst, trimEnd_join sep hend]

end Text

namespace DottedPath

theorem parse?_eq_none_iff {raw : String} : parse? raw = none ↔ [] ∈ pieces raw := by
  unfold parse?
  split
  · rename_i hfull
    simp only [reduceCtorEq, false_iff]
    exact fun hblank => hfull [] hblank rfl
  · rename_i hblank
    simpa using hblank

/-- Texts that have the same pieces are written for the same path. -/
theorem parse?_congr {raw other : String} (h : pieces raw = pieces other) :
    parse? raw = parse? other := by
  ext p
  rw [parse?_eq_some_iff, parse?_eq_some_iff, h]

theorem parse?_eq_some_iff_pieces {raw other : String} {p : DottedPath}
    (h : parse? raw = some p) : parse? other = some p ↔ pieces raw = pieces other := by
  rw [parse?_eq_some_iff, ← parse?_eq_some_iff.mp h, eq_comm]

/-- The text of a path has no white space at its ends, and it is not empty. -/
theorem trim_text (p : DottedPath) : Text.trim p.text = p.text ∧ Text.isBlank p.text = false := by
  have hparts : ∀ part ∈ p.segments.map String.toList, part ≠ [] ∧ Text.trimChars part = part := by
    intro part hpart
    obtain ⟨s, hs, rfl⟩ := List.mem_map.mp hpart
    exact ⟨(p.isSegment s hs).1, (p.isSegment s hs).2.2⟩
  have htrim : Text.trimChars p.text.toList = p.text.toList := by
    rw [text, String.toList_ofList]
    exact Text.trimChars_join '.' hparts
  refine ⟨by rw [Text.trim, htrim, String.ofList_toList], ?_⟩
  rw [← Bool.not_eq_true, Text.isBlank, ← Text.trimChars_eq_nil_iff, htrim]
  intro hempty
  have hsplit := p.split_text
  rw [hempty] at hsplit
  exact (hparts [] (hsplit ▸ List.mem_singleton_self [])).1 rfl

end DottedPath

end PageHarvest
