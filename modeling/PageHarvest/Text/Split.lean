/-!
Cutting a text at a separator and joining the parts again. The two are inverse
to each other: joining the parts gives the text back, and cutting what was
joined from parts without separator gives the parts.
-/

namespace PageHarvest.Text

variable {α : Type} [DecidableEq α]

/-- The parts between the separators, one more than there are separators. -/
def split (sep : α) : List α → List (List α)
  | [] => [[]]
  | c :: rest =>
      if c = sep then [] :: split sep rest
      else
        match split sep rest with
        | [] => [[c]]
        | part :: parts => (c :: part) :: parts

def join (sep : α) : List (List α) → List α
  | [] => []
  | [part] => part
  | part :: parts => part ++ sep :: join sep parts

theorem join_eq_intercalate {β : Type} (sep : β) (parts : List (List β)) :
    join sep parts = [sep].intercalate parts := by
  induction parts with
  | nil => rfl
  | cons part rest ih =>
      cases rest with
      | nil => simp [join]
      | cons next more => simp [join, ih]

theorem split_ne_nil (sep : α) (cs : List α) : split sep cs ≠ [] := by
  cases cs with
  | nil => simp [split]
  | cons c rest =>
      rw [split]
      split
      · simp
      · split <;> simp

theorem split_cons_of_ne (sep : α) {c : α} (h : c ≠ sep) (rest : List α) :
    ∃ part parts, split sep rest = part :: parts ∧ split sep (c :: rest) = (c :: part) :: parts := by
  cases hs : split sep rest with
  | nil => exact absurd hs (split_ne_nil sep rest)
  | cons part parts => exact ⟨part, parts, rfl, by simp [split, h, hs]⟩

theorem join_split (sep : α) (cs : List α) : join sep (split sep cs) = cs := by
  induction cs with
  | nil => rfl
  | cons c rest ih =>
      by_cases h : c = sep
      · subst h
        cases hs : split c rest with
        | nil => exact absurd hs (split_ne_nil c rest)
        | cons part parts =>
            rw [split, if_pos rfl, hs, join, List.nil_append, ← hs, ih]
            simp
      · obtain ⟨part, parts, hs, hc⟩ := split_cons_of_ne sep h rest
        rw [hc]
        rw [hs] at ih
        cases parts with
        | nil => simpa [join] using ih
        | cons => simpa [join] using ih

theorem sep_not_mem_split (sep : α) (cs : List α) : ∀ part ∈ split sep cs, sep ∉ part := by
  induction cs with
  | nil => simp [split]
  | cons c rest ih =>
      by_cases h : c = sep
      · simpa [split, h] using ih
      · obtain ⟨part, parts, hs, hc⟩ := split_cons_of_ne sep h rest
        rw [hs] at ih
        rw [hc]
        intro p hp
        rcases List.mem_cons.mp hp with rfl | hp
        · have := ih part (by simp)
          simp only [List.mem_cons, not_or]
          exact ⟨fun he => h he.symm, this⟩
        · exact ih p (by simp [hp])

theorem split_append (sep : α) (cs rest : List α) :
    split sep (cs ++ sep :: rest) = split sep cs ++ split sep rest := by
  induction cs with
  | nil => simp [split]
  | cons c cs ih =>
      by_cases h : c = sep
      · simp [split, h, ih]
      · obtain ⟨part, parts, hs, hc⟩ := split_cons_of_ne sep h cs
        rw [List.cons_append, split, if_neg h, ih, hs, hc]
        rfl

theorem split_of_not_mem (sep : α) (part : List α) (h : sep ∉ part) : split sep part = [part] := by
  induction part with
  | nil => rfl
  | cons c cs ih =>
      simp only [List.mem_cons, not_or] at h
      have hc : ¬ c = sep := fun he => h.1 he.symm
      simp [split, hc, ih h.2]

theorem split_append_sep (sep : α) (part rest : List α) (h : sep ∉ part) :
    split sep (part ++ sep :: rest) = part :: split sep rest := by
  rw [split_append, split_of_not_mem sep part h]
  rfl

theorem split_join (sep : α) (parts : List (List α)) (hne : parts ≠ [])
    (h : ∀ part ∈ parts, sep ∉ part) : split sep (join sep parts) = parts := by
  induction parts with
  | nil => exact absurd rfl hne
  | cons part rest ih =>
      cases rest with
      | nil => exact split_of_not_mem sep part (h part (by simp))
      | cons next more =>
          rw [join, split_append_sep sep _ _ (h part (by simp)),
            ih (by simp) fun p hp => h p (by simp [hp])]
          simp

end PageHarvest.Text
