import PageHarvest.Proofs.Settings.Active

/-!
The text of a value in effect. A value counts as entered only if it is neither
null nor a blank string, and the printed form of any other value has a character
that is no white space; so a setting that has a value has a text that is not
blank.
-/

namespace PageHarvest

namespace Text

theorem all_isBlankChar_of_mem {cs : List Char} {c : Char} (hmem : c ∈ cs)
    (hc : isBlankChar c = false) : cs.all isBlankChar = false :=
  List.all_eq_false.mpr ⟨c, hmem, by simp [hc]⟩

end Text

namespace Json

open Text

/-- A floating-point number has a point or an exponent. -/
theorem mem_decimalText (layout : RealLayout) (significand : Nat) (exponent : Int) :
    '.' ∈ decimalText layout significand exponent ∨
      'e' ∈ decimalText layout significand exponent := by
  unfold decimalText
  dsimp only
  split
  · left
    split
    · simp
    · split <;> simp
  · right
    simp

theorem mem_realText (x : Binary64) : '.' ∈ realText x ∨ 'e' ∈ realText x := by
  have hmagnitude := mem_decimalText realLayout x.shortest.1 x.shortest.2
  unfold realText
  cases x.negative <;> by_cases hzero : x.significand = 0 <;> simp [hzero, hmagnitude]

theorem Number.render_not_blank (n : Number) : n.render.all isBlankChar = false := by
  cases n with
  | int n =>
      obtain ⟨digit, hdigit⟩ := List.exists_mem_of_ne_nil (digits n.natAbs) Nat.toDigits_ne_nil
      have hplain : isBlankChar digit = false :=
        isBlankChar_of_isDigit (Nat.isDigit_of_mem_toDigits (by decide) (by decide) hdigit)
      apply all_isBlankChar_of_mem _ hplain
      change digit ∈ intText n
      unfold intText
      split
      · exact List.mem_cons_of_mem _ hdigit
      · exact hdigit
  | real x =>
      rcases mem_realText x with hpoint | hexponent
      · exact all_isBlankChar_of_mem hpoint (by decide)
      · exact all_isBlankChar_of_mem hexponent (by decide)

/-- What is printed of a value is not blank. -/
theorem isBlank_compact (v : Json) : isBlank v.compact = false := by
  unfold isBlank compact
  rw [String.toList_ofList]
  cases v with
  | null => decide
  | bool value => cases value <;> decide
  | number n => exact n.render_not_blank
  | string s => exact all_isBlankChar_of_mem List.mem_cons_self (by decide)
  | array items => exact all_isBlankChar_of_mem List.mem_cons_self (by decide)
  | object members => exact all_isBlankChar_of_mem List.mem_cons_self (by decide)

end Json

namespace Settings

theorem present?_eq_some {v value : Json} (h : present? v = some value) :
    value = v ∧ Text.isBlank (valueText v) = false := by
  cases v with
  | null => cases h
  | string s =>
      cases hblank : Text.isBlank s with
      | true => simp [present?, hblank] at h
      | false =>
          have hvalue : Json.string s = value := by simpa [present?, hblank] using h
          exact ⟨hvalue.symm, (Text.isBlank_trim s).trans hblank⟩
  | _ =>
      cases h
      exact ⟨rfl, Json.isBlank_compact _⟩

theorem isBlank_of_effective? {d : Descriptor} {value : Json} (h : d.effective? = some value) :
    Text.isBlank (valueText value) = false := by
  unfold Descriptor.effective? at h
  rcases Option.or_eq_some_iff.mp h with hentered | ⟨-, hdefault⟩
  · obtain ⟨v, -, hv⟩ := Option.bind_eq_some_iff.mp hentered
    obtain ⟨rfl, hblank⟩ := present?_eq_some hv
    exact hblank
  · obtain ⟨v, -, hv⟩ := Option.bind_eq_some_iff.mp hdefault
    obtain ⟨rfl, hblank⟩ := present?_eq_some hv
    exact hblank

/-- No default of the schema is blank. -/
theorem isBlank_default : ∀ row ∈ rows, ∀ value, row.default = some value →
    Text.isBlank (valueText value) = false := by
  simp only [rows, List.forall_mem_cons, reduceCtorEq, IsEmpty.forall_iff, implies_true,
    Option.some.injEq, forall_eq', List.not_mem_nil, and_true, true_and]
  decide

theorem Configuration.isBlank_textInEffect? (c : Configuration) {name text : String}
    (h : c.textInEffect? name = some text) : Text.isBlank text = false := by
  obtain ⟨value, hvalue, rfl⟩ := Option.map_eq_some_iff.mp h
  rcases Option.or_eq_some_iff.mp hvalue with hentered | ⟨-, hdefault⟩
  · obtain ⟨d, -, hd⟩ := Option.bind_eq_some_iff.mp hentered
    exact isBlank_of_effective? hd
  · obtain ⟨row, hrow, hvalue⟩ := Option.bind_eq_some_iff.mp hdefault
    exact isBlank_default row (mem_of_row? hrow).1 value hvalue

end Settings

end PageHarvest
