import PageHarvest.Proofs.Json.Numbers

/-!
The compact text of a value has no control characters. Whatever a string holds is
escaped below the first printable character, and nothing else that is printed lies
there; so such a text is a line of its own.
-/

namespace PageHarvest.Json

/-- A text without control characters, and so without line feeds. -/
def IsPlain (text : List Char) : Prop := ∀ c ∈ text, 0x20 ≤ c.toNat

@[simp] theorem isPlain_nil : IsPlain [] := List.forall_mem_nil _

@[simp] theorem isPlain_cons {c : Char} {text : List Char} :
    IsPlain (c :: text) ↔ 0x20 ≤ c.toNat ∧ IsPlain text :=
  List.forall_mem_cons

@[simp] theorem isPlain_append {text more : List Char} :
    IsPlain (text ++ more) ↔ IsPlain text ∧ IsPlain more :=
  List.forall_mem_append

theorem isPlain_of_isDigit {text : List Char} (h : ∀ c ∈ text, c.isDigit = true) :
    IsPlain text := by
  intro c hc
  have hrange := Text.isDigit_range (h c hc)
  omega

theorem isPlain_decimalText (layout : RealLayout) (significand : Nat) (exponent : Int) :
    IsPlain (decimalText layout significand exponent) := by
  have hdigits : ∀ n, IsPlain (digits n) :=
    fun n => isPlain_of_isDigit fun _ => isDigit_of_mem_digits
  have hzeros : ∀ n, IsPlain (zeros n) := fun n => isPlain_of_isDigit fun _ => isDigit_of_mem_zeros
  have htake : ∀ count, IsPlain ((digits significand).take count) :=
    fun count c hc => hdigits significand c (List.mem_of_mem_take hc)
  have hdrop : ∀ count, IsPlain ((digits significand).drop count) :=
    fun count c hc => hdigits significand c (List.mem_of_mem_drop hc)
  unfold decimalText
  dsimp only
  split_ifs <;> simp [hdigits, hzeros, htake, hdrop, -List.drop_one]

theorem isPlain_number (n : Number) : IsPlain n.render := by
  have hsign : ∀ negative, IsPlain (sign negative) := by
    intro negative
    cases negative <;> simp [sign]
  cases n with
  | int n =>
      have hdigits : IsPlain (digits n.natAbs) := isPlain_of_isDigit fun _ => isDigit_of_mem_digits
      rw [Number.render, intText_eq, isPlain_append]
      exact ⟨hsign _, hdigits⟩
  | real x =>
      rw [Number.render, realText_eq, isPlain_append]
      refine ⟨hsign _, ?_⟩
      split_ifs
      · simp
      · exact isPlain_decimalText realLayout x.shortest.1 x.shortest.2

/-- Strings escape every control character. -/
theorem isPlain_escapeChar (c : Char) : IsPlain (escapeChar c) := by
  have hcode : ∀ n < 0x20, 0x20 ≤ (hexDigit (n / 16)).toNat ∧ 0x20 ≤ (hexDigit (n % 16)).toNat := by
    decide
  unfold escapeChar
  split_ifs with hquote hslash hback htab hline hfeed hreturn hcontrol
  all_goals simp
  · exact hcode c.toNat hcontrol
  · omega

theorem isPlain_quoted (s : String) : IsPlain (quoted s) := by
  have hchars : IsPlain (s.toList.flatMap escapeChar) := by
    intro c hc
    obtain ⟨d, -, hd⟩ := List.mem_flatMap.mp hc
    exact isPlain_escapeChar d c hd
  simp [quoted, hchars]

mutual

/-- The compact text of a value has no control characters. -/
theorem isPlain_render : ∀ v : Json, IsPlain (render v)
  | .null | .bool true | .bool false => by simp [render]
  | .number n => isPlain_number n
  | .string s => isPlain_quoted s
  | .array items => by simp [render, isPlain_renderItems items]
  | .object members => by simp [render, isPlain_renderMembers members]

theorem isPlain_renderItems : ∀ items : List Json, IsPlain (renderItems items)
  | [] => by simp [renderItems]
  | v :: rest => by simp [renderItems, isPlain_render v, isPlain_renderMoreItems rest]

theorem isPlain_renderMoreItems : ∀ items : List Json, IsPlain (renderMoreItems items)
  | [] => by simp [renderMoreItems]
  | v :: rest => by simp [renderMoreItems, isPlain_render v, isPlain_renderMoreItems rest]

theorem isPlain_renderMembers : ∀ members : List (String × Json), IsPlain (renderMembers members)
  | [] => by simp [renderMembers]
  | (name, v) :: rest => by
      simp [renderMembers, isPlain_quoted name, isPlain_render v, isPlain_renderMoreMembers rest]

theorem isPlain_renderMoreMembers :
    ∀ members : List (String × Json), IsPlain (renderMoreMembers members)
  | [] => by simp [renderMoreMembers]
  | (name, v) :: rest => by
      simp [renderMoreMembers, isPlain_quoted name, isPlain_render v,
        isPlain_renderMoreMembers rest]

end

end PageHarvest.Json
