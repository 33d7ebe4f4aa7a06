import PageHarvest.Text.Decimal

/-!
White space in the sense of the Unicode White_Space property, and trimming by
it. A text is blank when nothing is left of it after trimming. The lemmas say
that a trimmed text has no white space at either end and that trimming twice
changes nothing more.
-/

namespace PageHarvest.Text

/-- The Unicode White_Space property. It includes the no-break spaces and the
ideographic space, but neither U+200B nor U+FEFF. -/
def isBlankChar (c : Char) : Bool :=
  let n := c.toNat
  (9 ≤ n && n ≤ 13) || n == 0x20 || n == 0x85 || n == 0xA0 || n == 0x1680 ||
    (0x2000 ≤ n && n ≤ 0x200A) || n == 0x2028 || n == 0x2029 || n == 0x202F ||
    n == 0x205F || n == 0x3000

/-- The characters from the first that is no white space on. -/
def trimStart (cs : List Char) : List Char :=
  cs.dropWhile isBlankChar

def trimEnd (cs : List Char) : List Char :=
  (cs.reverse.dropWhile isBlankChar).reverse

def trimChars (cs : List Char) : List Char :=
  trimEnd (trimStart cs)

def trim (s : String) : String :=
  String.ofList (trimChars s.toList)

/-- True of a text that is empty or white space only. -/
def isBlank (s : String) : Bool :=
  s.toList.all isBlankChar

/-- A text that is not blank, unchanged. -/
def nonBlank? (s : String) : Option String :=
  if isBlank s then none else some s

theorem isBlankChar_of_isDigit {c : Char} (h : c.isDigit = true) : isBlankChar c = false := by
  have hrange := isDigit_range h
  simp only [isBlankChar, Bool.or_eq_false_iff, Bool.and_eq_false_iff, decide_eq_false_iff_not,
    beq_eq_false_iff_ne]
  omega

theorem trimEnd_concat_of_not_blank (cs : List Char) {c : Char} (h : isBlankChar c = false) :
    trimEnd (cs ++ [c]) = cs ++ [c] := by
  simp [trimEnd, h]

/-- The first character that survives trimming at the start is no white space. -/
theorem trimStart_head {cs rest : List Char} {c : Char} (h : trimStart cs = c :: rest) :
    isBlankChar c = false := by
  induction cs with
  | nil => simp [trimStart] at h
  | cons d ds ih =>
      by_cases hd : isBlankChar d = true
      · exact ih (by simpa [trimStart, hd] using h)
      · have hd' : isBlankChar d = false := by simpa using hd
        have : d = c := by
          have := h
          simp [trimStart, hd'] at this
          exact this.1
        exact this ▸ hd'

theorem trimStart_eq_nil_iff {cs : List Char} :
    trimStart cs = [] ↔ cs.all isBlankChar = true := by
  induction cs with
  | nil => simp [trimStart]
  | cons c cs ih =>
      have ih' : cs.dropWhile isBlankChar = [] ↔ cs.all isBlankChar = true := ih
      by_cases hc : isBlankChar c = true
      · simp only [trimStart, List.dropWhile_cons, hc, if_true, List.all_cons, Bool.true_and]
        exact ih'
      · simp [trimStart, hc]

/-- Trimming at the end takes away a run of white space. -/
theorem trimEnd_append (cs : List Char) :
    ∃ blanks, cs = trimEnd cs ++ blanks ∧ blanks.all isBlankChar = true := by
  refine ⟨(cs.reverse.takeWhile isBlankChar).reverse, ?_, ?_⟩
  · rw [trimEnd, ← List.reverse_append, List.takeWhile_append_dropWhile, List.reverse_reverse]
  · simp

theorem trimStart_of_head {c : Char} (rest : List Char) (h : isBlankChar c = false) :
    trimStart (c :: rest) = c :: rest := by
  simp [trimStart, h]

theorem trimEnd_trimEnd (cs : List Char) : trimEnd (trimEnd cs) = trimEnd cs := by
  have h : ∀ ds : List Char,
      (ds.dropWhile isBlankChar).dropWhile isBlankChar = ds.dropWhile isBlankChar := by
    intro ds
    induction ds with
    | nil => rfl
    | cons d ds ih =>
        by_cases hd : isBlankChar d = true
        · simpa [hd] using ih
        · simp [hd]
  simp [trimEnd, h]

theorem trimStart_trimChars (cs : List Char) : trimStart (trimChars cs) = trimChars cs := by
  obtain ⟨blanks, happend, _⟩ := trimEnd_append (trimStart cs)
  cases hs : trimChars cs with
  | nil => rfl
  | cons c rest =>
      have hhead : trimStart cs = c :: (rest ++ blanks) := by
        rw [happend]
        change trimChars cs ++ blanks = _
        rw [hs]
        rfl
      exact trimStart_of_head rest (trimStart_head hhead)

theorem trimChars_trimChars (cs : List Char) : trimChars (trimChars cs) = trimChars cs := by
  rw [trimChars, trimStart_trimChars]
  exact trimEnd_trimEnd (trimStart cs)

/-- What trimming leaves stands in one run in the text. -/
theorem mem_of_mem_trimChars {cs : List Char} {c : Char} (h : c ∈ trimChars cs) : c ∈ cs := by
  obtain ⟨blanks, happend, _⟩ := trimEnd_append (trimStart cs)
  have : c ∈ trimStart cs := by
    rw [happend]
    exact List.mem_append_left _ h
  exact (List.dropWhile_sublist isBlankChar).subset this

theorem trim_trim (s : String) : trim (trim s) = trim s := by
  simp [trim, trimChars_trimChars]

theorem trimChars_eq_nil_iff {cs : List Char} :
    trimChars cs = [] ↔ cs.all isBlankChar = true := by
  rw [← trimStart_eq_nil_iff]
  constructor
  · intro hnil
    obtain ⟨blanks, happend, hblanks⟩ := trimEnd_append (trimStart cs)
    have hall : (trimStart cs).all isBlankChar = true := by
      rw [happend]
      change (trimChars cs ++ blanks).all isBlankChar = true
      rw [hnil, List.nil_append]
      exact hblanks
    cases hstart : trimStart cs with
    | nil => rfl
    | cons c rest =>
        rw [hstart, List.all_cons, trimStart_head hstart, Bool.false_and] at hall
        cases hall
  · intro hnil
    rw [trimChars, hnil]
    rfl

/-- Trimming leaves something of a text that is not blank. -/
theorem isBlank_trim (s : String) : isBlank (trim s) = isBlank s := by
  apply Bool.eq_iff_iff.mpr
  unfold isBlank trim
  rw [String.toList_ofList, ← trimChars_eq_nil_iff, ← trimChars_eq_nil_iff, trimChars_trimChars]

end PageHarvest.Text
