import PageHarvest.Text.WordTable

/-!
Words in a text. A word character is a letter, digit or underscore of any
script, and an occurrence of a word counts only if no word character stands
right before or right after it.
-/

namespace PageHarvest.Text

def isWordChar (c : Char) : Bool :=
  if c.toNat < 128 then c.isAlphanum || c == '_'
  else wordRanges.any fun r => r.1 ≤ c.toNat && c.toNat ≤ r.2

/-- True if a text starts with a word that ends there. -/
def startsWithWord (word cs : List Char) : Bool :=
  word.isPrefixOf cs &&
    match cs.drop word.length with
    | [] => true
    | next :: _ => !isWordChar next

/-- The first of the given words in a text, where `inWord` says whether a word
character stands before the text. -/
def findWord (words : List String) (inWord : Bool) : List Char → Option String
  | [] => none
  | c :: rest =>
      match if inWord then none else words.find? fun w => startsWithWord w.toList (c :: rest) with
      | some word => some word
      | none => findWord words (isWordChar c) rest

def hasWord (word : String) (cs : List Char) : Bool := (findWord [word] false cs).isSome

/-- The codes of ASCII letters and digits. -/
theorem isAlphanum_bounds {c : Char} (h : c.isAlphanum = true) :
    ((65 ≤ c.toNat ∧ c.toNat ≤ 90) ∨ (97 ≤ c.toNat ∧ c.toNat ≤ 122)) ∨
      (48 ≤ c.toNat ∧ c.toNat ≤ 57) := by
  delta Char.isAlphanum Char.isAlpha Char.isUpper Char.isLower Char.isDigit at h
  simp only [Bool.or_eq_true, Bool.and_eq_true, decide_eq_true_eq, ge_iff_le,
    UInt32.le_iff_toNat_le] at h
  exact h

end PageHarvest.Text
