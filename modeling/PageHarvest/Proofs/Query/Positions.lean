import PageHarvest.Proofs.Query.Tokens

/-!
Stripping by positions in a text. A scan that holds a position jumps over characters it
has not looked at: over three quotes, over what a backslash takes along, and over a
closing quote that may not be there. So it can come to stand past the end of the text.
It never reads there, it ends, and it leaves what stripping leaves.
-/

namespace PageHarvest.Query

/-- The error of reading where a text has no character. -/
structure OutOfRange where
  position : Nat

def charAt (text : List Char) (position : Nat) : Except OutOfRange Char :=
  match text[position]? with
  | some c => .ok c
  | none => .error ⟨position⟩

/-- The text from a position on. The position may be the end of the text. -/
def textFrom (text : List Char) (position : Nat) : Except OutOfRange (List Char) :=
  if position ≤ text.length then .ok (text.drop position) else .error ⟨position⟩

def threeQuotes : List Char := ['"', '"', '"']

/-- A scan at a position, in a region of the text, with what it has left so far. -/
structure Scan where
  region : Region
  position : Nat
  output : List Char

namespace Scan

inductive Next where
  | halt (output : List Char)
  | go (scan : Scan)

def start : Scan := ⟨.code, 0, []⟩

def advance (scan : Scan) (count : Nat) : Scan := { scan with position := scan.position + count }

def enter (scan : Scan) (region : Region) (count : Nat) : Scan :=
  ⟨region, scan.position + count, scan.output⟩

def leave (scan : Scan) (count : Nat) : Scan :=
  ⟨.code, scan.position + count, scan.output ++ [' ']⟩

def step (text : List Char) (scan : Scan) : Except OutOfRange Next :=
  match scan.region with
  | .code =>
      if scan.position < text.length then do
        let c ← charAt text scan.position
        if c = '#' then return .go (scan.enter .comment 1)
        else if c = '"' then
          if threeQuotes.isPrefixOf (← textFrom text scan.position) then
            return .go (scan.enter .block 3)
          else return .go (scan.enter .string 1)
        else return .go ⟨.code, scan.position + 1, scan.output ++ [c]⟩
      else return .halt scan.output
  | .comment =>
      if scan.position < text.length then do
        if (← charAt text scan.position) = '\n' then return .go (scan.enter .code 0)
        else return .go (scan.advance 1)
      else return .go (scan.enter .code 0)
  | .string =>
      if scan.position < text.length then do
        let c ← charAt text scan.position
        if c = '"' ∨ c = '\n' then return .go (scan.leave 1)
        else if c = '\\' then return .go (scan.advance 2)
        else return .go (scan.advance 1)
      else return .go (scan.leave 1)
  | .block =>
      if scan.position < text.length then do
        if threeQuotes.isPrefixOf (← textFrom text scan.position) then return .go (scan.leave 3)
        else return .go (scan.advance 1)
      else return .go (scan.leave 3)

def run (text : List Char) : Nat → Scan → Except OutOfRange (Option (List Char))
  | 0, _ => .ok none
  | steps + 1, scan => do
      match ← scan.step text with
      | .halt output => return some output
      | .go next => next.run text steps

def result (text : List Char) (scan : Scan) : List Char :=
  scan.output ++ strip scan.region (text.drop scan.position)

/-- A bound on the steps to come. Each character takes at most two, for the line feed
that ends a comment is read again after it. -/
def stepsLeft (text : List Char) (scan : Scan) : Nat :=
  2 * (text.length - scan.position) + if scan.region = .code then 0 else 1

/-- A step that has read in range, keeps the result and uses up a step. -/
def Advances (text : List Char) (scan : Scan) : Except OutOfRange Next → Prop
  | .ok (.halt output) => output = scan.result text
  | .ok (.go next) =>
      next.result text = scan.result text ∧ next.stepsLeft text < scan.stepsLeft text
  | .error _ => False

variable {text : List Char} {position : Nat} {output : List Char}

theorem charAt_eq (h : position < text.length) :
    ∃ c, charAt text position = .ok c ∧ text.drop position = c :: text.drop (position + 1) := by
  refine ⟨text[position], ?_, List.drop_eq_getElem_cons h⟩
  rw [charAt, List.getElem?_eq_getElem h]

theorem textFrom_eq (h : position < text.length) :
    textFrom text position = .ok (text.drop position) :=
  if_pos (Nat.le_of_lt h)

theorem drop_past (h : ¬ position < text.length) (count : Nat) :
    text.drop (position + count) = [] :=
  List.drop_eq_nil_of_le (by omega)

theorem isPrefixOf_threeQuotes_iff {cs : List Char} :
    threeQuotes.isPrefixOf cs = true ↔ ∃ rest, cs = '"' :: '"' :: '"' :: rest := by
  rw [List.isPrefixOf_iff_prefix]
  exact exists_congr fun rest => eq_comm

theorem stepsLeft_lt {scan next : Scan} (hwithin : scan.position < text.length)
    (hmoved : scan.position < next.position) : next.stepsLeft text < scan.stepsLeft text := by
  unfold stepsLeft
  split <;> split <;> omega

/-- A backslash takes the next character along, if there is one. -/
theorem strip_string_escape (rest : List Char) :
    strip .string ('\\' :: rest) = strip .string (rest.drop 1) := by
  cases rest <;> simp [strip]

/-- To leave a region is progress even where the position stays. -/
theorem stepsLeft_lt_of_code {scan next : Scan} (hregion : scan.region ≠ .code)
    (hcode : next.region = .code) (hmoved : scan.position ≤ next.position) :
    next.stepsLeft text < scan.stepsLeft text := by
  unfold stepsLeft
  rw [if_pos hcode, if_neg hregion]
  omega

theorem advances_code (text : List Char) (position : Nat) (output : List Char) :
    Advances text ⟨.code, position, output⟩ (step text ⟨.code, position, output⟩) := by
  by_cases h : position < text.length
  · obtain ⟨c, hchar, hdrop⟩ := charAt_eq h
    simp only [step, if_pos h, hchar, textFrom_eq h, bind, Except.bind]
    split_ifs with hhash hquote hthree
    · subst hhash
      refine ⟨?_, stepsLeft_lt h (Nat.lt_succ_self _)⟩
      simp [result, enter, hdrop, strip]
    · obtain ⟨rest, hrest⟩ := isPrefixOf_threeQuotes_iff.mp hthree
      refine ⟨?_, stepsLeft_lt h (Nat.lt_add_of_pos_right (by decide))⟩
      simp [result, enter, hrest, ← List.drop_drop, strip]
    · subst hquote
      refine ⟨?_, stepsLeft_lt h (Nat.lt_succ_self _)⟩
      have hstring : strip .code (text.drop position) =
          strip .string (text.drop (position + 1)) := by
        rw [hdrop, strip]
        intro rest hrest
        exact hthree (isPrefixOf_threeQuotes_iff.mpr ⟨rest, by rw [hdrop, hrest]⟩)
      simp [result, enter, hstring]
    · refine ⟨?_, stepsLeft_lt h (Nat.lt_succ_self _)⟩
      simp [result, hdrop, strip_code_cons hhash hquote]
  · have hend : text.drop position = [] := drop_past h 0
    simp only [step, if_neg h]
    change output = output ++ strip .code (text.drop position)
    simp [hend, strip]

theorem advances_comment (text : List Char) (position : Nat) (output : List Char) :
    Advances text ⟨.comment, position, output⟩ (step text ⟨.comment, position, output⟩) := by
  by_cases h : position < text.length
  · obtain ⟨c, hchar, hdrop⟩ := charAt_eq h
    simp only [step, if_pos h, hchar, bind, Except.bind]
    split_ifs with hline
    · subst hline
      refine ⟨?_, stepsLeft_lt_of_code nofun rfl (Nat.le_refl _)⟩
      simp [result, enter, hdrop, strip]
    · refine ⟨?_, stepsLeft_lt h (Nat.lt_succ_self _)⟩
      simp [result, advance, hdrop, strip]
  · have hend : text.drop position = [] := drop_past h 0
    simp only [step, if_neg h]
    refine ⟨?_, stepsLeft_lt_of_code nofun rfl (Nat.le_refl _)⟩
    simp [result, enter, hend, strip]

theorem advances_string (text : List Char) (position : Nat) (output : List Char) :
    Advances text ⟨.string, position, output⟩ (step text ⟨.string, position, output⟩) := by
  by_cases h : position < text.length
  · obtain ⟨c, hchar, hdrop⟩ := charAt_eq h
    simp only [step, if_pos h, hchar, bind, Except.bind]
    split_ifs with hends hescape
    · refine ⟨?_, stepsLeft_lt h (Nat.lt_succ_self _)⟩
      obtain rfl | rfl := hends <;> simp [result, leave, hdrop, strip]
    · subst hescape
      refine ⟨?_, stepsLeft_lt h (Nat.lt_add_of_pos_right (by decide))⟩
      simp [result, advance, hdrop, strip_string_escape]
    · refine ⟨?_, stepsLeft_lt h (Nat.lt_succ_self _)⟩
      obtain ⟨hquote, hline⟩ := not_or.mp hends
      have hstring : strip .string (text.drop position) =
          strip .string (text.drop (position + 1)) := by
        rw [hdrop, strip]
        · exact hquote
        · exact hline
        · exact fun _ _ hc _ => hescape hc
      simp [result, advance, hstring]
  · have hend : text.drop position = [] := drop_past h 0
    simp only [step, if_neg h]
    refine ⟨?_, stepsLeft_lt_of_code nofun rfl (Nat.le_succ _)⟩
    simp [result, leave, hend, drop_past h, strip]

theorem advances_block (text : List Char) (position : Nat) (output : List Char) :
    Advances text ⟨.block, position, output⟩ (step text ⟨.block, position, output⟩) := by
  by_cases h : position < text.length
  · obtain ⟨c, -, hdrop⟩ := charAt_eq h
    simp only [step, if_pos h, textFrom_eq h, bind, Except.bind]
    split_ifs with hthree
    · obtain ⟨rest, hrest⟩ := isPrefixOf_threeQuotes_iff.mp hthree
      refine ⟨?_, stepsLeft_lt h (Nat.lt_add_of_pos_right (by decide))⟩
      simp [result, leave, hrest, ← List.drop_drop, strip]
    · refine ⟨?_, stepsLeft_lt h (Nat.lt_succ_self _)⟩
      have hblock : strip .block (text.drop position) =
          strip .block (text.drop (position + 1)) := by
        rw [hdrop, strip]
        rintro rest rfl hrest
        exact hthree (isPrefixOf_threeQuotes_iff.mpr ⟨rest, by rw [hdrop, hrest]⟩)
      simp [result, advance, hblock]
  · have hend : text.drop position = [] := drop_past h 0
    simp only [step, if_neg h]
    refine ⟨?_, stepsLeft_lt_of_code nofun rfl (Nat.le_add_right _ _)⟩
    simp [result, leave, hend, drop_past h, strip]

/-- A step reads in range and keeps what the scan will leave. -/
theorem advances_step (text : List Char) (scan : Scan) :
    Advances text scan (scan.step text) := by
  obtain ⟨region, position, output⟩ := scan
  cases region with
  | code => exact advances_code text position output
  | comment => exact advances_comment text position output
  | string => exact advances_string text position output
  | block => exact advances_block text position output

theorem run_eq {steps : Nat} {scan : Scan} (h : scan.stepsLeft text < steps) :
    scan.run text steps = .ok (some (scan.result text)) := by
  induction steps generalizing scan with
  | zero => cases h
  | succ steps ih =>
      have hadvances := scan.advances_step text
      rw [run]
      cases hstep : scan.step text with
      | error out =>
          rw [hstep] at hadvances
          exact hadvances.elim
      | ok next =>
          rw [hstep] at hadvances
          cases next with
          | halt output =>
              obtain rfl : output = scan.result text := hadvances
              rfl
          | go next =>
              obtain ⟨hresult, hsteps⟩ := hadvances
              rw [← hresult]
              exact ih (by omega)

/-- The scan from the start of a text ends without having read out of range. -/
theorem run_start (text : List Char) :
    start.run text (2 * text.length + 1) = .ok (some (strip .code text)) :=
  run_eq (by simp [stepsLeft, start])

end Scan

end PageHarvest.Query
