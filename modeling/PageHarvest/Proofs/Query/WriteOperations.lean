import PageHarvest.Proofs.Query.Tokens
import PageHarvest.Query.Check

/-!
What the check of a query lets through. A name outside all brackets stands in the
text at the top level with no word character beside it, for a bracket that closes
leaves a blank and so does a literal. So no accepted document has a write operation,
as long as its tokens end where stripping ends them. The last result has documents
whose tokens do not, and which are accepted with a mutation.
-/

namespace PageHarvest.Query

/-- How many brackets of each kind are open. -/
structure Depth where
  braces : Nat
  parens : Nat
deriving DecidableEq

namespace Depth

def outside : Depth := ⟨0, 0⟩

def after (depth : Depth) (c : Char) : Depth :=
  if c = '{' then { depth with braces := depth.braces + 1 }
  else if c = '(' then { depth with parens := depth.parens + 1 }
  else if c = '}' then { depth with braces := depth.braces - 1 }
  else if c = ')' then { depth with parens := depth.parens - 1 }
  else depth

def kept (depth : Depth) (c : Char) : List Char :=
  if c = '}' ∨ c = ')' then [' ']
  else if c = '{' ∨ c = '(' ∨ depth ≠ outside then []
  else [c]

/-- A bracket that closes has one to close. -/
def HasPartner (depth : Depth) (c : Char) : Prop :=
  (c = '}' → depth.braces ≠ 0) ∧ (c = ')' → depth.parens ≠ 0)

instance (depth : Depth) (c : Char) : Decidable (depth.HasPartner c) :=
  inferInstanceAs (Decidable (_ ∧ _))

/-- A character that leaves nothing stands inside brackets or opens one. -/
theorem kept_cases (depth : Depth) (c : Char) :
    depth.kept c = [' '] ∨ depth.kept c = [] ∧ depth.after c ≠ outside ∨
      depth.kept c = [c] ∧ depth = outside := by
  unfold kept
  split_ifs with hcloses hopens
  · exact .inl rfl
  · refine .inr (.inl ⟨rfl, ?_⟩)
    obtain ⟨hbrace', hparen'⟩ := not_or.mp hcloses
    unfold after
    split_ifs with hbrace hparen
    · simp [outside]
    · simp [outside]
    · simpa [hbrace, hparen] using hopens
  · obtain ⟨-, hopens⟩ := not_or.mp hopens
    exact .inr (.inr ⟨rfl, not_not.mp (not_or.mp hopens).2⟩)

theorem kept_free {c : Char} (h : ∀ bracket ∈ ['{', '}', '(', ')'], c ≠ bracket)
    (depth : Depth) :
    depth.kept c = (if depth = outside then [c] else []) ∧ depth.after c = depth := by
  constructor
  · by_cases hout : depth = outside <;> simp [kept, hout, h]
  · simp [after, h]

end Depth

/-- The text outside all brackets, with a blank for each bracket that closes. -/
def outerText : Depth → List Char → List Char
  | _, [] => []
  | depth, c :: rest => depth.kept c ++ outerText (depth.after c) rest

def outerNames : Depth → List Token → List (List Char)
  | _, [] => []
  | depth, .mark c :: rest => outerNames (depth.after c) rest
  | depth, .name word :: rest =>
      if depth = .outside then word :: outerNames depth rest else outerNames depth rest
  | depth, _ :: rest => outerNames depth rest

theorem ok_of_map {α β : Type} {x : Except Problem α} {f : α → β} {b : β}
    (h : x.map f = .ok b) : ∃ a, x = .ok a ∧ f a = b := by
  cases x with
  | error problem => cases h
  | ok a =>
      cases h
      exact ⟨a, rfl, rfl⟩

/-- The scan for the top level either stops at a character or goes on after it, and adds
what is kept of it. -/
theorem topLevel_cons_eq (depth : Depth) (c : Char) (rest : List Char) :
    topLevel depth.braces depth.parens (c :: rest) =
      if depth.HasPartner c then
        (topLevel (depth.after c).braces (depth.after c).parens rest).map (depth.kept c ++ ·)
      else .error (.unbalanced c) := by
  have houtside : depth = .outside ↔ depth.braces = 0 ∧ depth.parens = 0 := by
    cases depth
    simp [Depth.outside]
  have hnothing (x : Except Problem (List Char)) : x.map ([] ++ ·) = x := by
    cases x <;> rfl
  rw [topLevel]
  split_ifs <;> simp_all [Depth.HasPartner, Depth.after, Depth.kept]

theorem topLevel_cons {depth : Depth} {c : Char} {rest top : List Char}
    (h : topLevel depth.braces depth.parens (c :: rest) = .ok top) :
    ∃ text, topLevel (depth.after c).braces (depth.after c).parens rest = .ok text ∧
      depth.kept c ++ text = top := by
  rw [topLevel_cons_eq] at h
  split at h
  · exact ok_of_map h
  · cases h

theorem topLevel_eq_outerText {depth : Depth} {cs top : List Char}
    (h : topLevel depth.braces depth.parens cs = .ok top) : outerText depth cs = top := by
  induction cs generalizing depth top with
  | nil =>
      rw [topLevel] at h
      split_ifs at h
      cases h
      rfl
  | cons c rest ih =>
      obtain ⟨text, htext, rfl⟩ := topLevel_cons h
      rw [outerText, ih htext]

/-- A text without brackets is left as it is or not at all. -/
theorem outerText_free {cs : List Char} (h : ∀ bracket ∈ ['{', '}', '(', ')'], bracket ∉ cs)
    (depth : Depth) (rest : List Char) :
    outerText depth (cs ++ rest) =
      (if depth = .outside then cs else []) ++ outerText depth rest := by
  induction cs with
  | nil => simp
  | cons c cs ih =>
      have hne : ∀ bracket ∈ ['{', '}', '(', ')'], c ≠ bracket := fun bracket hbracket hc =>
        h bracket hbracket (List.mem_cons.mpr (.inl hc.symm))
      have hfree : ∀ bracket ∈ ['{', '}', '(', ')'], bracket ∉ cs := fun bracket hbracket hmem =>
        h bracket hbracket (List.mem_cons_of_mem c hmem)
      obtain ⟨hkept, hafter⟩ := Depth.kept_free hne depth
      rw [List.cons_append, outerText, hkept, hafter, ih hfree]
      split <;> simp

theorem bracket_not_mem_word {word : List Char} (h : ∀ c ∈ word, isNameChar c = true) :
    ∀ bracket ∈ ['{', '}', '(', ')'], bracket ∉ word := by
  have hnot : ∀ bracket ∈ ['{', '}', '(', ')'], isNameChar bracket = false := by
    simp [isNameChar]
  intro bracket hbracket hmem
  have hchar := h bracket hmem
  rw [hnot bracket hbracket] at hchar
  cases hchar

/-- Outside all brackets a text goes on with a word only where the document does. -/
theorem head?_outerText {depth : Depth} {cs : List Char}
    (h : depth = .outside → ∀ c ∈ cs.head?, Text.isWordChar c = false) :
    ∀ c ∈ (outerText depth cs).head?, Text.isWordChar c = false := by
  induction cs generalizing depth with
  | nil => simp [outerText]
  | cons c rest ih =>
      rw [outerText]
      obtain hkept | ⟨hkept, hafter⟩ | ⟨hkept, houtside⟩ := depth.kept_cases c
      · rw [hkept]
        rintro d hd
        cases hd
        rfl
      · rw [hkept]
        exact ih fun houtside => absurd houtside hafter
      · rw [hkept]
        exact h houtside

section FindWord

variable {words : List String} {inWord : Bool} {rest : List Char}

theorem findWord_cons {c : Char} (h : Text.findWord words inWord (c :: rest) = none) :
    Text.findWord words (Text.isWordChar c) rest = none := by
  rw [Text.findWord] at h
  split at h
  · cases h
  · exact h

theorem findWord_append {word : List Char} (hne : word ≠ [])
    (hword : ∀ c ∈ word, Text.isWordChar c = true)
    (h : Text.findWord words inWord (word ++ rest) = none) :
    Text.findWord words true rest = none := by
  induction word generalizing inWord with
  | nil => exact absurd rfl hne
  | cons c word ih =>
      obtain ⟨hc, hword⟩ := List.forall_mem_cons.mp hword
      have hnext := findWord_cons h
      rw [hc] at hnext
      cases word with
      | nil => exact hnext
      | cons d word => exact ih (List.cons_ne_nil d word) hword hnext

theorem startsWithWord_append {word : List Char}
    (hrest : ∀ c ∈ rest.head?, Text.isWordChar c = false) :
    Text.startsWithWord word (word ++ rest) = true := by
  unfold Text.startsWithWord
  rw [List.drop_left, Bool.and_eq_true]
  refine ⟨by simp, ?_⟩
  cases rest with
  | nil => rfl
  | cons c rest => simpa using hrest

/-- A word that stands alone is found. -/
theorem not_mem_of_findWord {word : String} (hne : word.toList ≠ [])
    (hrest : ∀ c ∈ rest.head?, Text.isWordChar c = false)
    (h : Text.findWord words false (word.toList ++ rest) = none) : word ∉ words := by
  intro hmem
  have hstarts : Text.startsWithWord word.toList (word.toList ++ rest) = true :=
    startsWithWord_append hrest
  obtain ⟨c, cs, hcs⟩ := List.exists_cons_of_ne_nil hne
  rw [hcs, List.cons_append, Text.findWord] at h
  split at h
  · cases h
  · rename_i hfind
    have hnone := List.find?_eq_none.mp hfind word hmem
    rw [← List.cons_append, ← hcs] at hnone
    exact hnone hstarts

end FindWord

section OuterNames

variable {words : List String} {inWord : Bool} {depth : Depth} {rest : List Char}

theorem findWord_outerText_cons {c : Char} (hc : Text.isWordChar c = false)
    (h : Text.findWord words inWord (outerText depth (c :: rest)) = none) :
    ∃ inWord', (inWord' = true → depth.after c ≠ .outside) ∧
      Text.findWord words inWord' (outerText (depth.after c) rest) = none := by
  rw [outerText] at h
  obtain hkept | ⟨hkept, hafter⟩ | ⟨hkept, -⟩ := depth.kept_cases c
  · rw [hkept] at h
    exact ⟨false, nofun, findWord_cons h⟩
  · rw [hkept] at h
    exact ⟨inWord, fun _ => hafter, h⟩
  · rw [hkept] at h
    have hnext := findWord_cons h
    rw [hc] at hnext
    exact ⟨false, nofun, hnext⟩

theorem findWord_outerText_word {word : List Char} (hne : word ≠ [])
    (hword : ∀ c ∈ word, isNameChar c = true)
    (h : Text.findWord words inWord (outerText depth (word ++ rest)) = none) :
    ∃ inWord', Text.findWord words inWord' (outerText depth rest) = none := by
  rw [outerText_free (bracket_not_mem_word hword)] at h
  by_cases hout : depth = .outside
  · rw [if_pos hout] at h
    exact ⟨true, findWord_append hne (fun c hc => isWordChar_of_isNameChar (hword c hc)) h⟩
  · rw [if_neg hout] at h
    exact ⟨inWord, h⟩

theorem mem_outerNames_ofWord {c : Char} {others word : List Char} {ts : List Token}
    (h : word ∈ outerNames depth (.ofWord c others :: ts)) :
    (depth = .outside ∧ word = c :: others) ∨ word ∈ outerNames depth ts := by
  unfold Token.ofWord at h
  split at h
  · exact .inr h
  · rw [outerNames] at h
    split at h
    · rename_i hout
      obtain rfl | h := List.mem_cons.mp h
      · exact .inl ⟨hout, rfl⟩
      · exact .inr h
    · exact .inr h

end OuterNames

/-- A word that is not found in the text outside all brackets is no name there. The
scan stands in a word there only at the end of a name. -/
theorem not_mem_outerNames_of_findWord {words : List String} {cs : List Char}
    (hadmitted : ∀ t ∈ tokens cs, t.Admitted) {depth : Depth} {inWord : Bool}
    (hapart : inWord = true → depth = .outside → ∀ c ∈ cs.head?, isNameChar c = false)
    (h : Text.findWord words inWord (outerText depth ((tokens cs).flatMap Token.residue)) = none)
    {word : String} (hword : word ∈ words) : word.toList ∉ outerNames depth (tokens cs) := by
  -- Each token but a word leaves a character that is in no word, and so the search
  -- stands in no word after it unless it stands inside brackets.
  induction cs using tokens.induct generalizing depth inWord with
  | case1 => simp [tokens, outerNames]
  | case2 rest after ih =>
      by_cases hend : lineEnd after = []
      · -- Nothing is left of this comment, but nothing follows either.
        rw [tokens_comment_end hend]
        simp [outerNames]
      · rw [tokens, List.flatMap_cons, Token.residue, if_neg hend] at h
        rw [tokens] at hadmitted ⊢
        obtain ⟨-, hrest⟩ := List.forall_mem_cons.mp hadmitted
        obtain ⟨inWord', hinside, hnext⟩ := findWord_outerText_cons rfl h
        exact ih hrest (fun hin hout => absurd hout (hinside hin)) hnext
  | case3 rest ih =>
      rw [tokens] at hadmitted h ⊢
      obtain ⟨-, hrest⟩ := List.forall_mem_cons.mp hadmitted
      obtain ⟨inWord', hinside, hnext⟩ := findWord_outerText_cons rfl h
      exact ih hrest (fun hin hout => absurd hout (hinside hin)) hnext
  | case4 rest hquotes ih =>
      rw [tokens_string hquotes] at hadmitted h ⊢
      obtain ⟨-, hrest⟩ := List.forall_mem_cons.mp hadmitted
      obtain ⟨inWord', hinside, hnext⟩ := findWord_outerText_cons rfl h
      exact ih hrest (fun hin hout => absurd hout (hinside hin)) hnext
  | case5 c rest _ _ _ hname ih =>
      have hends := head?_dropWhile_isNameChar rest
      rw [tokens_word hname] at hadmitted h ⊢
      rw [List.flatMap_cons, Token.residue_ofWord] at h
      obtain ⟨-, hrest⟩ := List.forall_mem_cons.mp hadmitted
      have hchars := isNameChar_of_mem_word hname rest
      obtain ⟨inWord', hnext⟩ := findWord_outerText_word (List.cons_ne_nil _ _) hchars h
      intro hmem
      obtain ⟨hout, heq⟩ | hmem := mem_outerNames_ofWord hmem
      · have hbefore : inWord = false := by
          refine Bool.eq_false_iff.mpr fun hin => ?_
          have hnot := hapart hin hout c rfl
          rw [hname] at hnot
          cases hnot
        have hne : word.toList ≠ [] := by
          rw [heq]
          exact List.cons_ne_nil _ _
        rw [outerText_free (bracket_not_mem_word hchars), if_pos hout, ← heq, hbefore] at h
        exact not_mem_of_findWord hne (head?_outerText fun _ => head?_residue hrest hends) h hword
      · exact ih hrest (fun _ _ => hends) hnext hmem
  | case6 c rest hhash _ hquote hname ih =>
      rw [tokens_mark hhash hquote hname] at hadmitted h ⊢
      obtain ⟨hmark, hrest⟩ := List.forall_mem_cons.mp hadmitted
      obtain ⟨inWord', hinside, hnext⟩ := findWord_outerText_cons hmark h
      exact ih hrest (fun hin hout => absurd hout (hinside hin)) hnext

theorem inspect_ok {query : List Char} {cursor : Bool} (h : inspect query cursor = .ok ()) :
    ∃ top, topLevel 0 0 (strip .code query) = .ok top ∧
      Text.findWord forbiddenKeywords false top = none := by
  simp only [inspect] at h
  split at h
  · cases h
  · cases htop : topLevel 0 0 (strip .code query) with
    | error problem =>
        rw [htop] at h
        cases h
    | ok top =>
        rw [htop] at h
        refine ⟨top, rfl, ?_⟩
        cases hfind : Text.findWord forbiddenKeywords false top with
        | none => rfl
        | some keyword =>
            simp only [bind, Except.bind, hfind] at h
            cases h

/-- No accepted document has a write operation: outside all brackets there is no name
of one, if stripping ends all tokens of the document where they end. -/
theorem accepted_query_writes_nothing {query : String} {cursor : Bool}
    (hadmitted : ∀ t ∈ tokens query.toList, t.Admitted)
    (hplain : ∀ t ∈ tokens query.toList, t.Plain) (h : check query cursor = .ok ()) :
    "mutation".toList ∉ outerNames .outside (tokens query.toList) ∧
      "subscription".toList ∉ outerNames .outside (tokens query.toList) := by
  have hinspect : inspect query.toList cursor = .ok () := by
    unfold check at h
    cases hinspect : inspect query.toList cursor with
    | error problem =>
        rw [hinspect] at h
        cases h
    | ok _ => rfl
  obtain ⟨top, htop, hfind⟩ := inspect_ok hinspect
  have houter : outerText .outside (strip .code query.toList) = top := topLevel_eq_outerText htop
  rw [← houter, strip_eq_residue fun t ht => ⟨hadmitted t ht, hplain t ht⟩] at hfind
  have hnot {word : String} (hword : word ∈ forbiddenKeywords) :
      word.toList ∉ outerNames .outside (tokens query.toList) := by
    refine not_mem_outerNames_of_findWord hadmitted ?_ hfind hword
    exact nofun
  exact ⟨hnot (by simp [forbiddenKeywords]), hnot (by simp [forbiddenKeywords])⟩

namespace Sample

def mentioning : String :=
  "# mutation\nquery ($q: String = \"mutation\") \x7b mutation(q: $q) \x7d"

/-- A mutation after a comment that ends at a lone carriage return. -/
def afterReturn : String := "fragment f on M \x7b a \x7d #\rmutation \x7b ...f \x7d"

/-- A mutation after a block string with quotes escaped in it. -/
def afterEscape : String :=
  "\x7b a(b: \"\"\"\\\"\"\") \x7d\"\"\") \x7d mutation \x7b c(d: \"\"\"\"\"\") \x7d"

end Sample

theorem mentioning_writes_nothing :
    (∀ t ∈ tokens Sample.mentioning.toList, t.Admitted) ∧
      (∀ t ∈ tokens Sample.mentioning.toList, t.Plain) ∧
      check Sample.mentioning false = .ok () ∧
      "mutation".toList ∉ outerNames .outside (tokens Sample.mentioning.toList) ∧
      "subscription".toList ∉ outerNames .outside (tokens Sample.mentioning.toList) := by
  have hadmitted : ∀ t ∈ tokens Sample.mentioning.toList, t.Admitted := by decide +kernel
  have hplain : ∀ t ∈ tokens Sample.mentioning.toList, t.Plain := by decide +kernel
  have hcheck : check Sample.mentioning false = .ok () := by decide +kernel
  exact ⟨hadmitted, hplain, hcheck, accepted_query_writes_nothing hadmitted hplain hcheck⟩

/-- Where a token is not plain, a mutation can be accepted. -/
theorem hidden_mutation_is_accepted :
    ((∀ t ∈ tokens Sample.afterReturn.toList, t.Admitted) ∧
      check Sample.afterReturn false = .ok () ∧
      "mutation".toList ∈ outerNames .outside (tokens Sample.afterReturn.toList)) ∧
    (∀ t ∈ tokens Sample.afterEscape.toList, t.Admitted) ∧
      check Sample.afterEscape false = .ok () ∧
      "mutation".toList ∈ outerNames .outside (tokens Sample.afterEscape.toList) := by
  decide +kernel

end PageHarvest.Query
