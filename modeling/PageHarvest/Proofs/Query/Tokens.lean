import Mathlib.Tactic.Common
import PageHarvest.Query.Strip
import PageHarvest.Text.Word

/-!
The tokens of a query document by GraphQL's own lexical rules. A comment ends with
its line, and a line with a line feed, a carriage return or both in this order. A
string ends at a quote and a block string at three quotes, unless a backslash stands
before them. Stripping leaves what these rules leave, as long as no comment ends at a
lone carriage return and no block string has quotes escaped.
-/

namespace PageHarvest.Query

inductive Token where
  | name (word : List Char)
  /-- A run of name characters that begins with a digit. -/
  | number (word : List Char)
  /-- Any other character outside comments and literals. -/
  | mark (c : Char)
  /-- The text after the number sign, and the line end after it. -/
  | comment (text lineEnd : List Char)
  /-- The text before the closing quote, as it is written. -/
  | string (text : List Char)
  | block (text : List Char)
deriving DecidableEq

def Token.ofWord (c : Char) (others : List Char) : Token :=
  if c.isDigit then .number (c :: others) else .name (c :: others)

/-- Letters, digits and the underscore of ASCII. -/
def isNameChar (c : Char) : Bool := c.isAlphanum || c == '_'

def isCommentChar (c : Char) : Bool := c != '\n' && c != '\r'

/-- The line end that a text begins with, if it begins with one. -/
def lineEnd : List Char → List Char
  | '\r' :: '\n' :: _ => ['\r', '\n']
  | '\r' :: _ => ['\r']
  | '\n' :: _ => ['\n']
  | _ => []

/-- What stands before the quote that ends a string. A backslash takes the next
character along. -/
def stringText : List Char → List Char
  | [] => []
  | '"' :: _ => []
  | '\\' :: c :: rest => '\\' :: c :: stringText rest
  | c :: rest => c :: stringText rest

/-- What stands before the three quotes that end a block string. A backslash takes
three quotes along. -/
def blockText : List Char → List Char
  | [] => []
  | '"' :: '"' :: '"' :: _ => []
  | '\\' :: '"' :: '"' :: '"' :: rest => '\\' :: '"' :: '"' :: '"' :: blockText rest
  | c :: rest => c :: blockText rest

/-- The tokens of a text. A word is as long as can be. -/
def tokens : List Char → List Token
  | [] => []
  | '#' :: rest =>
      let after := rest.dropWhile isCommentChar
      .comment (rest.takeWhile isCommentChar) (lineEnd after) ::
        tokens (after.drop (lineEnd after).length)
  | '"' :: '"' :: '"' :: rest =>
      .block (blockText rest) :: tokens (rest.drop ((blockText rest).length + 3))
  | '"' :: rest => .string (stringText rest) :: tokens (rest.drop ((stringText rest).length + 1))
  | c :: rest =>
      if isNameChar c then
        .ofWord c (rest.takeWhile isNameChar) :: tokens (rest.dropWhile isNameChar)
      else .mark c :: tokens rest
termination_by cs => cs.length
decreasing_by
  · have hafter := (List.dropWhile_sublist (l := rest) isCommentChar).length_le
    simp only [List.length_cons, List.length_drop]
    omega
  · simp only [List.length_cons, List.length_drop]
    omega
  · simp only [List.length_cons, List.length_drop]
    omega
  · exact Nat.lt_succ_of_le (List.dropWhile_sublist _).length_le
  · exact Nat.lt_succ_self _

namespace Token

/-- What GraphQL admits of a token: a string does not run over a line feed, and
outside comments and literals no letter of another script stands. -/
def Admitted : Token → Prop
  | .string text => '\n' ∉ text
  | .mark c => Text.isWordChar c = false
  | _ => True

/-- True of tokens that end where a scan ends them that knows neither lone carriage
returns nor escaped quotes in block strings. -/
def Plain : Token → Prop
  | .comment _ lineEnd => lineEnd ≠ ['\r']
  | .block text => ¬ ['"', '"', '"'] <:+: text
  | _ => True

instance : DecidablePred Admitted
  | .string text => inferInstanceAs (Decidable ('\n' ∉ text))
  | .mark c => inferInstanceAs (Decidable (Text.isWordChar c = false))
  | .name _ | .number _ | .comment _ _ | .block _ => inferInstanceAs (Decidable True)

instance : DecidablePred Plain
  | .comment _ lineEnd => inferInstanceAs (Decidable (lineEnd ≠ ['\r']))
  | .block text => inferInstanceAs (Decidable (¬ ['"', '"', '"'] <:+: text))
  | .name _ | .number _ | .mark _ | .string _ => inferInstanceAs (Decidable True)

def residue : Token → List Char
  | .name word | .number word => word
  | .mark c => [c]
  | .comment _ lineEnd => if lineEnd = [] then [] else ['\n']
  | .string _ | .block _ => [' ']

def written : Token → List Char
  | .name word | .number word => word
  | .mark c => [c]
  | .comment text lineEnd => '#' :: (text ++ lineEnd)
  | .string text => '"' :: (text ++ ['"'])
  | .block text => '"' :: '"' :: '"' :: (text ++ ['"', '"', '"'])

/-- True of tokens other than strings that run over a line feed, which GraphQL bans. -/
def OneLine : Token → Prop
  | .string text => '\n' ∉ text
  | _ => True

instance : DecidablePred OneLine
  | .string text => inferInstanceAs (Decidable ('\n' ∉ text))
  | .name _ | .number _ | .mark _ | .comment _ _ | .block _ => inferInstanceAs (Decidable True)

theorem residue_ofWord (c : Char) (others : List Char) :
    (ofWord c others).residue = c :: others := by
  unfold ofWord
  split <;> rfl

end Token

-- The equations are derived here, once, and not by several of the proofs at the same time.
attribute [local simp] strip tokens stringText blockText lineEnd

theorem strip_comment_append (text : List Char) (h : ∀ c ∈ text, isCommentChar c = true)
    (rest : List Char) : strip .comment (text ++ rest) = strip .comment rest := by
  induction text with
  | nil => rfl
  | cons c text ih =>
      obtain ⟨hc, htext⟩ := List.forall_mem_cons.mp h
      have hne : c ≠ '\n' := by
        rintro rfl
        cases hc
      rw [List.cons_append, strip, ih htext]
      exact hne

theorem lineEnd_return_ne_nil (rest : List Char) : lineEnd ('\r' :: rest) ≠ [] := by
  rw [lineEnd.eq_def]
  split <;> simp_all

theorem after_comment (cs : List Char) :
    cs.dropWhile isCommentChar = [] ∨ (∃ rest, cs.dropWhile isCommentChar = '\n' :: rest) ∨
      ∃ rest, cs.dropWhile isCommentChar = '\r' :: rest := by
  have hhead := List.head?_dropWhile_not isCommentChar cs
  cases hafter : cs.dropWhile isCommentChar with
  | nil => exact .inl rfl
  | cons c rest =>
      rw [hafter] at hhead
      obtain rfl | rfl : c = '\n' ∨ c = '\r' := by
        simpa [isCommentChar, ← or_iff_not_imp_left] using hhead
      · exact .inr (.inl ⟨rest, rfl⟩)
      · exact .inr (.inr ⟨rest, rfl⟩)

theorem strip_comment (cs : List Char) (h : lineEnd (cs.dropWhile isCommentChar) ≠ ['\r']) :
    strip .comment cs =
      (if lineEnd (cs.dropWhile isCommentChar) = [] then [] else ['\n']) ++
        strip .code ((cs.dropWhile isCommentChar).drop
          (lineEnd (cs.dropWhile isCommentChar)).length) := by
  have hskip := strip_comment_append (cs.takeWhile isCommentChar)
    (List.all_eq_true.mp List.all_takeWhile) (cs.dropWhile isCommentChar)
  rw [List.takeWhile_append_dropWhile] at hskip
  rw [hskip]
  obtain hnil | ⟨rest, hline⟩ | ⟨rest, hreturn⟩ := after_comment cs
  · rw [hnil]
    rfl
  · rw [hline]
    simp [strip, lineEnd]
  · rw [hreturn] at h ⊢
    cases rest with
    | nil => exact absurd rfl h
    | cons c rest =>
        by_cases hc : c = '\n'
        · subst hc
          simp [strip, lineEnd]
        · exact absurd (by rw [lineEnd]; simpa using hc) h

theorem strip_string (cs : List Char) (h : '\n' ∉ stringText cs) :
    strip .string cs = ' ' :: strip .code (cs.drop ((stringText cs).length + 1)) := by
  induction cs using stringText.induct with
  | case1 => simp [strip, stringText]
  | case2 rest => simp [strip, stringText]
  | case3 c rest ih =>
      simp only [stringText, List.mem_cons, not_or] at h
      rw [strip, ih h.2.2, stringText]
      simp
  | case4 c rest hquote hescape ih =>
      have htext : stringText (c :: rest) = c :: stringText rest := by
        rw [stringText]
        · exact hquote
        · exact hescape
      rw [htext, List.mem_cons, not_or] at h
      rw [htext, strip, ih h.2, List.length_cons, List.drop_succ_cons]
      · exact hquote
      · exact fun hline => h.1 hline.symm
      · exact hescape

theorem strip_block (cs : List Char) (h : ¬ ['"', '"', '"'] <:+: blockText cs) :
    strip .block cs = ' ' :: strip .code (cs.drop ((blockText cs).length + 3)) := by
  induction cs using blockText.induct with
  | case1 => simp [strip, blockText]
  | case2 rest => simp [strip, blockText]
  | case3 rest ih =>
      exact absurd ⟨['\\'], blockText rest, by simp [blockText]⟩ h
  | case4 c rest hquotes hescape ih =>
      have htext : blockText (c :: rest) = c :: blockText rest := by
        rw [blockText]
        · exact hquotes
        · exact hescape
      rw [htext] at h
      have hrest : ¬ ['"', '"', '"'] <:+: blockText rest := fun hin =>
        h (hin.trans (List.suffix_cons c _).isInfix)
      rw [htext, strip, ih hrest, List.length_cons]
      · rfl
      · exact hquotes

theorem ne_of_isNameChar {c : Char} (h : isNameChar c = true) : c ≠ '#' ∧ c ≠ '"' := by
  constructor <;> rintro rfl <;> cases h

theorem strip_code_cons {c : Char} (hhash : c ≠ '#') (hquote : c ≠ '"') (rest : List Char) :
    strip .code (c :: rest) = c :: strip .code rest := by
  rw [strip]
  · exact hhash
  · exact fun _ h _ => hquote h
  · exact hquote

theorem strip_code_append {word : List Char} (h : ∀ c ∈ word, isNameChar c = true)
    (rest : List Char) : strip .code (word ++ rest) = word ++ strip .code rest := by
  induction word with
  | nil => rfl
  | cons c word ih =>
      obtain ⟨hc, hword⟩ := List.forall_mem_cons.mp h
      obtain ⟨hhash, hquote⟩ := ne_of_isNameChar hc
      rw [List.cons_append, strip_code_cons hhash hquote, ih hword, List.cons_append]

theorem isNameChar_of_mem_word {c : Char} (h : isNameChar c = true) (rest : List Char) :
    ∀ d ∈ c :: rest.takeWhile isNameChar, isNameChar d = true :=
  List.forall_mem_cons.mpr ⟨h, List.all_eq_true.mp List.all_takeWhile⟩

theorem tokens_word {c : Char} (h : isNameChar c = true) (rest : List Char) :
    tokens (c :: rest) =
      .ofWord c (rest.takeWhile isNameChar) :: tokens (rest.dropWhile isNameChar) := by
  obtain ⟨hhash, hquote⟩ := ne_of_isNameChar h
  rw [tokens, if_pos h]
  · exact hhash
  · exact fun _ hc _ => hquote hc
  · exact hquote

theorem tokens_mark {c : Char} (hhash : c ≠ '#') (hquote : c ≠ '"') (h : ¬ isNameChar c = true)
    (rest : List Char) : tokens (c :: rest) = .mark c :: tokens rest := by
  rw [tokens, if_neg h]
  · exact hhash
  · exact fun _ hc _ => hquote hc
  · exact hquote

theorem tokens_string {rest : List Char} (h : ∀ cs, rest ≠ '"' :: '"' :: cs) :
    tokens ('"' :: rest) =
      .string (stringText rest) :: tokens (rest.drop ((stringText rest).length + 1)) := by
  rw [tokens]
  exact h

/-- A comment without a line end is the last token. -/
theorem tokens_comment_end {rest : List Char}
    (h : lineEnd (rest.dropWhile isCommentChar) = []) :
    tokens ('#' :: rest) = [.comment (rest.takeWhile isCommentChar) []] := by
  have hafter : rest.dropWhile isCommentChar = [] := by
    obtain hnil | ⟨after, hline⟩ | ⟨after, hreturn⟩ := after_comment rest
    · exact hnil
    · rw [hline] at h
      cases h
    · rw [hreturn] at h
      exact absurd h (lineEnd_return_ne_nil after)
  simp [tokens, hafter, lineEnd]

theorem drop_length_takeWhile {α : Type} (p : α → Bool) (l : List α) :
    l.drop (l.takeWhile p).length = l.dropWhile p := by
  conv_lhs => arg 2; rw [← List.takeWhile_append_dropWhile (p := p) (l := l)]
  exact List.drop_left

/-- A text that is not empty begins with a token, and stripping leaves what is left of the
token and of what comes after it. -/
theorem first_token {cs : List Char} (hne : cs ≠ []) :
    ∃ t rest, tokens cs = t :: tokens rest ∧ rest = cs.drop t.written.length ∧ t.written ≠ [] ∧
      (t.OneLine → t.Plain → strip .code cs = t.residue ++ strip .code rest) := by
  fun_cases tokens cs with
  | case1 => exact absurd rfl hne
  | case2 rest after =>
      refine ⟨_, _, rfl, ?_, List.cons_ne_nil _ _, fun _ hplain => ?_⟩
      · simp [Token.written, ← List.drop_drop, drop_length_takeWhile, after]
      · rw [strip, strip_comment rest hplain]
        rfl
  | case3 rest =>
      refine ⟨_, _, rfl, by simp [Token.written], List.cons_ne_nil _ _, fun _ hplain => ?_⟩
      rw [strip, strip_block rest hplain]
      rfl
  | case4 rest hquotes =>
      refine ⟨_, _, rfl, by simp [Token.written], List.cons_ne_nil _ _, fun hline _ => ?_⟩
      rw [strip, strip_string rest hline]
      · rfl
      · exact hquotes
  | case5 c rest _ _ _ hname =>
      have hwritten (others : List Char) : (Token.ofWord c others).written = c :: others := by
        unfold Token.ofWord
        split <;> rfl
      refine ⟨_, _, rfl, ?_, ?_, fun _ _ => ?_⟩
      · simp [hwritten, drop_length_takeWhile]
      · simp [hwritten]
      · have hsplit := strip_code_append (isNameChar_of_mem_word hname rest)
          (rest.dropWhile isNameChar)
        rw [List.cons_append, List.takeWhile_append_dropWhile] at hsplit
        rw [hsplit, Token.residue_ofWord]
  | case6 c rest hhash _ hquote hname =>
      exact ⟨_, _, rfl, rfl, List.cons_ne_nil _ _, fun _ _ => strip_code_cons hhash hquote rest⟩

theorem Token.Admitted.oneLine {t : Token} (h : t.Admitted) : t.OneLine := by
  cases t with
  | string text => exact h
  | _ => trivial

/-- Stripping leaves what is left of each token. -/
theorem strip_eq_residue {cs : List Char} (h : ∀ t ∈ tokens cs, t.Admitted ∧ t.Plain) :
    strip .code cs = (tokens cs).flatMap Token.residue := by
  by_cases hne : cs = []
  · subst hne
    simp
  · obtain ⟨t, rest, htokens, hrest, hwritten, hstrip⟩ := first_token hne
    have hshorter : rest.length < cs.length := by
      have hcs := List.length_pos_iff.mpr hne
      have hpos := List.length_pos_iff.mpr hwritten
      rw [hrest, List.length_drop]
      omega
    rw [htokens] at h ⊢
    obtain ⟨⟨hadmitted, hplain⟩, hothers⟩ := List.forall_mem_cons.mp h
    rw [hstrip hadmitted.oneLine hplain, strip_eq_residue hothers, List.flatMap_cons]
termination_by cs.length

theorem isWordChar_of_isNameChar {c : Char} (h : isNameChar c = true) :
    Text.isWordChar c = true := by
  have hascii : c.toNat < 128 := by
    rw [isNameChar, Bool.or_eq_true, beq_iff_eq] at h
    rcases h with h | rfl
    · have hbounds := Text.isAlphanum_bounds h
      omega
    · decide
  rw [Text.isWordChar, if_pos hascii]
  exact h

theorem head?_dropWhile_isNameChar (cs : List Char) :
    ∀ c ∈ (cs.dropWhile isNameChar).head?, isNameChar c = false := by
  intro c hc
  have hhead := List.head?_dropWhile_not isNameChar cs
  rw [Option.mem_def.mp hc] at hhead
  simpa using hhead

/-- What is left of a document goes on with a word only where the document does. -/
theorem head?_residue {cs : List Char} (hadmitted : ∀ t ∈ tokens cs, t.Admitted)
    (h : ∀ c ∈ cs.head?, isNameChar c = false) :
    ∀ c ∈ ((tokens cs).flatMap Token.residue).head?, Text.isWordChar c = false := by
  induction cs using tokens.induct with
  | case1 => simp [tokens]
  | case2 rest after =>
      by_cases hend : lineEnd after = []
      · rw [tokens_comment_end hend]
        simp [Token.residue]
      · rw [tokens, List.flatMap_cons, Token.residue, if_neg hend]
        rintro c hc
        cases hc
        rfl
  | case3 rest =>
      rw [tokens]
      rintro c hc
      cases hc
      rfl
  | case4 rest hquotes =>
      rw [tokens]
      · rintro c hc
        cases hc
        rfl
      · exact hquotes
  | case5 c rest _ _ _ hname =>
      have hnot := h c rfl
      rw [hname] at hnot
      cases hnot
  | case6 c rest hhash _ hquote hname =>
      rw [tokens_mark hhash hquote hname] at hadmitted ⊢
      rintro d hd
      cases hd
      exact hadmitted _ List.mem_cons_self

end PageHarvest.Query
