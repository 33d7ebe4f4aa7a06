import PageHarvest.Proofs.Query.WriteOperations

/-!
What comments and literals say does not decide the check. Two documents that differ in
the text of one of them leave the same when they are stripped, so that they are judged
alike, as long as the scan ends all tokens up to there where they end. The last result
has pairs of documents where it does not, and which are judged differently.
-/

namespace PageHarvest.Query

namespace Token

/-- Two comments with one line end, two strings, or two block strings. -/
inductive SameKind : Token → Token → Prop
  | comment (text text' lineEnd : List Char) :
      SameKind (.comment text lineEnd) (.comment text' lineEnd)
  | string (text text' : List Char) : SameKind (.string text) (.string text')
  | block (text text' : List Char) : SameKind (.block text) (.block text')

end Token

/-- A text begins with tokens that are written out in full, and a rest follows. -/
structure LexesTo (cs : List Char) (ts : List Token) (rest : List Char) : Prop where
  written : cs = ts.flatMap Token.written ++ rest
  tokens_eq : tokens cs = ts ++ tokens rest
  oneLine : ∀ t ∈ ts, t.OneLine

instance (cs : List Char) (ts : List Token) (rest : List Char) : Decidable (LexesTo cs ts rest) :=
  decidable_of_iff (cs = ts.flatMap Token.written ++ rest ∧ tokens cs = ts ++ tokens rest ∧
      ∀ t ∈ ts, t.OneLine)
    ⟨fun h => ⟨h.1, h.2.1, h.2.2⟩, fun h => ⟨h.written, h.tokens_eq, h.oneLine⟩⟩

variable {cs rest : List Char} {ts us : List Token} {t : Token}

theorem LexesTo.ne_nil (h : LexesTo cs (t :: ts) rest) : cs ≠ [] := by
  rintro rfl
  have htokens := h.tokens_eq
  rw [tokens] at htokens
  cases htokens

theorem LexesTo.tail (h : LexesTo cs (t :: ts) rest) :
    ∃ next, LexesTo next ts rest ∧
      (t.Plain → strip .code cs = t.residue ++ strip .code next) := by
  obtain ⟨first, next, hfirst, hnext, -, hstrip⟩ := first_token h.ne_nil
  have htokens := h.tokens_eq
  rw [hfirst, List.cons_append, List.cons.injEq] at htokens
  obtain ⟨rfl, htail⟩ := htokens
  have hwritten : cs = first.written ++ (ts.flatMap Token.written ++ rest) := by
    rw [h.written, List.flatMap_cons, List.append_assoc]
  have hdrop : next = ts.flatMap Token.written ++ rest := by
    rw [hnext, hwritten, List.drop_left]
  obtain ⟨hline, hlines⟩ := List.forall_mem_cons.mp h.oneLine
  exact ⟨next, ⟨hdrop, htail, hlines⟩, hstrip hline⟩

/-- Stripping goes through tokens that are plain. -/
theorem LexesTo.strip_append (h : LexesTo cs (ts ++ us) rest) (hplain : ∀ t ∈ ts, t.Plain) :
    ∃ next, LexesTo next us rest ∧
      strip .code cs = ts.flatMap Token.residue ++ strip .code next := by
  induction ts generalizing cs with
  | nil => exact ⟨cs, h, rfl⟩
  | cons t ts ih =>
      obtain ⟨hfirst, hothers⟩ := List.forall_mem_cons.mp hplain
      obtain ⟨middle, hmiddle, hstrip⟩ := LexesTo.tail h
      obtain ⟨next, hnext, hrest⟩ := ih hmiddle hothers
      refine ⟨next, hnext, ?_⟩
      rw [hstrip hfirst, hrest, List.flatMap_cons, List.append_assoc]

/-- A comment is stripped up to its line end, which need not end it for the scan. -/
theorem LexesTo.strip_comment {text ending : List Char}
    (h : LexesTo cs [.comment text ending] rest) :
    strip .code cs = strip .comment (ending ++ rest) := by
  have hwritten : cs = '#' :: (text ++ (ending ++ rest)) := by
    simpa [Token.written] using h.written
  have htokens := h.tokens_eq
  rw [hwritten, tokens, List.singleton_append, List.cons.injEq, Token.comment.injEq] at htokens
  have hchars : ∀ c ∈ text, isCommentChar c = true := by
    rw [← htokens.1.1]
    exact List.all_eq_true.mp List.all_takeWhile
  rw [hwritten, strip, strip_comment_append text hchars]

theorem LexesTo.strip_plain (h : LexesTo cs [t] rest) (hplain : t.Plain) :
    strip .code cs = t.residue ++ strip .code rest := by
  obtain ⟨next, hnext, hstrip⟩ := h.tail
  obtain rfl : next = rest := hnext.written
  exact hstrip hplain

/-- A comment or literal may be put in the place of another one of its kind. -/
theorem LexesTo.strip_congr {other : List Char} {literal replacement : Token}
    (h : LexesTo cs [literal] rest) (h' : LexesTo other [replacement] rest)
    (hkind : literal.SameKind replacement)
    (hescape : ∀ text, .block text ∈ [literal, replacement] → ¬ ['"', '"', '"'] <:+: text) :
    strip .code cs = strip .code other := by
  cases hkind with
  | comment text text' ending => rw [h.strip_comment, h'.strip_comment]
  | string text text' =>
      rw [h.strip_plain trivial, h'.strip_plain trivial]
      rfl
  | block text text' =>
      rw [h.strip_plain (hescape text (by simp)), h'.strip_plain (hescape text' (by simp))]
      rfl

theorem check_congr {query other : String}
    (h : strip .code query.toList = strip .code other.toList) (cursor : Bool) :
    check query cursor = check other cursor := by
  simp only [check, inspect, h]

/-- Two documents that differ in the text of one comment or literal are judged alike, if
no comment before it ends at a lone carriage return, and neither a block string before it
nor itself has three quotes in its text. -/
theorem contents_do_not_decide {query other : String} {before : List Token}
    {literal replacement : Token} {rest : List Char}
    (hquery : LexesTo query.toList (before ++ [literal]) rest)
    (hother : LexesTo other.toList (before ++ [replacement]) rest)
    (hkind : literal.SameKind replacement) (hbefore : ∀ t ∈ before, t.Plain)
    (hescape : ∀ text, .block text ∈ [literal, replacement] → ¬ ['"', '"', '"'] <:+: text)
    (cursor : Bool) : check query cursor = check other cursor := by
  obtain ⟨next, hnext, hstrip⟩ := hquery.strip_append hbefore
  obtain ⟨next', hnext', hstrip'⟩ := hother.strip_append hbefore
  refine check_congr ?_ cursor
  rw [hstrip, hstrip', hnext.strip_congr hnext' hkind hescape]

namespace Sample

/-- A query after a comment, with two arguments, the second of which is given. -/
def search (argument : String) : String :=
  "# \x7b\nquery \x7b users(note: \"\"\"(\"\"\", name: " ++ argument ++ ") \x7b id \x7d \x7d"

def beforeArgument : List Token :=
  tokens "# \x7b\nquery \x7b users(note: \"\"\"(\"\"\", name: ".toList

def afterArgument : List Char := ") \x7b id \x7d \x7d".toList

/-- A query with an argument after a comment that ends at a lone carriage return. -/
def remarked (argument : String) : String := "\x7b a #\r(b: " ++ argument ++ ")\n\x7d"

end Sample

theorem crowded_string_is_ignored :
    LexesTo (Sample.search "\"ann\"").toList
        (Sample.beforeArgument ++ [.string "ann".toList]) Sample.afterArgument ∧
      LexesTo (Sample.search "\"\\\" \x7d # mutation\"").toList
        (Sample.beforeArgument ++ [.string "\\\" \x7d # mutation".toList]) Sample.afterArgument ∧
      (∀ t ∈ Sample.beforeArgument, t.Plain) ∧
      check (Sample.search "\"ann\"") false =
        check (Sample.search "\"\\\" \x7d # mutation\"") false := by
  have hquery : LexesTo (Sample.search "\"ann\"").toList
      (Sample.beforeArgument ++ [.string "ann".toList]) Sample.afterArgument := by
    decide +kernel
  have hother : LexesTo (Sample.search "\"\\\" \x7d # mutation\"").toList
      (Sample.beforeArgument ++ [.string "\\\" \x7d # mutation".toList])
      Sample.afterArgument := by
    decide +kernel
  have hbefore : ∀ t ∈ Sample.beforeArgument, t.Plain := by decide +kernel
  exact ⟨hquery, hother, hbefore,
    contents_do_not_decide hquery hother (.string _ _) hbefore (by simp) false⟩

/-- Block strings decide if there are escaped quotes in one, or if a comment before them
ends at a lone carriage return. -/
theorem block_string_can_decide :
    (LexesTo (Sample.search "\"\"\"ann\"\"\"").toList
        (Sample.beforeArgument ++ [.block "ann".toList]) Sample.afterArgument ∧
      LexesTo (Sample.search "\"\"\"ann \\\"\"\" bob\"\"\"").toList
        (Sample.beforeArgument ++ [.block "ann \\\"\"\" bob".toList]) Sample.afterArgument ∧
      check (Sample.search "\"\"\"ann\"\"\"") false = .ok () ∧
      check (Sample.search "\"\"\"ann \\\"\"\" bob\"\"\"") false =
        .error (.invalidValue "graphql_query" "unbalanced '\x7b'")) ∧
    LexesTo (Sample.remarked "\"\"\"ann\"\"\"").toList
        (tokens "\x7b a #\r(b: ".toList ++ [.block "ann".toList]) ")\n\x7d".toList ∧
      LexesTo (Sample.remarked "\"\"\"\n\"\"\"").toList
        (tokens "\x7b a #\r(b: ".toList ++ [.block "\n".toList]) ")\n\x7d".toList ∧
      check (Sample.remarked "\"\"\"ann\"\"\"") false = .ok () ∧
      check (Sample.remarked "\"\"\"\n\"\"\"") false =
        .error (.invalidValue "graphql_query" "unbalanced '\x7b'") := by
  decide +kernel

end PageHarvest.Query
