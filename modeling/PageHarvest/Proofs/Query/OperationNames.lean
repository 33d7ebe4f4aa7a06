import PageHarvest.Proofs.Query.Brackets

/-!
Which queries are taken for write operations. The text outside all brackets of a query
has two words, `query` and the name of the operation, and each of them is compared as a
whole with the keywords. So a query that has no other fault is refused exactly if its
name is one of the keywords.
-/

namespace PageHarvest.Query

/-- A name: letters, digits and underscores of ASCII, and no digit at the start. -/
def IsName (word : List Char) : Prop :=
  word ≠ [] ∧ (∀ c ∈ word.head?, c.isDigit = false) ∧ ∀ c ∈ word, isNameChar c = true

instance (word : List Char) : Decidable (IsName word) :=
  decidable_of_iff
    (word ≠ [] ∧ word.head?.all (fun c => !c.isDigit) = true ∧ word.all isNameChar = true)
    (by cases word <;> simp [IsName])

def namedQuery (name definitions selection : String) : String :=
  "query " ++ name ++ " (" ++ definitions ++ ") \x7b " ++ selection ++ " \x7d"

section FindWord

variable {words : List String} {word rest : List Char}

theorem IsName.isWordChar (h : IsName word) : ∀ c ∈ word, Text.isWordChar c = true :=
  fun c hc => isWordChar_of_isNameChar (h.2.2 c hc)

/-- At a word of a text only this word is found, and only as a whole. -/
theorem startsWithWord_iff {given : List Char} (hgiven : ∀ c ∈ given, Text.isWordChar c = true)
    (hword : ∀ c ∈ word, Text.isWordChar c = true)
    (hrest : ∀ c ∈ rest.head?, Text.isWordChar c = false) :
    Text.startsWithWord given (word ++ rest) = true ↔ given = word := by
  rw [Text.startsWithWord, Bool.and_eq_true, List.isPrefixOf_iff_prefix]
  constructor
  · rintro ⟨hbegins, hends⟩
    rcases List.prefix_or_prefix_of_prefix hbegins (List.prefix_append word rest) with
      ⟨more, rfl⟩ | ⟨more, rfl⟩
    · -- The given word ends inside the word of the text.
      cases more with
      | nil => exact (List.append_nil given).symm
      | cons c more =>
          rw [List.append_assoc, List.drop_left] at hends
          have hc := hword c (by simp)
          simp [hc] at hends
    · -- The word of the text ends inside the given word.
      cases more with
      | nil => exact List.append_nil word
      | cons c more =>
          obtain ⟨others, rfl⟩ := (List.prefix_append_right_inj word).mp hbegins
          have hnot := hrest c rfl
          rw [hgiven c (by simp)] at hnot
          cases hnot
  · rintro rfl
    have hstarts : Text.startsWithWord given (given ++ rest) = true :=
      startsWithWord_append hrest
    rwa [Text.startsWithWord, Bool.and_eq_true, List.isPrefixOf_iff_prefix] at hstarts

theorem findWord_of_not_word {inWord : Bool} {c : Char} (hc : Text.isWordChar c = false)
    (hwords : ∀ given ∈ words, IsName given.toList) :
    Text.findWord words inWord (c :: rest) = Text.findWord words false rest := by
  have hnone :
      words.find? (fun given => Text.startsWithWord given.toList (c :: rest)) = none := by
    refine List.find?_eq_none.mpr fun given hgiven hstarts => ?_
    have hname := hwords given hgiven
    have hempty : Text.startsWithWord given.toList ([] ++ c :: rest) = true ↔ given.toList = [] :=
      startsWithWord_iff hname.isWordChar (List.forall_mem_nil _) (by simpa using hc)
    exact hname.1 (hempty.mp hstarts)
  rw [Text.findWord, hnone, hc, ite_self]

theorem findWord_inside (hword : ∀ c ∈ word, Text.isWordChar c = true) :
    Text.findWord words true (word ++ rest) = Text.findWord words true rest := by
  induction word with
  | nil => rfl
  | cons c word ih =>
      obtain ⟨hc, hword⟩ := List.forall_mem_cons.mp hword
      rw [List.cons_append, Text.findWord, if_pos rfl, hc]
      exact ih hword

theorem findWord_word (hwords : ∀ given ∈ words, IsName given.toList) (hname : IsName word)
    (hrest : ∀ c ∈ rest.head?, Text.isWordChar c = false) :
    Text.findWord words false (word ++ rest) =
      if String.ofList word ∈ words then some (String.ofList word)
      else Text.findWord words true rest := by
  have hstarts {given : String} (hgiven : given ∈ words) :
      Text.startsWithWord given.toList (word ++ rest) = true ↔ given = String.ofList word := by
    rw [startsWithWord_iff (hwords given hgiven).isWordChar hname.isWordChar hrest,
      ← String.toList_inj, String.toList_ofList]
  have hfind : words.find? (fun given => Text.startsWithWord given.toList (word ++ rest)) =
      if String.ofList word ∈ words then some (String.ofList word) else none := by
    cases hfound : words.find? fun given => Text.startsWithWord given.toList (word ++ rest) with
    | none =>
        rw [if_neg]
        exact fun hmem => List.find?_eq_none.mp hfound _ hmem ((hstarts hmem).mpr rfl)
    | some given =>
        have hmem := List.mem_of_find?_eq_some hfound
        obtain ⟨hgiven, -⟩ := List.find?_eq_some_iff_append.mp hfound
        obtain rfl := (hstarts hmem).mp hgiven
        rw [if_pos hmem]
  obtain ⟨c, others, rfl⟩ := List.exists_cons_of_ne_nil hname.1
  obtain ⟨hc, hothers⟩ := List.forall_mem_cons.mp hname.isWordChar
  rw [List.cons_append] at hfind ⊢
  rw [Text.findWord, if_neg Bool.false_ne_true, hfind, hc, findWord_inside hothers]
  split_ifs <;> rfl

theorem findWord_blanks {inWord : Bool} (hwords : ∀ given ∈ words, IsName given.toList)
    (hblank : ∀ c ∈ rest, c = ' ') : Text.findWord words inWord rest = none := by
  induction rest generalizing inWord with
  | nil => rfl
  | cons c rest ih =>
      obtain ⟨rfl, hrest⟩ := List.forall_mem_cons.mp hblank
      rw [findWord_of_not_word (by decide) hwords]
      exact ih hrest

end FindWord

section Document

variable {depth : Depth} {cs : List Char}

theorem strip_code_of_free (h : ∀ c ∈ ['#', '"'], c ∉ cs) : strip .code cs = cs := by
  induction cs with
  | nil => simp [strip]
  | cons c cs ih =>
      have hhash : c ≠ '#' := fun hc => h '#' (by simp) (by simp [hc])
      have hquote : c ≠ '"' := fun hc => h '"' (by simp) (by simp [hc])
      rw [strip_code_cons hhash hquote, ih]
      exact fun d hd hmem => h d hd (List.mem_cons_of_mem c hmem)

/-- Inside braces only closing brackets leave something. -/
theorem outerText_selection (hdepth : 0 < depth.braces) (h : ∀ brace ∈ ['{', '}'], brace ∉ cs) :
    ∀ c ∈ outerText depth (cs ++ ['}']), c = ' ' := by
  induction cs generalizing depth with
  | nil => simp [outerText, Depth.kept]
  | cons c cs ih =>
      have hopen : c ≠ '{' := fun hc => h '{' (by simp) (by simp [hc])
      have hclose : c ≠ '}' := fun hc => h '}' (by simp) (by simp [hc])
      have hbraces : (depth.after c).braces = depth.braces := by
        unfold Depth.after
        split_ifs <;> simp_all
      have hkept : ∀ d ∈ depth.kept c, d = ' ' := by
        have hinside : depth ≠ .outside := by
          rintro rfl
          exact Nat.lt_irrefl 0 hdepth
        unfold Depth.kept
        split_ifs with hcloses hnothing
        · simp
        · simp
        · exact absurd (.inr (.inr hinside)) hnothing
      have hrest := ih (hbraces ▸ hdepth) fun brace hbrace hmem =>
        h brace hbrace (List.mem_cons_of_mem c hmem)
      rw [List.cons_append, outerText]
      exact fun d hd => (List.mem_append.mp hd).elim (hkept d) (hrest d)

variable {name definitions selection : String}

theorem toList_namedQuery (name definitions selection : String) :
    (namedQuery name definitions selection).toList =
      ("query".toList ++ ' ' :: (name.toList ++ [' '])) ++
        (('(' :: definitions.toList ++ [')']) ++
          ([' '] ++ ('{' :: (' ' :: (selection.toList ++ [' '])) ++ ['}']))) := by
  simp [namedQuery]

theorem bracket_not_mem_head (hname : IsName name.toList) :
    ∀ bracket ∈ ['{', '}', '(', ')'],
      bracket ∉ "query".toList ++ ' ' :: (name.toList ++ [' ']) := by
  have hquery : ∀ bracket ∈ ['{', '}', '(', ')'], bracket ≠ ' ' ∧ bracket ∉ "query".toList := by
    simp
  intro bracket hbracket hmem
  obtain ⟨hblank, hquery⟩ := hquery bracket hbracket
  have hword := bracket_not_mem_word hname.2.2 bracket hbracket
  rcases List.mem_append.mp hmem with hin | hin
  · exact hquery hin
  · simp [hblank, hword] at hin

theorem bracket_not_mem_definitions
    (hdefinitions : ∀ c ∈ ['"', '#', '{', '}', '(', ')'], c ∉ definitions.toList) :
    ∀ bracket ∈ ['{', '}', '(', ')'], bracket ∉ definitions.toList :=
  fun bracket hbracket =>
    hdefinitions bracket (List.mem_cons_of_mem _ (List.mem_cons_of_mem _ hbracket))

theorem balanced_namedQuery (hname : IsName name.toList)
    (hdefinitions : ∀ c ∈ ['"', '#', '{', '}', '(', ')'], c ∉ definitions.toList)
    (hbalanced : Balanced selection.toList) :
    Balanced (namedQuery name definitions selection).toList := by
  have hblank : Balanced [' '] := by decide
  have hhead := balanced_of_free (bracket_not_mem_head hname)
  have hparens := (balanced_of_free (bracket_not_mem_definitions hdefinitions)).enclose (.inr rfl)
  have hbraces := (hblank.append (hbalanced.append hblank)).enclose (.inl rfl)
  rw [toList_namedQuery]
  exact hhead.append (hparens.append (hblank.append hbraces))

theorem strip_namedQuery (hname : IsName name.toList)
    (hdefinitions : ∀ c ∈ ['"', '#', '{', '}', '(', ')'], c ∉ definitions.toList)
    (hselection : ∀ c ∈ ['"', '#', '{', '}'], c ∉ selection.toList) :
    strip .code (namedQuery name definitions selection).toList =
      (namedQuery name definitions selection).toList := by
  have hother : ∀ c ∈ ['#', '"'], isNameChar c = false ∧
      c ∈ ['"', '#', '{', '}', '(', ')'] ∧ c ∈ ['"', '#', '{', '}'] ∧
        c ∉ "query".toList ++ [' ', '(', ')', '{', '}'] := by
    simp [isNameChar]
  refine strip_code_of_free fun c hc hmem => ?_
  obtain ⟨hword, hin, hin', hframe⟩ := hother c hc
  have hname' : c ∉ name.toList := by
    intro hmem
    rw [hname.2.2 c hmem] at hword
    cases hword
  have hdefinitions' := hdefinitions c hin
  have hselection' := hselection c hin'
  simp_all [toList_namedQuery]

theorem outerText_namedQuery (hname : IsName name.toList)
    (hdefinitions : ∀ c ∈ ['"', '#', '{', '}', '(', ')'], c ∉ definitions.toList)
    (hselection : ∀ c ∈ ['"', '#', '{', '}'], c ∉ selection.toList) :
    ∃ blanks, (∀ c ∈ blanks, c = ' ') ∧
      outerText .outside (namedQuery name definitions selection).toList =
        "query".toList ++ ' ' :: (name.toList ++ ' ' :: blanks) := by
  have hbraces : ∀ brace ∈ ['{', '}'], brace ∉ ' ' :: (selection.toList ++ [' ']) := by
    have hblank : ∀ brace ∈ ['{', '}'], brace ≠ ' ' := by simp
    intro brace hbrace hmem
    refine hselection brace (List.mem_cons_of_mem _ (List.mem_cons_of_mem _ hbrace)) ?_
    simpa [hblank brace hbrace] using hmem
  have hdefined (rest : List Char) :
      outerText .outside (('(' :: definitions.toList ++ [')']) ++ rest) =
        ' ' :: outerText .outside rest := by
    change outerText ⟨0, 1⟩ ((definitions.toList ++ [')']) ++ rest) = _
    rw [List.append_assoc, outerText_free (bracket_not_mem_definitions hdefinitions),
      if_neg (by decide)]
    rfl
  refine ⟨' ' :: ' ' :: outerText ⟨1, 0⟩ (' ' :: (selection.toList ++ [' ']) ++ ['}']), ?_, ?_⟩
  · have hdepth : 0 < (Depth.mk 1 0).braces := Nat.one_pos
    have hblanks := outerText_selection hdepth hbraces
    exact List.forall_mem_cons.mpr ⟨rfl, List.forall_mem_cons.mpr ⟨rfl, hblanks⟩⟩
  · rw [toList_namedQuery, outerText_free (bracket_not_mem_head hname), if_pos rfl, hdefined]
    change _ ++ ' ' :: ' ' :: outerText ⟨1, 0⟩ _ = _
    simp

end Document

theorem inspect_of_topLevel {query top : List Char} (cursor : Bool)
    (hbrace : '{' ∈ strip .code query) (htop : topLevel 0 0 (strip .code query) = .ok top) :
    inspect query cursor =
      match Text.findWord forbiddenKeywords false top with
      | some keyword => .error (.notAQuery keyword)
      | none => if cursor then checkPagination (strip .code query) else .ok () := by
  simp only [inspect, List.contains_iff_mem.mpr hbrace, htop, bind, Except.bind]
  rfl

theorem isName_of_forbidden : ∀ keyword ∈ forbiddenKeywords, IsName keyword.toList := by
  decide

theorem findWord_query {word blanks : List Char} (hname : IsName word)
    (hblanks : ∀ c ∈ blanks, c = ' ') :
    Text.findWord forbiddenKeywords false ("query".toList ++ ' ' :: (word ++ ' ' :: blanks)) =
      if String.ofList word ∈ forbiddenKeywords then some (String.ofList word) else none := by
  have hnext {cs : List Char} : ∀ c ∈ (' ' :: cs).head?, Text.isWordChar c = false := by
    rintro c hc
    cases hc
    decide
  have hend : ∀ c ∈ ' ' :: blanks, c = ' ' := List.forall_mem_cons.mpr ⟨rfl, hblanks⟩
  rw [findWord_word isName_of_forbidden (by decide) hnext, if_neg (by decide),
    findWord_of_not_word (by decide) isName_of_forbidden,
    findWord_word isName_of_forbidden hname hnext, findWord_blanks isName_of_forbidden hend]

/-- A query without other faults is refused as a write operation if its name is a keyword
of one, and accepted if not. -/
theorem query_is_judged_by_name {name definitions selection : String}
    (hname : IsName name.toList)
    (hdefinitions : ∀ c ∈ ['"', '#', '{', '}', '(', ')'], c ∉ definitions.toList)
    (hselection : ∀ c ∈ ['"', '#', '{', '}'], c ∉ selection.toList)
    (hbalanced : Balanced selection.toList) :
    check (namedQuery name definitions selection) false =
      if name ∈ forbiddenKeywords then
        .error (.invalidValue "graphql_query"
          ("only query operations are supported, found '" ++ name ++ "'"))
      else .ok () := by
  have hstrip := strip_namedQuery hname hdefinitions hselection
  have hbrace : '{' ∈ (namedQuery name definitions selection).toList := by
    simp [toList_namedQuery]
  have hscan := topLevel_eq_ok_iff.mpr
    ⟨balanced_namedQuery hname hdefinitions hbalanced, rfl⟩
  obtain ⟨blanks, hblanks, htext⟩ := outerText_namedQuery hname hdefinitions hselection
  have hfound := findWord_query hname hblanks
  have houter : outerText .outside (namedQuery name definitions selection).toList = _ :=
    topLevel_eq_outerText hscan
  rw [← htext, houter, String.ofList_toList] at hfound
  rw [← hstrip] at hbrace hscan
  rw [check, inspect_of_topLevel false hbrace hscan, hstrip, hfound]
  by_cases hkeyword : name ∈ forbiddenKeywords
  · simp only [if_pos hkeyword]
    rfl
  · simp only [if_neg hkeyword]
    rfl

theorem query_named_after_mutation_is_accepted :
    IsName "mutations".toList ∧
      (∀ c ∈ ['"', '#', '{', '}', '(', ')'], c ∉ "$mutation: Int".toList) ∧
      (∀ c ∈ ['"', '#', '{', '}'], c ∉ "mutation(first: $mutation)".toList) ∧
      Balanced "mutation(first: $mutation)".toList ∧
      check (namedQuery "mutations" "$mutation: Int" "mutation(first: $mutation)") false =
        .ok () := by
  have hname : IsName "mutations".toList := by decide
  have hdefinitions : ∀ c ∈ ['"', '#', '{', '}', '(', ')'], c ∉ "$mutation: Int".toList := by
    simp
  have hselection : ∀ c ∈ ['"', '#', '{', '}'], c ∉ "mutation(first: $mutation)".toList := by
    simp
  have hbalanced : Balanced "mutation(first: $mutation)".toList := by decide +kernel
  have hother : "mutations" ∉ forbiddenKeywords := by decide +kernel
  have hcheck := query_is_judged_by_name hname hdefinitions hselection hbalanced
  rw [if_neg hother] at hcheck
  exact ⟨hname, hdefinitions, hselection, hbalanced, hcheck⟩

/-- A query named as a keyword is refused, though it writes nothing. -/
theorem query_named_mutation_is_refused :
    IsName "mutation".toList ∧
      (∀ c ∈ ['"', '#', '{', '}', '(', ')'], c ∉ "$n: Int".toList) ∧
      (∀ c ∈ ['"', '#', '{', '}'], c ∉ "users(first: $n)".toList) ∧
      Balanced "users(first: $n)".toList ∧
      check (namedQuery "mutation" "$n: Int" "users(first: $n)") false =
        .error (.invalidValue "graphql_query"
          "only query operations are supported, found 'mutation'") :=
  ⟨by decide, by simp, by simp, by decide +kernel, by decide +kernel⟩

end PageHarvest.Query
