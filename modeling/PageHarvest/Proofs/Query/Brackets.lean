import Mathlib.Data.List.Infix
import PageHarvest.Proofs.Query.Positions
import PageHarvest.Proofs.Query.WriteOperations

/-!
The scan for the text outside all brackets, seen from the numbers of brackets. It keeps
two counts, and these are what the closing brackets of each kind fall short of the
opening ones in the text that it has passed. So it succeeds on the texts in which no
closing bracket comes too early and none is missing at the end, and where it fails, it
names the first one that comes too early or else a bracket that is still open.
-/

namespace PageHarvest.Query

/-- Of neither kind are there more closing brackets than opening ones. -/
structure Covered (text : List Char) : Prop where
  braces : text.count '}' ≤ text.count '{'
  parens : text.count ')' ≤ text.count '('

/-- Of each kind there are as many closing brackets as opening ones. -/
structure Closed (text : List Char) : Prop where
  braces : text.count '}' = text.count '{'
  parens : text.count ')' = text.count '('

/-- No closing bracket comes too early. -/
def Paired (text : List Char) : Prop := ∀ start, start <+: text → Covered start

structure Balanced (text : List Char) : Prop where
  paired : Paired text
  closed : Closed text

instance (text : List Char) : Decidable (Covered text) :=
  decidable_of_iff (text.count '}' ≤ text.count '{' ∧ text.count ')' ≤ text.count '(')
    ⟨fun h => ⟨h.1, h.2⟩, fun h => ⟨h.braces, h.parens⟩⟩

instance (text : List Char) : Decidable (Closed text) :=
  decidable_of_iff (text.count '}' = text.count '{' ∧ text.count ')' = text.count '(')
    ⟨fun h => ⟨h.1, h.2⟩, fun h => ⟨h.braces, h.parens⟩⟩

instance (text : List Char) : Decidable (Paired text) :=
  decidable_of_iff (∀ start ∈ text.inits, Covered start) (by simp [Paired])

instance (text : List Char) : Decidable (Balanced text) :=
  decidable_of_iff (Paired text ∧ Closed text)
    ⟨fun h => ⟨h.1, h.2⟩, fun h => ⟨h.paired, h.closed⟩⟩

/-- What is left of a character, given the text before it: a blank of a closing bracket,
nothing of an opening one, and any other character if no bracket is open there. -/
def remnant (before : List Char) (c : Char) : List Char :=
  if c = '}' ∨ c = ')' then [' ']
  else if c = '{' ∨ c = '(' then []
  else if Closed before then [c]
  else []

/-- What is left of the characters of a text from a position on. -/
def remnantsFrom (text : List Char) (position : Nat) : List Char :=
  ((text.drop position).zipIdx position).flatMap fun entry =>
    remnant (text.take entry.2) entry.1

/-- The bracket that is at fault for a text that is not balanced: the first closing one
that comes too early, or else the opening one of a kind that is not closed. -/
inductive AtFault (text : List Char) : Char → Prop
  | early {before after : List Char} {c : Char} (split : text = before ++ c :: after)
      (paired : Paired before) (uncovered : ¬ Covered (before ++ [c])) : AtFault text c
  | brace (paired : Paired text) (opens : text.count '}' < text.count '{') : AtFault text '{'
  | paren (paired : Paired text) (closes : text.count '}' = text.count '{')
      (opens : text.count ')' < text.count '(') : AtFault text '('

variable {text before rest : List Char} {depth : Depth} {c : Char}

theorem Closed.covered (h : Closed text) : Covered text := ⟨h.braces.le, h.parens.le⟩

theorem paired_nil : Paired [] := by
  intro start hstart
  rw [List.prefix_nil.mp hstart]
  decide

theorem paired_concat (h : Paired before) (hc : Covered (before ++ [c])) :
    Paired (before ++ [c]) := by
  intro start hstart
  obtain rfl | hstart := List.prefix_concat_iff.mp hstart
  · exact hc
  · exact h start hstart

theorem balanced_of_free (h : ∀ bracket ∈ ['{', '}', '(', ')'], bracket ∉ text) :
    Balanced text := by
  have hnone {start : List Char} (hstart : start <+: text) {bracket : Char}
      (hbracket : bracket ∈ ['{', '}', '(', ')']) : start.count bracket = 0 :=
    List.count_eq_zero.mpr fun hmem => h bracket hbracket (hstart.subset hmem)
  have hclosed {start : List Char} (hstart : start <+: text) : Closed start :=
    ⟨by rw [hnone hstart (by simp), hnone hstart (by simp)],
      by rw [hnone hstart (by simp), hnone hstart (by simp)]⟩
  exact ⟨fun start hstart => (hclosed hstart).covered, hclosed (List.prefix_refl text)⟩

theorem Balanced.append {other : List Char} (h : Balanced text) (h' : Balanced other) :
    Balanced (text ++ other) := by
  have hbraces := h.closed.braces
  have hparens := h.closed.parens
  constructor
  · intro start hstart
    have hwhole : text <+: text ++ other := List.prefix_append text other
    rcases List.prefix_or_prefix_of_prefix hstart hwhole with hin | ⟨q, rfl⟩
    · exact h.paired start hin
    · have hcovered := h'.paired q ((List.prefix_append_right_inj text).mp hstart)
      have hbraces' := hcovered.braces
      have hparens' := hcovered.parens
      constructor <;> simp only [List.count_append] <;> omega
  · have hbraces' := h'.closed.braces
    have hparens' := h'.closed.parens
    constructor <;> simp only [List.count_append] <;> omega

/-- A balanced text in brackets is balanced. -/
theorem Balanced.enclose {opening closing : Char}
    (hkind : (opening, closing) = ('{', '}') ∨ (opening, closing) = ('(', ')'))
    (h : Balanced text) : Balanced (opening :: text ++ [closing]) := by
  have hclosed : Closed (opening :: text ++ [closing]) := by
    have hbraces := h.closed.braces
    have hparens := h.closed.parens
    rcases hkind with hkind | hkind <;> cases hkind <;> constructor <;> simp <;> omega
  refine ⟨fun start hstart => ?_, hclosed⟩
  obtain rfl | hstart := List.prefix_concat_iff.mp hstart
  · exact hclosed.covered
  · obtain rfl | ⟨q, rfl, hq⟩ := List.prefix_cons_iff.mp hstart
    · decide
    · have hbraces := (h.paired q hq).braces
      have hparens := (h.paired q hq).parens
      rcases hkind with hkind | hkind <;> cases hkind <;> constructor <;> simp <;> omega

/-- The brackets of a text that are not closed. -/
structure Depth.Counts (depth : Depth) (before : List Char) : Prop where
  braces : before.count '{' = before.count '}' + depth.braces
  parens : before.count '(' = before.count ')' + depth.parens

theorem count_concat (bracket c : Char) (before : List Char) :
    (before ++ [c]).count bracket = before.count bracket + if c = bracket then 1 else 0 := by
  simp [List.count_append, List.count_singleton]

/-- After one more character the closing brackets of a kind still do not exceed the
opening ones, unless it closes where none is open. -/
theorem count_concat_le_iff {opening closing : Char} {unclosed : Nat} (hne : closing ≠ opening)
    (h : before.count opening = before.count closing + unclosed) (c : Char) :
    (before ++ [c]).count closing ≤ (before ++ [c]).count opening ↔
      (c = closing → unclosed ≠ 0) := by
  rw [count_concat, count_concat]
  by_cases hc : c = closing
  · simp only [hc, if_pos, if_neg hne, forall_const]
    omega
  · simp only [hc, if_false, false_imp_iff, iff_true]
    omega

namespace Depth.Counts

theorem nil : outside.Counts [] := ⟨rfl, rfl⟩

theorem closed_iff (h : depth.Counts before) : Closed before ↔ depth = outside := by
  obtain ⟨braces, parens⟩ := depth
  have hbraces := h.braces
  have hparens := h.parens
  simp only [outside, mk.injEq] at hbraces hparens ⊢
  constructor
  · rintro ⟨hclosed, hclosed'⟩
    omega
  · rintro ⟨rfl, rfl⟩
    exact ⟨hbraces.symm, hparens.symm⟩

theorem covered_concat_iff (h : depth.Counts before) (c : Char) :
    Covered (before ++ [c]) ↔ depth.HasPartner c := by
  have hbraces := count_concat_le_iff (by decide) h.braces c
  have hparens := count_concat_le_iff (by decide) h.parens c
  constructor
  · rintro ⟨hbrace, hparen⟩
    exact ⟨hbraces.mp hbrace, hparens.mp hparen⟩
  · rintro ⟨hbrace, hparen⟩
    exact ⟨hbraces.mpr hbrace, hparens.mpr hparen⟩

theorem after (h : depth.Counts before) (hpartner : depth.HasPartner c) :
    (depth.after c).Counts (before ++ [c]) := by
  obtain ⟨hbraces, hparens⟩ := h
  obtain ⟨hbrace, hparen⟩ := hpartner
  unfold Depth.after
  split_ifs with hopens hopens' hcloses hcloses'
  · subst hopens
    constructor <;> simp <;> omega
  · subst hopens'
    constructor <;> simp <;> omega
  · subst hcloses
    have hopen := hbrace rfl
    constructor <;> simp <;> omega
  · subst hcloses'
    have hopen := hparen rfl
    constructor <;> simp <;> omega
  · constructor <;> simp [*]

theorem kept (h : depth.Counts before) (c : Char) : depth.kept c = remnant before c := by
  unfold Depth.kept remnant
  simp only [h.closed_iff]
  split_ifs <;> simp_all

end Depth.Counts

def Judges (text : List Char) (position : Nat) : Except Problem (List Char) → Prop
  | .ok top => Balanced text ∧ top = remnantsFrom text position
  | .error problem => ∃ bracket, problem = .unbalanced bracket ∧ AtFault text bracket

theorem remnantsFrom_append_cons (before : List Char) (c : Char) (rest : List Char) :
    remnantsFrom (before ++ c :: rest) before.length =
      remnant before c ++ remnantsFrom (before ++ c :: rest) (before.length + 1) := by
  simp [remnantsFrom, ← List.drop_drop]

theorem judges_topLevel (hcounts : depth.Counts before) (hpaired : Paired before) :
    Judges (before ++ rest) before.length (topLevel depth.braces depth.parens rest) := by
  induction rest generalizing before depth with
  | nil =>
      have hbraces := hcounts.braces
      have hparens := hcounts.parens
      rw [topLevel, List.append_nil]
      split_ifs with hbrace hparen
      · exact ⟨'{', rfl, .brace hpaired (by omega)⟩
      · exact ⟨'(', rfl, .paren hpaired (by omega) (by omega)⟩
      · exact ⟨⟨hpaired, ⟨by omega, by omega⟩⟩, by simp [remnantsFrom]⟩
  | cons c rest ih =>
      rw [topLevel_cons_eq]
      split_ifs with hpartner
      · have hcovered := (hcounts.covered_concat_iff c).mpr hpartner
        have hrest := ih (hcounts.after hpartner) (paired_concat hpaired hcovered)
        rw [List.append_assoc, List.singleton_append, List.length_append,
          List.length_singleton] at hrest
        cases hscan : topLevel (depth.after c).braces (depth.after c).parens rest with
        | error problem =>
            rw [hscan] at hrest
            exact hrest
        | ok top =>
            rw [hscan] at hrest
            obtain ⟨hbalanced, rfl⟩ := hrest
            refine ⟨hbalanced, ?_⟩
            rw [remnantsFrom_append_cons, hcounts.kept]
      · exact ⟨c, rfl, .early rfl hpaired (mt (hcounts.covered_concat_iff c).mp hpartner)⟩

theorem judges_text (text : List Char) : Judges text 0 (topLevel 0 0 text) :=
  judges_topLevel Depth.Counts.nil paired_nil

theorem not_paired_of_early {after : List Char} (hsplit : text = before ++ c :: after)
    (huncovered : ¬ Covered (before ++ [c])) : ¬ Paired text := by
  intro hpaired
  refine huncovered (hpaired _ ⟨after, ?_⟩)
  rw [hsplit, List.append_assoc, List.singleton_append]

theorem AtFault.not_balanced {bracket : Char} (h : AtFault text bracket) : ¬ Balanced text := by
  rintro ⟨hpaired, hclosed⟩
  cases h with
  | early split paired uncovered => exact not_paired_of_early split uncovered hpaired
  | brace paired opens => exact opens.ne hclosed.braces
  | paren paired closes opens => exact opens.ne hclosed.parens

/-- The scan succeeds on the balanced texts and leaves their remnants. -/
theorem topLevel_eq_ok_iff {top : List Char} :
    topLevel 0 0 text = .ok top ↔ Balanced text ∧ top = remnantsFrom text 0 := by
  have hjudges := judges_text text
  cases hscan : topLevel 0 0 text with
  | ok found =>
      rw [hscan] at hjudges
      obtain ⟨hbalanced, rfl⟩ := hjudges
      simp [hbalanced, eq_comm]
  | error problem =>
      rw [hscan] at hjudges
      obtain ⟨bracket, -, hfault⟩ := hjudges
      simp [hfault.not_balanced]

/-- What comes before a bracket that is at fault early is no longer than what comes
before another one, for all of the latter is paired. -/
theorem length_le_of_early {before before' after after' : List Char} {c c' : Char}
    (hsplit : before ++ c :: after = before' ++ c' :: after') (hpaired : Paired before')
    (huncovered : ¬ Covered (before ++ [c])) : before'.length ≤ before.length := by
  by_contra hlonger
  refine huncovered (hpaired _ ?_)
  have hstart : before ++ [c] <+: before' ++ c' :: after' :=
    ⟨after, by rw [← hsplit, List.append_assoc, List.singleton_append]⟩
  have hlength : (before ++ [c]).length ≤ before'.length := by
    rw [List.length_append, List.length_singleton]
    omega
  exact List.prefix_of_prefix_length_le hstart (List.prefix_append before' _) hlength

theorem AtFault.unique {bracket bracket' : Char} (h : AtFault text bracket)
    (h' : AtFault text bracket') : bracket = bracket' := by
  cases h with
  | early split paired uncovered =>
      cases h' with
      | early split' paired' uncovered' =>
          have hsame := split.symm.trans split'
          have hlength := Nat.le_antisymm (length_le_of_early hsame.symm paired uncovered')
            (length_le_of_early hsame paired' uncovered)
          exact (List.cons.inj (List.append_inj hsame hlength).2).1
      | brace paired' => exact absurd paired' (not_paired_of_early split uncovered)
      | paren paired' => exact absurd paired' (not_paired_of_early split uncovered)
  | brace paired opens =>
      cases h' with
      | early split' paired' uncovered' =>
          exact absurd paired (not_paired_of_early split' uncovered')
      | brace => rfl
      | paren paired' closes' => exact absurd closes' opens.ne
  | paren paired closes opens =>
      cases h' with
      | early split' paired' uncovered' =>
          exact absurd paired (not_paired_of_early split' uncovered')
      | brace paired' opens' => exact absurd closes opens'.ne
      | paren => rfl

/-- The scan fails where a bracket is at fault, and names it. -/
theorem topLevel_eq_error_iff {problem : Problem} :
    topLevel 0 0 text = .error problem ↔
      ∃ bracket, problem = .unbalanced bracket ∧ AtFault text bracket := by
  have hjudges := judges_text text
  cases hscan : topLevel 0 0 text with
  | ok found =>
      rw [hscan] at hjudges
      simp only [reduceCtorEq, false_iff, not_exists, not_and]
      exact fun bracket _ hfault => hfault.not_balanced hjudges.1
  | error found =>
      rw [hscan] at hjudges
      obtain ⟨bracket, rfl, hfault⟩ := hjudges
      rw [Except.error.injEq]
      constructor
      · rintro rfl
        exact ⟨bracket, rfl, hfault⟩
      · rintro ⟨bracket', rfl, hfault'⟩
        rw [hfault.unique hfault']

/-- A document with a bracket at fault is refused for it, if it has an opening brace. -/
theorem check_of_atFault {query : String} {bracket : Char} (cursor : Bool)
    (hbrace : '{' ∈ strip .code query.toList) (h : AtFault (strip .code query.toList) bracket) :
    check query cursor =
      .error (.invalidValue "graphql_query" ("unbalanced '" ++ bracket.toString ++ "'")) := by
  have hscan := topLevel_eq_error_iff.mpr ⟨bracket, rfl, h⟩
  have hinspect : inspect query.toList cursor = .error (.unbalanced bracket) := by
    simp [inspect, hbrace, hscan, bind, Except.bind]
  rw [check, hinspect]
  rfl

/-- Stripping a document by positions comes to an end without a read out of range. In
what it leaves, the scan finds the text outside all brackets if these are balanced, and
else the bracket that is at fault. -/
theorem bracket_scan_is_exact (query : String) :
    Scan.start.run query.toList (2 * query.toList.length + 1) =
        .ok (some (strip .code query.toList)) ∧
      (∀ top, topLevel 0 0 (strip .code query.toList) = .ok top ↔
        Balanced (strip .code query.toList) ∧
          top = remnantsFrom (strip .code query.toList) 0) ∧
      (∀ problem, topLevel 0 0 (strip .code query.toList) = .error problem ↔
        ∃ bracket, problem = .unbalanced bracket ∧
          AtFault (strip .code query.toList) bracket) ∧
      ∀ bracket cursor, '{' ∈ strip .code query.toList →
        AtFault (strip .code query.toList) bracket →
        check query cursor =
          .error (.invalidValue "graphql_query" ("unbalanced '" ++ bracket.toString ++ "'")) :=
  ⟨Scan.run_start query.toList, fun _ => topLevel_eq_ok_iff, fun _ => topLevel_eq_error_iff,
    fun _ cursor hbrace hfault => check_of_atFault cursor hbrace hfault⟩

/-- A query with a parenthesis that is closed twice. The one in the string does not count. -/
def Sample.closedTwice : String := "\x7b a(b: \"(\") ) \x7d"

theorem second_close_is_named :
    '{' ∈ strip .code Sample.closedTwice.toList ∧
      AtFault (strip .code Sample.closedTwice.toList) ')' ∧
      check Sample.closedTwice false =
        .error (.invalidValue "graphql_query" "unbalanced ')'") := by
  have hbrace : '{' ∈ strip .code Sample.closedTwice.toList := by decide +kernel
  have hsplit : strip .code Sample.closedTwice.toList =
      "\x7b a(b:  ) ".toList ++ ')' :: " \x7d".toList := by
    decide +kernel
  have hfault : AtFault (strip .code Sample.closedTwice.toList) ')' :=
    .early hsplit (by decide +kernel) (by decide +kernel)
  obtain ⟨-, -, -, hcheck⟩ := bracket_scan_is_exact Sample.closedTwice
  exact ⟨hbrace, hfault, hcheck ')' false hbrace hfault⟩

end PageHarvest.Query
