import Mathlib.Tactic.Common
import PageHarvest.Settings.Active

/-!
What the pass over the schema finds. A setting counts if its conditions hold for
the values in effect, the defaults of the schema included. The pass finds exactly
the values of the settings that count, because a condition names an earlier row
that has none itself: its value was found before it is asked for. So two
configurations that agree on the settings that count lead to the same values, or
to the same error.
-/

namespace PageHarvest.Settings

namespace Configuration

def inEffect? (c : Configuration) (name : String) : Option Json :=
  (c.valueOf? name).or ((row? name).bind Row.default)

def textInEffect? (c : Configuration) (name : String) : Option String :=
  (c.inEffect? name).map valueText

/-- All conditions of the row hold for the values in effect. -/
def Counts (c : Configuration) (row : Row) : Prop :=
  ∀ d ∈ row.dependsOn, c.textInEffect? d.1 = some d.2

end Configuration

theorem row?_name : ∀ row ∈ rows, row? row.name = some row := by
  simp only [rows, List.forall_mem_cons]
  repeat' constructor
  simp

theorem mem_of_row? {name : String} {row : Row} (hrow : row? name = some row) :
    row ∈ rows ∧ row.name = name := by
  refine ⟨List.mem_of_find?_eq_some hrow, ?_⟩
  simpa using List.find?_some hrow

/-- After the rows that are done, every row has a name of its own, and its
conditions are on rows without conditions that come before it. -/
def Ordered (done : List Row) : List Row → Prop
  | [] => True
  | row :: rest =>
      row.name ∉ done.map Row.name ∧
        (∀ d ∈ row.dependsOn, ∃ earlier ∈ done, earlier.name = d.1 ∧ earlier.dependsOn = []) ∧
        Ordered (done ++ [row]) rest

theorem rows_ordered : Ordered [] rows := by
  simp [Ordered, rows]

theorem inEffect?_of_mem (c : Configuration) {row : Row} (hrow : row ∈ rows) :
    c.inEffect? row.name = (c.valueOf? row.name).or row.default := by
  simp [Configuration.inEffect?, row?_name row hrow]

variable {c d : Configuration} {active next last : ActiveValues} {row : Row} {done rest : List Row}

/-- A row whose conditions fail is passed over. Any other row adds the value in
effect, if there is one; it has to be one of the choices, and it may be absent only
where the row is not required. -/
theorem withRow_ok (hrow : row ∈ rows) (h : withRow c active row = .ok next) :
    (active.satisfies row = false ∧ next = active) ∨
      active.satisfies row = true ∧
        ((c.inEffect? row.name = none ∧ row.required = false ∧ next = active) ∨
          ∃ value, c.inEffect? row.name = some value ∧ offers row value = true ∧
            next = active ++ [(row.name, value)]) := by
  rw [inEffect?_of_mem c hrow]
  unfold withRow at h
  split at h
  · rename_i hsatisfies
    cases h
    exact .inl ⟨by simpa using hsatisfies, rfl⟩
  · rename_i hsatisfies
    refine .inr ⟨by simpa using hsatisfies, ?_⟩
    split at h
    · rename_i hnone
      split at h
      · cases h
      · rename_i hrequired
        cases h
        exact .inl ⟨hnone, by simpa using hrequired, rfl⟩
    · rename_i value hvalue
      split at h
      · rename_i hoffers
        cases h
        exact .inr ⟨value, hvalue, hoffers, rfl⟩
      · cases h

theorem withRow_congr (hrow : row ∈ rows)
    (hagree : active.satisfies row = true → d.inEffect? row.name = c.inEffect? row.name) :
    withRow d active row = withRow c active row := by
  rw [inEffect?_of_mem d hrow, inEffect?_of_mem c hrow] at hagree
  cases hsatisfies : active.satisfies row with
  | false => simp [withRow, hsatisfies]
  | true => simp [withRow, hsatisfies, hagree hsatisfies]

/-- The value in effect is one of the choices, and is there if it has to be. -/
def Configuration.Admits (c : Configuration) (row : Row) : Prop :=
  match c.inEffect? row.name with
  | none => row.required = false
  | some value => offers row value = true

/-- The values found are those in effect for the rows that are done and count, and
each of these rows admits its value. -/
structure Passed (c : Configuration) (done : List Row) (active : ActiveValues) : Prop where
  get?_eq_some_iff : ∀ name value, active.get? name = some value ↔
    ∃ row ∈ done, row.name = name ∧ c.Counts row ∧ c.inEffect? name = some value
  admits : ∀ row ∈ done, c.Counts row → c.Admits row

theorem passed_nil (c : Configuration) : Passed c [] [] where
  get?_eq_some_iff := by simp [ActiveValues.get?]
  admits := by simp

theorem Passed.satisfies_iff (h : Passed c done active)
    (hconditions : ∀ d ∈ row.dependsOn, ∃ earlier ∈ done,
      earlier.name = d.1 ∧ earlier.dependsOn = []) :
    active.satisfies row = true ↔ c.Counts row := by
  have hget : ∀ d ∈ row.dependsOn, active.get? d.1 = c.inEffect? d.1 := by
    intro d hd
    obtain ⟨earlier, hearlier, hname, hfree⟩ := hconditions d hd
    have hcounts : c.Counts earlier := by simp [Configuration.Counts, hfree]
    apply Option.ext
    intro value
    rw [h.get?_eq_some_iff]
    constructor
    · rintro ⟨-, -, -, -, hvalue⟩
      exact hvalue
    · intro hvalue
      exact ⟨earlier, hearlier, hname, hcounts, hvalue⟩
  simp only [ActiveValues.satisfies, List.all_eq_true, beq_iff_eq, Configuration.Counts]
  refine forall₂_congr fun d hd => ?_
  rw [ActiveValues.getText?, hget d hd, Configuration.textInEffect?]

theorem Passed.get?_eq_none (h : Passed c done active) {name : String}
    (hfresh : name ∉ done.map Row.name) : active.get? name = none := by
  apply Option.eq_none_iff_forall_ne_some.mpr
  intro value hvalue
  obtain ⟨earlier, hearlier, hname, -, -⟩ := (h.get?_eq_some_iff name value).mp hvalue
  exact hfresh (List.mem_map.mpr ⟨earlier, hearlier, hname⟩)

theorem Passed.get?_append (h : Passed c done active) (hfresh : row.name ∉ done.map Row.name)
    (value : Json) (name : String) :
    ActiveValues.get? (active ++ [(row.name, value)]) name =
      if row.name = name then some value else active.get? name := by
  have hnone := h.get?_eq_none hfresh
  unfold ActiveValues.get? at hnone ⊢
  rw [List.lookup_append]
  by_cases hname : row.name = name
  · subst hname
    simp [hnone]
  · have hother : (name == row.name) = false := by simpa using Ne.symm hname
    simp [List.lookup_cons, hother, hname]

theorem Passed.step (h : Passed c done active) (hrow : row ∈ rows)
    (hfresh : row.name ∉ done.map Row.name)
    (hconditions : ∀ d ∈ row.dependsOn, ∃ earlier ∈ done,
      earlier.name = d.1 ∧ earlier.dependsOn = [])
    (hok : withRow c active row = .ok next) : Passed c (done ++ [row]) next := by
  have hcounts := h.satisfies_iff hconditions
  -- The rows that are done keep their values, so only the new row is looked at.
  suffices hnew : (∀ name value, next.get? name = some value ↔
      active.get? name = some value ∨
        row.name = name ∧ c.Counts row ∧ c.inEffect? name = some value) ∧
      (c.Counts row → c.Admits row) by
    obtain ⟨hget, hadmits⟩ := hnew
    constructor
    · intro name value
      rw [hget, h.get?_eq_some_iff]
      simp [or_and_right, exists_or]
    · intro other hother
      rcases List.mem_append.mp hother with hother | hother
      · exact h.admits other hother
      · rw [List.mem_singleton.mp hother]
        exact hadmits
  obtain ⟨hfails, rfl⟩ | ⟨hholds, ⟨hnone, hrequired, rfl⟩ | ⟨value, hvalue, hoffers, rfl⟩⟩ :=
    withRow_ok hrow hok
  · have hidle : ¬ c.Counts row := by
      rw [← hcounts, hfails]
      simp
    simp [hidle]
  · refine ⟨?_, ?_⟩
    · intro name value
      constructor
      · exact .inl
      · rintro (hfound | ⟨rfl, -, hvalue⟩)
        · exact hfound
        · rw [hnone] at hvalue
          cases hvalue
    · intro _
      simpa [Configuration.Admits, hnone] using hrequired
  · have hcount : c.Counts row := hcounts.mp hholds
    refine ⟨?_, ?_⟩
    · intro name other
      rw [h.get?_append hfresh]
      by_cases hname : row.name = name
      · subst hname
        simp [hvalue, hcount, h.get?_eq_none hfresh]
      · simp [hname]
    · intro _
      simpa [Configuration.Admits, hvalue] using hoffers

theorem Passed.run (h : Passed c done active) (hrows : rest ⊆ rows) (hordered : Ordered done rest)
    (hok : withRows c active rest = .ok last) : Passed c (done ++ rest) last := by
  induction rest generalizing done active with
  | nil =>
      cases hok
      simpa using h
  | cons row rest ih =>
      obtain ⟨hfresh, hconditions, hlater⟩ := hordered
      obtain ⟨hrow, hrest⟩ := List.cons_subset.mp hrows
      cases hstep : withRow c active row with
      | error e => simp [withRows, hstep, bind, Except.bind] at hok
      | ok next =>
          have hnext : withRows c next rest = .ok last := by
            simpa [withRows, hstep, bind, Except.bind] using hok
          simpa using ih (h.step hrow hfresh hconditions hstep) hrest hlater hnext

/-- The pass finds the values in effect for the settings that count, and only
these. -/
theorem Configuration.activeValues_passed (h : c.activeValues = .ok active) :
    Passed c rows active :=
  (passed_nil c).run (List.Subset.refl rows) rows_ordered h

namespace Passed

variable {name : String}

theorem get?_of_counts (h : Passed c rows active) (hrow : row? name = some row)
    (hcounts : c.Counts row) : active.get? name = c.inEffect? name := by
  obtain ⟨hmem, hname⟩ := mem_of_row? hrow
  apply Option.ext
  intro value
  rw [h.get?_eq_some_iff]
  constructor
  · rintro ⟨-, -, -, -, hvalue⟩
    exact hvalue
  · intro hvalue
    exact ⟨row, hmem, hname, hcounts, hvalue⟩

theorem get?_of_not_counts (h : Passed c rows active) (hrow : row? name = some row)
    (hidle : ¬ c.Counts row) : active.get? name = none := by
  apply Option.eq_none_iff_forall_ne_some.mpr
  intro value hvalue
  obtain ⟨other, hother, rfl, hcounts, -⟩ := (h.get?_eq_some_iff name value).mp hvalue
  rw [row?_name other hother] at hrow
  cases hrow
  exact hidle hcounts

theorem getText?_of_counts (h : Passed c rows active) (hrow : row? name = some row)
    (hcounts : c.Counts row) : active.getText? name = c.textInEffect? name := by
  rw [ActiveValues.getText?, h.get?_of_counts hrow hcounts, Configuration.textInEffect?]

/-- A setting that counts and is required has a value. -/
theorem exists_inEffect? (h : Passed c rows active) (hrow : row? name = some row)
    (hcounts : c.Counts row) (hrequired : row.required = true) :
    ∃ value, c.inEffect? name = some value ∧ offers row value = true := by
  obtain ⟨hmem, rfl⟩ := mem_of_row? hrow
  have hadmits := h.admits row hmem hcounts
  unfold Configuration.Admits at hadmits
  split at hadmits
  · rw [hrequired] at hadmits
    cases hadmits
  · rename_i value hvalue
    exact ⟨value, hvalue, hadmits⟩

end Passed

theorem Passed.withRows_congr (h : Passed c done active) (hrows : rest ⊆ rows)
    (hordered : Ordered done rest)
    (hagree : ∀ row ∈ rows, c.Counts row → d.inEffect? row.name = c.inEffect? row.name) :
    withRows d active rest = withRows c active rest := by
  induction rest generalizing done active with
  | nil => rfl
  | cons row rest ih =>
      obtain ⟨hfresh, hconditions, hlater⟩ := hordered
      obtain ⟨hrow, hrest⟩ := List.cons_subset.mp hrows
      have hsame : withRow d active row = withRow c active row := by
        apply withRow_congr hrow
        intro hsatisfies
        exact hagree row hrow ((h.satisfies_iff hconditions).mp hsatisfies)
      cases hstep : withRow c active row with
      | error e => simp [withRows, hsame, hstep, bind, Except.bind]
      | ok next =>
          have hnext := ih (h.step hrow hfresh hconditions hstep) hrest hlater
          simpa [withRows, hsame, hstep, bind, Except.bind] using hnext

/-- Two configurations with the same values in effect for the settings that count in
one of them pass alike. -/
theorem Configuration.activeValues_congr
    (hagree : ∀ row ∈ rows, c.Counts row → d.inEffect? row.name = c.inEffect? row.name) :
    d.activeValues = c.activeValues :=
  (passed_nil c).withRows_congr (List.Subset.refl rows) rows_ordered hagree

namespace Sample

def entered : List (String × Json) := [
  ("http_endpoint", .string "https://api.example.com/graphql"),
  ("authentication_method", .string " basic "),
  ("username", .nat 42),
  ("password", .string " secret "),
  ("graphql_query", .string "\x7b users \x7b id \x7d \x7d"),
  ("graphql_object_to_id_map", .object [("users", .string " id ")])]

def configuration : Configuration :=
  entered.foldl (fun c entry => c.setValue entry.1 entry.2) .default

end Sample

end PageHarvest.Settings
