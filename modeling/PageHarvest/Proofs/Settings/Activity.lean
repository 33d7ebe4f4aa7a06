import PageHarvest.Proofs.Settings.Active

/-!
The rule by which settings count, said without the pass over the schema. A setting
is active if each of its conditions is on a setting that is active itself and has
the wanted text in effect. The pass accepts a configuration exactly if no active
setting offends, finds the values in effect of the active settings, and otherwise
complains of the first of the settings that offend.
-/

namespace PageHarvest.Settings

namespace Configuration

/-- A setting of the schema is active as far as its conditions are on active
settings with the texts that they ask for. -/
inductive Active (c : Configuration) : String → Prop where
  | of_conditions {name : String} {row : Row} (hrow : row? name = some row)
      (hactive : ∀ d ∈ row.dependsOn, Active c d.1)
      (htext : ∀ d ∈ row.dependsOn, c.textInEffect? d.1 = some d.2) : Active c name

/-- The value in effect is there if it is required, and is one of the choices if
there are any. -/
def Complies (c : Configuration) (row : Row) : Prop :=
  (row.required = true → ∃ value, c.inEffect? row.name = some value) ∧
    (row.options ≠ [] →
      ∃ value, c.inEffect? row.name = some value ∧ valueText value ∈ row.options.map Choice.value)

/-- An active setting without the value that it must have. -/
def Offends (c : Configuration) (row : Row) : Prop := c.Active row.name ∧ ¬ c.Complies row

/-- The error for a setting that offends: a value that is absent is missing as such,
or on the conditions of the setting, and one that is there is no choice. -/
def complaint (c : Configuration) (row : Row) : Error :=
  match c.inEffect? row.name, row.dependsOn with
  | none, [] => .missingField row.name
  | none, conditions =>
      .missingDependency row.name
        (" and ".intercalate (conditions.map fun d => d.1 ++ "=" ++ d.2))
  | some value, _ =>
      .invalidOption row.name (valueText value) (", ".intercalate (row.options.map Choice.value))

end Configuration

theorem Ordered.conditions {done rest : List Row} (h : Ordered done rest) :
    ∀ row ∈ rest, ∀ d ∈ row.dependsOn,
      ∃ earlier ∈ done ++ rest, earlier.name = d.1 ∧ earlier.dependsOn = [] := by
  induction rest generalizing done with
  | nil => simp
  | cons first rest ih =>
      obtain ⟨-, hconditions, hlater⟩ := h
      intro row hrow d hd
      rcases List.mem_cons.mp hrow with rfl | hrow
      · obtain ⟨earlier, hearlier, hfree⟩ := hconditions d hd
        exact ⟨earlier, List.mem_append_left _ hearlier, hfree⟩
      · simpa using ih hlater row hrow d hd

/-- Where choices are offered one of them is the default. -/
theorem default_of_options : ∀ row ∈ rows, row.options ≠ [] → row.default ≠ none := by
  simp [rows]

variable {c : Configuration} {row : Row} {active : ActiveValues} {done rest : List Row}

/-- Conditions are on settings without conditions, so that the values in effect are
all that they depend on. -/
theorem active_iff_counts (hrow : row ∈ rows) : c.Active row.name ↔ c.Counts row := by
  constructor
  · rintro ⟨hsame, -, htext⟩
    rw [row?_name row hrow] at hsame
    cases hsame
    exact htext
  · intro hcounts
    refine .of_conditions (row?_name row hrow) ?_ hcounts
    intro d hd
    obtain ⟨earlier, hearlier, hname, hfree⟩ := rows_ordered.conditions row hrow d hd
    rw [← hname]
    exact .of_conditions (row?_name earlier hearlier) (by simp [hfree]) (by simp [hfree])

theorem offers_eq_true_iff {value : Json} :
    offers row value = true ↔
      (row.options ≠ [] → valueText value ∈ row.options.map Choice.value) := by
  simp only [offers, Bool.or_eq_true, List.isEmpty_iff, List.any_eq_true, beq_iff_eq,
    List.mem_map, ← or_iff_not_imp_left, ne_eq]

theorem complies_iff_admits (hrow : row ∈ rows) : c.Complies row ↔ c.Admits row := by
  unfold Configuration.Complies Configuration.Admits
  cases hvalue : c.inEffect? row.name with
  | some value => simp [offers_eq_true_iff]
  | none =>
      have hfree : row.options = [] := by
        by_contra hoptions
        rw [inEffect?_of_mem c hrow] at hvalue
        exact default_of_options row hrow hoptions (Option.or_eq_none_iff.mp hvalue).2
      simp [hfree]

/-- A row ends the pass if its conditions hold and the value in effect is not
admitted. -/
theorem withRow_error {e : Error} (hrow : row ∈ rows) (h : withRow c active row = .error e) :
    active.satisfies row = true ∧ ¬ c.Admits row ∧ e = c.complaint row := by
  unfold Configuration.Admits Configuration.complaint
  rw [inEffect?_of_mem c hrow]
  unfold withRow at h
  split at h
  · cases h
  · rename_i hsatisfies
    refine ⟨by simpa using hsatisfies, ?_⟩
    cases hvalue : (c.valueOf? row.name).or row.default with
    | none =>
        cases hrequired : row.required with
        | false => simp [hvalue, hrequired] at h
        | true =>
            simp only [hvalue, hrequired, if_true, Except.error.injEq] at h
            refine ⟨by simp, ?_⟩
            rw [← h]
            unfold missingError
            cases row.dependsOn <;> rfl
    | some value =>
        cases hoffers : offers row value with
        | true => simp [hvalue, hoffers] at h
        | false =>
            simp only [hvalue, hoffers, Bool.false_eq_true, if_false, Except.error.injEq] at h
            exact ⟨by simp [hoffers], h.symm⟩

/-- What ends the pass is the first of the rows that count without an admitted
value. -/
theorem Passed.first_refused {e : Error} (h : Passed c done active) (hrows : rest ⊆ rows)
    (hordered : Ordered done rest) (herror : withRows c active rest = .error e) :
    ∃ before row after, rest = before ++ row :: after ∧
      (∀ earlier ∈ before, c.Counts earlier → c.Admits earlier) ∧
      c.Counts row ∧ ¬ c.Admits row ∧ e = c.complaint row := by
  induction rest generalizing done active with
  | nil => cases herror
  | cons row rest ih =>
      obtain ⟨hfresh, hconditions, hlater⟩ := hordered
      obtain ⟨hrow, hrest⟩ := List.cons_subset.mp hrows
      rcases error_of_bind herror with hstep | ⟨next, hstep, hnext⟩
      · obtain ⟨hsatisfies, hrefused, rfl⟩ := withRow_error hrow hstep
        have hcounts : c.Counts row := (h.satisfies_iff hconditions).mp hsatisfies
        exact ⟨[], row, rest, rfl, by simp, hcounts, hrefused, rfl⟩
      · -- The row passes, so it is no offender, and what ends the pass comes later.
        have hpassed := h.step hrow hfresh hconditions hstep
        obtain ⟨before, refused, after, rfl, hbefore, hrefused⟩ := ih hpassed hrest hlater hnext
        refine ⟨row :: before, refused, after, rfl, ?_, hrefused⟩
        intro earlier hearlier
        rcases List.mem_cons.mp hearlier with rfl | hearlier
        · exact hpassed.admits earlier (by simp)
        · exact hbefore earlier hearlier

theorem exists_offending {e : Error} (h : c.activeValues = .error e) :
    ∃ before row after, rows = before ++ row :: after ∧
      (∀ earlier ∈ before, ¬ c.Offends earlier) ∧ c.Offends row ∧ e = c.complaint row := by
  obtain ⟨before, row, after, hsplit, hbefore, hcounts, hrefused, he⟩ :=
    (passed_nil c).first_refused (List.Subset.refl rows) rows_ordered h
  have hoffends : ∀ other ∈ rows, (c.Offends other ↔ c.Counts other ∧ ¬ c.Admits other) := by
    intro other hother
    rw [Configuration.Offends, active_iff_counts hother, complies_iff_admits hother]
  refine ⟨before, row, after, hsplit, ?_, ?_, he⟩
  · intro earlier hearlier
    rw [hoffends earlier (by simp [hsplit, hearlier])]
    exact fun ⟨hcounts, hrefused⟩ => hrefused (hbefore earlier hearlier hcounts)
  · exact (hoffends row (by simp [hsplit])).mpr ⟨hcounts, hrefused⟩

theorem complies_of_ok (h : c.activeValues = .ok active) (hrow : row ∈ rows)
    (hactive : c.Active row.name) : c.Complies row := by
  have hpassed := Configuration.activeValues_passed h
  exact (complies_iff_admits hrow).mpr
    (hpassed.admits row hrow ((active_iff_counts hrow).mp hactive))

theorem get?_of_ok (h : c.activeValues = .ok active) (name : String) (value : Json) :
    active.get? name = some value ↔ c.Active name ∧ c.inEffect? name = some value := by
  rw [(Configuration.activeValues_passed h).get?_eq_some_iff]
  constructor
  · rintro ⟨row, hrow, rfl, hcounts, hvalue⟩
    exact ⟨(active_iff_counts hrow).mpr hcounts, hvalue⟩
  · rintro ⟨hactive, hvalue⟩
    obtain ⟨hrow, -, -⟩ := id hactive
    obtain ⟨hmem, rfl⟩ := mem_of_row? hrow
    exact ⟨_, hmem, rfl, (active_iff_counts hmem).mp hactive, hvalue⟩

/-- A configuration passes exactly if every active setting has the value that it must
have and one of the choices where some are offered. The values found are then those in
effect for the active settings. Otherwise the first of the settings that offend is
complained of. -/
theorem activity_rule_is_computed (c : Configuration) :
    ((∃ active, c.activeValues = .ok active) ↔
        ∀ row ∈ rows, c.Active row.name → c.Complies row) ∧
      (∀ active, c.activeValues = .ok active → ∀ name value,
        active.get? name = some value ↔ c.Active name ∧ c.inEffect? name = some value) ∧
      ∀ e, c.activeValues = .error e →
        ∃ before row after, rows = before ++ row :: after ∧
          (∀ earlier ∈ before, ¬ c.Offends earlier) ∧ c.Offends row ∧ e = c.complaint row := by
  refine ⟨⟨?_, ?_⟩, fun active h => get?_of_ok h, fun e h => exists_offending h⟩
  · rintro ⟨active, h⟩ row hrow hactive
    exact complies_of_ok h hrow hactive
  · intro hcomplies
    cases h : c.activeValues with
    | ok active => exact ⟨active, rfl⟩
    | error e =>
        obtain ⟨before, row, after, hsplit, -, ⟨hactive, hoffends⟩, -⟩ := exists_offending h
        exact absurd (hcomplies row (by simp [hsplit]) hactive) hoffends

/-- The small configuration with a blank password, and with pages to be found in a way
that is not offered. -/
def Sample.twoFaults : Configuration :=
  (Sample.configuration.setValue "password" (.string " ")).setValue "pagination_model"
    (.string "offset")

/-- The password is active as long as its own condition holds, and it comes first. -/
theorem password_follows_its_condition :
    (∃ active, Sample.configuration.activeValues = .ok active ∧
        active.get? "password" = some (.string " secret ") ∧
        Sample.configuration.Active "password") ∧
      Sample.twoFaults.activeValues =
        .error (.missingDependency "password" "authentication_method=basic") ∧
      ∃ before row after, rows = before ++ row :: after ∧
        (∀ earlier ∈ before, ¬ Sample.twoFaults.Offends earlier) ∧
        Sample.twoFaults.Offends row ∧
        .missingDependency "password" "authentication_method=basic" =
          Sample.twoFaults.complaint row := by
  have herror : Sample.twoFaults.activeValues =
      .error (.missingDependency "password" "authentication_method=basic") := by decide +kernel
  have hpassword : Sample.configuration.activeValues.toOption.bind (·.get? "password") =
      some (.string " secret ") := by decide +kernel
  obtain ⟨active, hactive, hget⟩ := Option.bind_eq_some_iff.mp hpassword
  have hok : Sample.configuration.activeValues = .ok active := by
    cases h : Sample.configuration.activeValues with
    | ok found => simpa [h, Except.toOption] using hactive
    | error e => simp [h, Except.toOption] at hactive
  have hrule := (activity_rule_is_computed Sample.configuration).2.1 active hok
  exact ⟨⟨active, hok, hget, ((hrule _ _).mp hget).1⟩, herror,
    (activity_rule_is_computed Sample.twoFaults).2.2 _ herror⟩

end PageHarvest.Settings
