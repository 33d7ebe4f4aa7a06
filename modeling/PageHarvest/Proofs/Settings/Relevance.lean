import PageHarvest.Connector
import PageHarvest.Proofs.Settings.Active

/-!
What a connector depends on. It is read from the values of the settings that
count, and from nothing else: credentials of another authentication method,
variables of a request without body, names that the schema does not know, and all
that describes a field instead of giving it a value are never looked at. This
goes for the error of a configuration that is refused as well.
-/

namespace PageHarvest.Settings

variable {c d : Configuration}

/-- A connector is read from the values in effect, wherever their defaults stand. -/
theorem ofConfiguration_of_inEffect
    (hagree : ∀ row ∈ rows, c.Counts row → d.inEffect? row.name = c.inEffect? row.name) :
    Connector.ofConfiguration d = Connector.ofConfiguration c := by
  unfold Connector.ofConfiguration
  rw [Configuration.activeValues_congr hagree]

theorem ofConfiguration_congr
    (hagree : ∀ row ∈ rows, c.Counts row → d.valueOf? row.name = c.valueOf? row.name) :
    Connector.ofConfiguration d = Connector.ofConfiguration c := by
  apply ofConfiguration_of_inEffect
  intro row hrow hcounts
  rw [inEffect?_of_mem d hrow, inEffect?_of_mem c hrow, hagree row hrow hcounts]

namespace Configuration

theorem valueOf?_insert_self (c : Configuration) (name : String) (descriptor : Descriptor) :
    (c.insert name descriptor).valueOf? name = descriptor.effective? := by
  simp [valueOf?, get?, insert, Table.get?_insert_self]

theorem valueOf?_insert_of_ne (c : Configuration) {name other : String} (hne : name ≠ other)
    (descriptor : Descriptor) :
    (c.insert name descriptor).valueOf? other = c.valueOf? other := by
  simp [valueOf?, get?, insert, Table.get?_insert_of_ne _ hne]

end Configuration

/-- A configuration is read alike, or refused with the same error, if the settings
that count keep their values. So it may hold anything for a setting that does not
count or is not known, and a field may be described in any way. -/
theorem only_counting_values_matter (c : Configuration) :
    (∀ d : Configuration,
        (∀ row ∈ rows, c.Counts row → d.valueOf? row.name = c.valueOf? row.name) →
        Connector.ofConfiguration d = Connector.ofConfiguration c) ∧
      (∀ name descriptor, (∀ row, row? name = some row → ¬ c.Counts row) →
        Connector.ofConfiguration (c.insert name descriptor) = Connector.ofConfiguration c) ∧
      ∀ name before after, c.get? name = some before →
        after.effective? = before.effective? →
        Connector.ofConfiguration (c.insert name after) = Connector.ofConfiguration c := by
  refine ⟨fun d hagree => ofConfiguration_congr hagree, ?_, ?_⟩
  · intro name descriptor hidle
    apply ofConfiguration_congr
    intro row hrow hcounts
    have hne : name ≠ row.name := by
      rintro rfl
      exact hidle row (row?_name row hrow) hcounts
    exact c.valueOf?_insert_of_ne hne descriptor
  · intro name before after hbefore heffective
    apply ofConfiguration_congr
    intro row _ _
    by_cases hname : name = row.name
    · subst hname
      have hvalue : c.valueOf? row.name = before.effective? := by
        simp [Configuration.valueOf?, hbefore]
      rw [Configuration.valueOf?_insert_self, heffective, hvalue]
    · exact c.valueOf?_insert_of_ne hname after

/-- With basic authentication a token that is entered has no effect. -/
theorem token_beside_password_is_ignored :
    (∀ row, row? "token" = some row → ¬ Sample.configuration.Counts row) ∧
      Connector.ofConfiguration (Sample.configuration.setValue "token" (.string "abc")) =
        Connector.ofConfiguration Sample.configuration := by
  have hidle : ∀ row, row? "token" = some row → ¬ Sample.configuration.Counts row := by
    intro row hrow hcounts
    cases hrow
    exact absurd (hcounts ("authentication_method", "bearer") (by simp)) (by decide)
  exact ⟨hidle, (only_counting_values_matter Sample.configuration).2.1 "token" _ hidle⟩

end PageHarvest.Settings
