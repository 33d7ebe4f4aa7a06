import Mathlib.Tactic.Common
import PageHarvest.Proofs.Settings.Relevance

/-!
A configuration that is saved and loaded. Every field of a descriptor is read back
from what is written of it, and one that is not there is not written. Only a value
or a default that is null cannot be told from one that is absent: it is lost, but
null does not count as a value anyway, so nothing that a connector is read from
changes.
-/

namespace PageHarvest

namespace Json

variable {α : Type} {read : Json → Option α} {write : α → Json}

theorem optional?_map (hread : ∀ a, read (write a) = some a) (hnull : ∀ a, write a ≠ .null)
    (o : Option α) : optional? read (o.map write) = some o := by
  cases o with
  | none => rfl
  | some a =>
      have hsome : optional? read (some (write a)) = (read (write a)).map some := by
        unfold optional?
        split
        · rename_i h
          cases h
        · rename_i h
          exact absurd (Option.some.inj h) (hnull a)
        · rename_i h
          rw [Option.some.inj h]
      rw [Option.map_some, hsome, hread, Option.map_some]

theorem list?_map (hread : ∀ a, read (write a) = some a) (as : List α) :
    list? read (.array (as.map write)) = some as := by
  induction as with
  | nil => rfl
  | cons a as ih =>
      simp only [list?] at ih ⊢
      simp [hread, ih]

theorem optional?_list_map (hread : ∀ a, read (write a) = some a) (o : Option (List α)) :
    optional? (list? read) (o.map fun as => .array (as.map write)) = some o :=
  optional?_map (list?_map hread) (by simp) o

/-- A value that may be anything is there unless it is null. -/
def withoutNull : Option Json → Option Json
  | some .null => none
  | v => v

theorem optional?_some (v : Option Json) : optional? some v = some (withoutNull v) := by
  rcases v with - | v
  · rfl
  · cases v <;> rfl

theorem withoutNull_withoutNull (v : Option Json) : withoutNull (withoutNull v) = withoutNull v := by
  rcases v with - | v
  · rfl
  · cases v <;> rfl

theorem string?_string (s : String) : string? (.string s) = some s := rfl

theorem bool?_bool (b : Bool) : bool? (.bool b) = some b := rfl

theorem optional?_string_map (o : Option String) :
    optional? string? (o.map .string) = some o :=
  optional?_map string?_string (by simp) o

theorem optional?_bool_map (o : Option Bool) : optional? bool? (o.map .bool) = some o :=
  optional?_map bool?_bool (by simp) o

theorem nat32?_nat (n : Fin UInt32.size) : nat32? (.nat n) = some n := by
  simp [nat32?, nat, Number.nat?]

end Json

/-- What is written of a field that may be absent. -/
theorem Entries.get?_elim (o : Option Json) (name other : String) :
    Entries.get? (o.elim [] fun v => [(name, v)]) other = if name = other then o else none := by
  cases o with
  | none => simp [get?]
  | some v => simp [get?, TextKey.text]

namespace Settings

theorem Choice.ofJson?_toJson (c : Choice) : Choice.ofJson? c.toJson = some c := rfl

theorem Condition.ofJson?_toJson (c : Condition) : Condition.ofJson? c.toJson = some c := rfl

namespace Descriptor

def withoutNulls (d : Descriptor) : Descriptor :=
  { d with value := Json.withoutNull d.value, default := Json.withoutNull d.default }

theorem slots?_toJson (d : Descriptor) :
    d.toJson.slots? fieldNames = some [
      some (.string d.label), some (.nat d.order), some (.string d.type.name), d.value,
      d.options.map fun cs => .array (cs.map Choice.toJson),
      d.dependsOn.map fun cs => .array (cs.map Condition.toJson),
      d.display.map .string, d.sensitive.map .bool, d.required.map .bool, d.tooltip.map .string,
      d.default, d.uiRestrictions.map fun rs => .array (rs.map .string)] := by
  have hreverse : ∀ (o : Option Json) (name : String),
      (o.elim [] fun v => [(name, v)]).reverse = o.elim [] fun v => [(name, v)] := by
    intro o name
    cases o <;> rfl
  simp only [toJson, Json.ofMembers, Json.slots?, fieldNames, List.map_cons, List.map_nil,
    Entries.get?_ofList, members, List.reverse_append, hreverse, Entries.get?_append,
    Entries.get?_elim]
  simp [Entries.get?, TextKey.text]

/-- A descriptor is read back from what is written of it, except for nulls. -/
theorem ofJson?_toJson (d : Descriptor) : ofJson? d.toJson = some d.withoutNulls := by
  have htype : Json.choice? ValueType.names (.string d.type.name) = some d.type := by
    cases d.type <;> rfl
  have hoptions := Json.optional?_list_map Choice.ofJson?_toJson d.options
  have hdependsOn := Json.optional?_list_map Condition.ofJson?_toJson d.dependsOn
  have hdisplay := Json.optional?_string_map d.display
  have htooltip := Json.optional?_string_map d.tooltip
  have hsensitive := Json.optional?_bool_map d.sensitive
  have hrequired := Json.optional?_bool_map d.required
  have hrestrictions := Json.optional?_list_map Json.string?_string d.uiRestrictions
  simp only [ofJson?, d.slots?_toJson, Option.bind_eq_bind, Option.bind_some, hoptions,
    hdependsOn, hdisplay, htooltip, hsensitive, hrequired, hrestrictions, Json.optional?_some,
    Json.nat32?_nat, Option.elim_some, htype]
  rfl

theorem effective?_withoutNulls (d : Descriptor) : d.withoutNulls.effective? = d.effective? := by
  have hpresent : ∀ v : Option Json, (Json.withoutNull v).bind present? = v.bind present? := by
    intro v
    rcases v with - | v
    · rfl
    · cases v <;> rfl
  simp only [effective?, withoutNulls, hpresent]

theorem withoutNulls_withoutNulls (d : Descriptor) :
    d.withoutNulls.withoutNulls = d.withoutNulls := by
  simp only [withoutNulls, Json.withoutNull_withoutNull]

end Descriptor

namespace Configuration

def withoutNulls (c : Configuration) : Configuration := ⟨c.fields.map Descriptor.withoutNulls⟩

theorem ofFieldTable?_map (entries : List (String × Descriptor)) :
    ofFieldTable? (entries.map fun e => (e.1, e.2.toJson)) =
      some (entries.map fun e => (e.1, e.2.withoutNulls)) := by
  induction entries with
  | nil => rfl
  | cons e rest ih => simp [ofFieldTable?, ih, Descriptor.ofJson?_toJson]

/-- What is written of a descriptor shows that it is one. -/
theorem isFieldTable_map {entries : List (String × Descriptor)} (h : entries ≠ []) :
    isFieldTable (entries.map fun e => (e.1, e.2.toJson)) = true := by
  have hlabel : ∀ d : Descriptor, d.toJson.get? "label" = some (.string d.label) := by
    intro d
    have hslots := d.slots?_toJson
    simp only [Descriptor.toJson, Json.ofMembers, Json.slots?, Descriptor.fieldNames,
      List.map_cons, Option.some.injEq, List.cons.injEq] at hslots
    exact hslots.1
  simp only [isFieldTable, List.all_map, Bool.and_eq_true, Bool.not_eq_true',
    List.isEmpty_eq_false_iff, ne_eq, List.map_eq_nil_iff, List.all_eq_true]
  refine ⟨h, fun e _ => ?_⟩
  rw [Function.comp_apply, hlabel]
  rfl

theorem ofJson_toJson {c : Configuration} (h : c.toList ≠ []) :
    ofJson c.toJson = .ok c.withoutNulls := by
  have htable : (Table.ofList (c.toList.map fun e => (e.1, e.2.withoutNulls))) =
      c.withoutNulls.fields := Table.ofList_toList (c.fields.map Descriptor.withoutNulls)
  simp only [ofJson, toJson, isFieldTable_map h, if_true, ofFieldTable?_map, htable]

theorem valueOf?_withoutNulls (c : Configuration) (name : String) :
    c.withoutNulls.valueOf? name = c.valueOf? name := by
  cases hfield : c.fields.get? name with
  | none => simp [valueOf?, get?, withoutNulls, Table.get?_map, hfield]
  | some d =>
      simp [valueOf?, get?, withoutNulls, Table.get?_map, hfield, d.effective?_withoutNulls]

theorem withoutNulls_withoutNulls (c : Configuration) :
    c.withoutNulls.withoutNulls = c.withoutNulls := by
  cases c with
  | mk fields =>
      cases fields with
      | mk entries sorted =>
          simp [withoutNulls, Table.map, Descriptor.withoutNulls_withoutNulls]

/-- A configuration with fields is saved as a table of descriptors and loaded as the
same configuration, up to nulls in place of a value or a default. So every value in
effect stays, a connector is read alike, and saving and loading once more changes
nothing. -/
theorem saved_configuration_is_loaded {c : Configuration} (h : c.toList ≠ []) :
    (∃ members, c.toJson = .object members ∧ isFieldTable members = true) ∧
      ofJson c.toJson = .ok c.withoutNulls ∧
      (∀ name, c.withoutNulls.valueOf? name = c.valueOf? name) ∧
      Connector.ofConfiguration c.withoutNulls = Connector.ofConfiguration c ∧
      ofJson c.withoutNulls.toJson = .ok c.withoutNulls := by
  refine ⟨⟨_, rfl, isFieldTable_map h⟩, ofJson_toJson h, c.valueOf?_withoutNulls, ?_, ?_⟩
  · exact ofConfiguration_congr fun row _ _ => c.valueOf?_withoutNulls row.name
  · have hfields : c.withoutNulls.toList ≠ [] := by
      simpa [toList, withoutNulls, Table.toList, Table.map] using h
    rw [ofJson_toJson hfields, withoutNulls_withoutNulls]

def Sample.cleared : Configuration := Sample.configuration.setValue "username" .null

theorem cleared_value_is_absent :
    Sample.cleared.toList ≠ [] ∧ ofJson Sample.cleared.toJson = .ok Sample.cleared.withoutNulls ∧
      (Sample.cleared.get? "username").map Descriptor.value = some (some .null) ∧
      (Sample.cleared.withoutNulls.get? "username").map Descriptor.value = some none := by
  have hfields : Sample.cleared.toList ≠ [] := by decide +kernel
  have hloaded := (saved_configuration_is_loaded hfields).2.1
  exact ⟨hfields, hloaded, by decide +kernel, by decide +kernel⟩

end Configuration

end Settings

end PageHarvest
