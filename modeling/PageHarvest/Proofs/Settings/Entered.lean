import PageHarvest.Proofs.Connector
import PageHarvest.Proofs.Settings.Relevance

/-!
Values entered one by one. A default stands in the schema and, where a descriptor
is published, there as well; so it makes no difference whether values are entered
into the published configuration or into the empty one, nor in which order. As a
map of names and values they are never mistaken for a table of descriptors if they
are accepted at all: the endpoint is among them, and what is printed of an object
is no address.
-/

namespace PageHarvest

namespace Url

/-- A visible character at the start of a text stays there. -/
theorem cleaned_cons {c : Char} (hc : 0x20 < c.toNat) (cs : List Char) :
    ∃ rest, cleaned (c :: cs) = c :: rest := by
  have hvisible (cs : List Char) : (c :: cs).dropWhile (fun c => c.toNat ≤ 0x20) = c :: cs :=
    List.dropWhile_cons_of_neg (by simpa using hc)
  have hkept : (!(c == '\t' || c == '\n' || c == '\r')) = true := by
    have htab : c ≠ '\t' := by
      rintro rfl
      exact absurd hc (by decide)
    have hfeed : c ≠ '\n' := by
      rintro rfl
      exact absurd hc (by decide)
    have hreturn : c ≠ '\r' := by
      rintro rfl
      exact absurd hc (by decide)
    simp [htab, hfeed, hreturn]
  unfold cleaned
  dsimp only
  rw [hvisible, List.reverse_cons, List.dropWhile_append]
  split
  · rw [hvisible, List.reverse_singleton]
    exact ⟨_, List.filter_cons_of_pos hkept⟩
  · rw [List.reverse_append, List.reverse_singleton, List.singleton_append]
    exact ⟨_, List.filter_cons_of_pos hkept⟩

/-- An address begins with a scheme, which no printed object does. -/
theorem parse_compact_object (members : List (String × Json)) :
    parse (Json.object members).compact = .error .relative := by
  obtain ⟨rest, hrest⟩ : ∃ rest, cleaned (Json.object members).compact.toList = '{' :: rest := by
    unfold Json.compact
    rw [String.toList_ofList]
    exact cleaned_cons (by decide) _
  have hscheme : splitScheme? ('{' :: rest) = none := by
    unfold splitScheme?
    dsimp only
    rw [List.takeWhile_cons_of_neg (by decide)]
    rfl
  unfold parse
  rw [hrest, hscheme]

end Url

namespace Settings

namespace Configuration

def enterAll (c : Configuration) (entries : List (String × Json)) : Configuration :=
  entries.foldl (fun c entry => c.setValue entry.1 entry.2) c

def defaultOf? (c : Configuration) (name : String) : Option Json :=
  (c.get? name).bind fun d => d.default.bind present?

variable {c d : Configuration}

theorem valueOf?_setValue_self (c : Configuration) (name : String) (value : Json) :
    (c.setValue name value).valueOf? name = (present? value).or (c.defaultOf? name) := by
  unfold setValue defaultOf?
  cases c.get? name with
  | some d => exact c.valueOf?_insert_self name _
  | none => exact c.valueOf?_insert_self name _

theorem valueOf?_setValue_of_ne (c : Configuration) {name other : String} (hne : name ≠ other)
    (value : Json) : (c.setValue name value).valueOf? other = c.valueOf? other := by
  unfold setValue
  split <;> exact c.valueOf?_insert_of_ne hne _

theorem defaultOf?_setValue (c : Configuration) (name other : String) (value : Json) :
    (c.setValue name value).defaultOf? other = c.defaultOf? other := by
  by_cases hname : name = other
  · subst hname
    unfold setValue defaultOf?
    cases hget : c.get? name with
    | some d => simp [get?, insert, Table.get?_insert_self]
    | none => simp [get?, insert, Table.get?_insert_self, bareDescriptor]
  · unfold setValue defaultOf?
    cases c.get? name <;> simp [get?, insert, Table.get?_insert_of_ne _ hname]

/-- The last of the values entered for a name counts. -/
theorem valueOf?_enterAll (c : Configuration) (entries : List (String × Json)) (name : String) :
    (c.enterAll entries).valueOf? name =
      match Entries.get? entries.reverse name with
      | some value => (present? value).or (c.defaultOf? name)
      | none => c.valueOf? name := by
  induction entries generalizing c with
  | nil => rfl
  | cons entry rest ih =>
      have hrest := ih (c.setValue entry.1 entry.2)
      rw [defaultOf?_setValue] at hrest
      rw [List.reverse_cons, Entries.get?_append]
      refine hrest.trans ?_
      cases Entries.get? rest.reverse name with
      | some value => rfl
      | none =>
          by_cases hname : entry.1 = name
          · subst hname
            simp [Entries.get?, valueOf?_setValue_self]
          · simp [Entries.get?, TextKey.text, hname, c.valueOf?_setValue_of_ne hname]

/-- The descriptors have no other values and defaults than the schema has. -/
def Unfilled (c : Configuration) : Prop :=
  ∀ row ∈ rows, (c.valueOf? row.name).or row.default = row.default ∧
    (c.defaultOf? row.name).or row.default = row.default

theorem unfilled_empty : Unfilled empty := fun _ _ => ⟨rfl, rfl⟩

theorem names_nodup : (rows.map Row.name).Nodup := by
  decide

/-- Every row of the schema is published. -/
theorem get?_default {row : Row} (hrow : row ∈ rows) :
    ∃ order, default.get? row.name = some (row.describe order) := by
  have hnames : (rows.zipIdx.map fun e => e.1.name).Nodup := by
    have hfirst : (rows.zipIdx.map Prod.fst).map Row.name = rows.map Row.name := by
      rw [List.zipIdx_map_fst]
    rw [List.map_map] at hfirst
    exact hfirst ▸ names_nodup
  have hdistinct : Entries.Distinct
      (rows.zipIdx.map fun e => (e.1.name, e.1.describe (.ofNat _ (e.2 + 1)))) := by
    apply Entries.Distinct.of_nodup
    rwa [List.map_map]
  obtain ⟨⟨_, i⟩, hi, rfl⟩ := List.mem_map.mp (List.zipIdx_map_fst 0 rows ▸ hrow)
  refine ⟨.ofNat _ (i + 1), ?_⟩
  refine (Entries.get?_ofList _ _).trans ?_
  rw [Entries.get?_eq_some_iff (hdistinct.perm (List.reverse_perm _).symm), List.mem_reverse]
  exact List.mem_map.mpr ⟨_, hi, rfl⟩

/-- The defaults of the schema count. -/
theorem present?_default : ∀ row ∈ rows, row.default.bind present? = row.default := by
  decide

theorem unfilled_default : Unfilled default := by
  intro row hrow
  obtain ⟨order, hget⟩ := get?_default hrow
  have hpresent := present?_default row hrow
  have hvalue : default.valueOf? row.name = row.default := by
    rw [valueOf?, hget]
    exact hpresent
  have hdefault : default.defaultOf? row.name = row.default := by
    rw [defaultOf?, hget]
    exact hpresent
  rw [hvalue, hdefault, Option.or_self]
  exact ⟨rfl, rfl⟩

/-- What is in effect for a setting is the last value entered for it that counts, or
the default of the schema. -/
theorem Unfilled.inEffect?_enterAll (hc : c.Unfilled) (entries : List (String × Json)) {row : Row}
    (hrow : row ∈ rows) :
    (c.enterAll entries).inEffect? row.name =
      ((Entries.get? entries.reverse row.name).bind present?).or row.default := by
  obtain ⟨hvalue, hdefault⟩ := hc row hrow
  rw [inEffect?_of_mem _ hrow, valueOf?_enterAll]
  cases Entries.get? entries.reverse row.name with
  | some value => rw [Option.or_assoc, hdefault, Option.bind_some]
  | none => rw [hvalue, Option.bind_none, Option.none_or]

end Configuration

variable {c d : Configuration}

theorem ofConfiguration_enterAll (hc : c.Unfilled) (hd : d.Unfilled)
    {first second : List (String × Json)} (hnames : Entries.Distinct first)
    (hperm : first.Perm second) :
    Connector.ofConfiguration (c.enterAll first) = Connector.ofConfiguration (d.enterAll second) := by
  apply ofConfiguration_of_inEffect
  intro row hrow _
  have hreverse : first.reverse.Perm second.reverse :=
    (List.reverse_perm first).trans (hperm.trans (List.reverse_perm second).symm)
  have hdistinct : Entries.Distinct first.reverse := hnames.perm (List.reverse_perm first).symm
  rw [hc.inEffect?_enterAll first hrow, hd.inEffect?_enterAll second hrow,
    Entries.get?_of_perm hdistinct hreverse]

/-- The endpoint of a connector was entered, and not as an object. -/
theorem endpoint_entered (hc : c.Unfilled) {entries : List (String × Json)} {connector : Connector}
    (h : Connector.ofConfiguration (c.enterAll entries) = .ok connector) :
    ∃ value, ("http_endpoint", value) ∈ entries ∧ value.isObject = false := by
  obtain ⟨active, hactive, hread⟩ := Connector.ofConfiguration_ok h
  obtain ⟨raw, hraw, hurl⟩ := ok_of_bind hread.endpoint
  obtain ⟨value, hvalue, rfl⟩ : ∃ value, active.get? "http_endpoint" = some value ∧
      valueText value = raw := by
    unfold Connector.required ActiveValues.getText? at hraw
    cases hget : active.get? "http_endpoint" with
    | none => simp [hget] at hraw
    | some value => exact ⟨value, rfl, by simpa [hget] using hraw⟩
  have hpassed := Configuration.activeValues_passed hactive
  obtain ⟨-, -, -, -, hinEffect⟩ := (hpassed.get?_eq_some_iff _ _).mp hvalue
  have hrow : row? "http_endpoint" =
      some { name := "http_endpoint", label := "GraphQL HTTP endpoint" } := rfl
  -- The endpoint has no default, so what is in effect was entered.
  have hentered := hc.inEffect?_enterAll entries (mem_of_row? hrow).1
  rw [hinEffect, Option.or_none] at hentered
  obtain ⟨entered, hget, hpresent⟩ := Option.bind_eq_some_iff.mp hentered.symm
  obtain ⟨rfl, -⟩ := present?_eq_some hpresent
  refine ⟨value, List.mem_reverse.mp (Entries.mem_of_get? hget), ?_⟩
  cases value with
  | object members => simp [valueText, Url.parse_compact_object] at hurl
  | _ => rfl

theorem not_isFieldTable {members : List (String × Json)} {name : String} {value : Json}
    (hmem : (name, value) ∈ members) (hvalue : value.isObject = false) :
    Configuration.isFieldTable members = false := by
  simp only [Configuration.isFieldTable, Bool.and_eq_false_iff, List.all_eq_false]
  exact .inr ⟨_, hmem, by simp [hvalue]⟩

/-- Values by name are validated alike however they are entered: in any order, into the
empty configuration or the published one. If they are accepted, the object that they
make is read as a map of values, and validated alike as well. -/
theorem entered_values_validate_alike {members : List (String × Json)}
    (hnames : Entries.Distinct members) :
    (∀ first second, first.Perm members → second.Perm members →
      Connector.ofConfiguration (Configuration.empty.enterAll first) =
        Connector.ofConfiguration (Configuration.default.enterAll second)) ∧
      ∀ order connector, order.Perm members →
        Connector.ofConfiguration (Configuration.empty.enterAll order) = .ok connector →
        Configuration.isFieldTable members = false ∧
          ∃ c, Configuration.ofJson (.object members) = .ok c ∧
            Connector.ofConfiguration c = .ok connector := by
  have halike : ∀ first second, first.Perm members → second.Perm members →
      Connector.ofConfiguration (Configuration.empty.enterAll first) =
        Connector.ofConfiguration (Configuration.default.enterAll second) := by
    intro first second hfirst hsecond
    exact ofConfiguration_enterAll Configuration.unfilled_empty Configuration.unfilled_default
      (hnames.perm hfirst.symm) (hfirst.trans hsecond.symm)
  refine ⟨halike, ?_⟩
  intro order connector horder hok
  obtain ⟨value, hmem, hvalue⟩ := endpoint_entered Configuration.unfilled_empty hok
  have hflat := not_isFieldTable (horder.mem_iff.mp hmem) hvalue
  refine ⟨hflat, Configuration.default.enterAll members, ?_, ?_⟩
  · simp only [Configuration.ofJson, hflat, Bool.false_eq_true, if_false, Configuration.enterAll]
  · rw [← halike order members horder (List.Perm.refl members), hok]

namespace Sample

/-- The values of the small configuration, with a null, a blank and an object with a
label among them. -/
def flat : List (String × Json) :=
  entered ++ [("connection_timeout", .null), ("http_method", .string " "),
    ("color", .object [("label", .string "x")])]

end Sample

theorem flat_values_in_reverse :
    Entries.Distinct Sample.flat ∧
      Connector.ofConfiguration (Configuration.empty.enterAll Sample.flat.reverse) =
        .ok Connector.Sample.trimmed ∧
      Configuration.isFieldTable Sample.flat = false ∧
      ∃ c, Configuration.ofJson (.object Sample.flat) = .ok c ∧
        Connector.ofConfiguration c = .ok Connector.Sample.trimmed := by
  have hnames : Entries.Distinct Sample.flat := .of_nodup (by decide)
  have hok : Connector.ofConfiguration (Configuration.empty.enterAll Sample.flat.reverse) =
      .ok Connector.Sample.trimmed := by decide +kernel
  exact ⟨hnames, hok, (entered_values_validate_alike hnames).2 _ _ (List.reverse_perm _) hok⟩

end Settings

end PageHarvest
