import PageHarvest.Proofs.Http.Failures
import PageHarvest.Proofs.IdMap
import PageHarvest.Proofs.Settings.Values

/-!
What a configuration that was checked guarantees. Every part of a connector is
read from the settings that count, and the checks leave nothing to be doubted
later: the alternatives are those that the settings name, credentials are there
if the method asks for some, and the map of id fields is not empty.
-/

namespace PageHarvest

open Settings

namespace Connector

variable {c : Configuration} {connector : Connector} {active : ActiveValues} {name : String}
  {row : Row}

/-- The parts of a connector, each with the settings that it is read from. -/
structure ReadFrom (connector : Connector) (active : ActiveValues) : Prop where
  endpoint : readEndpoint active = .ok connector.endpoint
  method : connector.method =
    selected active "http_method" HttpMethod.ofName? HttpMethod.default
  credentials : connector.credentials = readCredentials active
  pagination : readPagination active = .ok connector.pagination
  query : required active "graphql_query" = .ok connector.query
  checked : Query.check connector.query connector.pagination.key?.isSome = .ok ()
  fixedVariables : optionalObject active "graphql_variables" = .ok connector.fixedVariables
  headers : ∃ members entries, optionalObject active "headers" = .ok members ∧
    headerValues "headers" members = .ok entries ∧ connector.headers = Table.ofList entries
  idMap : ∃ value, active.get? IdMap.settingName = some value ∧
    IdMap.ofSetting value = .ok connector.idMap
  timeout : readTimeout (active.get? "connection_timeout") = .ok connector.timeout

theorem ofConfiguration_ok (h : ofConfiguration c = .ok connector) :
    ∃ active, c.activeValues = .ok active ∧ connector.ReadFrom active := by
  obtain ⟨active, hactive, h⟩ := ok_of_bind h
  obtain ⟨endpoint, hendpoint, h⟩ := ok_of_bind h
  obtain ⟨pagination, hpagination, h⟩ := ok_of_bind h
  obtain ⟨query, hquery, h⟩ := ok_of_bind h
  obtain ⟨_, hchecked, h⟩ := ok_of_bind h
  obtain ⟨fixedVariables, hvariables, h⟩ := ok_of_bind h
  obtain ⟨members, hmembers, h⟩ := ok_of_bind h
  obtain ⟨entries, hentries, h⟩ := ok_of_bind h
  dsimp only at h
  split at h
  · rename_i value hvalue
    obtain ⟨idMap, hidMap, h⟩ := ok_of_bind h
    obtain ⟨timeout, htimeout, h⟩ := ok_of_bind h
    cases h
    exact ⟨active, hactive, hendpoint, rfl, rfl, hpagination, hquery, hchecked, hvariables,
      ⟨members, entries, hmembers, hentries, rfl⟩, ⟨value, hvalue, hidMap⟩, htimeout⟩
  · cases h

theorem readEndpoint_ok {endpoint : Url} (h : readEndpoint active = .ok endpoint) :
    endpoint.scheme = "http" ∨ endpoint.scheme = "https" := by
  obtain ⟨raw, -, h⟩ := ok_of_bind h
  split at h
  · cases h
  · split at h
    · rename_i hscheme
      cases h
      exact hscheme
    · cases h

theorem readTimeout_pos {value : Option Json} {timeout : Nat}
    (h : readTimeout value = .ok timeout) : 1 ≤ timeout := by
  cases value with
  | none =>
      cases h
      decide
  | some value =>
      unfold readTimeout at h
      dsimp only at h
      split at h
      · cases h
        omega
      · cases h

/-- Where the choices of a required setting are names of alternatives, the one that
is selected has the name that is in effect. -/
theorem selected_name {α : Type} {ofName? : String → Option α} {nameOf : α → String} {default : α}
    (h : Passed c rows active) (hrow : row? name = some row) (hfree : row.dependsOn = [])
    (hrequired : row.required = true) (hoptions : row.options ≠ [])
    (hchoices : ∀ choice ∈ row.options,
      (ofName? choice.value).map nameOf = some choice.value) :
    c.textInEffect? name = some (nameOf (selected active name ofName? default)) := by
  have hcounts : c.Counts row := by simp [Configuration.Counts, hfree]
  obtain ⟨value, hvalue, hoffers⟩ := h.exists_inEffect? hrow hcounts hrequired
  have htext : c.textInEffect? name = some (valueText value) := by
    rw [Configuration.textInEffect?, hvalue, Option.map_some]
  obtain ⟨choice, hchoice, hsame⟩ : ∃ choice ∈ row.options, choice.value = valueText value := by
    simpa [offers, hoptions] using hoffers
  obtain ⟨a, hname, hnameOf⟩ := Option.map_eq_some_iff.mp (hchoices choice hchoice)
  have hselected : selected active name ofName? default = a := by
    rw [selected, h.getText?_of_counts hrow hcounts, htext, ← hsame, Option.bind_some, hname,
      Option.getD_some]
  rw [htext, hselected, hnameOf, hsame]

theorem method_name (h : Passed c rows active) :
    c.textInEffect? "http_method" =
      some (selected active "http_method" HttpMethod.ofName? HttpMethod.default).name :=
  selected_name h rfl rfl rfl (by simp) (by decide)

theorem authMethod_name (h : Passed c rows active) :
    c.textInEffect? "authentication_method" =
      some (selected active "authentication_method" AuthMethod.ofName? AuthMethod.default).name :=
  selected_name h rfl rfl rfl (by simp) (by decide)

theorem paginationModel_name (h : Passed c rows active) :
    c.textInEffect? "pagination_model" =
      some (selected active "pagination_model" PaginationModel.ofName?
        PaginationModel.default).name :=
  selected_name h rfl rfl rfl (by simp) (by decide)

theorem readCredentials_method (active : ActiveValues) :
    (readCredentials active).method =
      selected active "authentication_method" AuthMethod.ofName? AuthMethod.default := by
  unfold readCredentials
  split <;> rename_i hmethod <;> rw [hmethod] <;> rfl

theorem readPagination_model {pagination : Pagination}
    (h : readPagination active = .ok pagination) :
    pagination.model =
      selected active "pagination_model" PaginationModel.ofName? PaginationModel.default := by
  unfold readPagination at h
  split at h
  · rename_i hmodel
    cases h
    rw [hmodel]
    rfl
  · rename_i hmodel
    obtain ⟨key, -, h⟩ := ok_of_bind h
    rw [hmodel]
    unfold Pagination.ofKey at h
    split at h
    · cases h
      rfl
    · cases h

theorem counts_of_condition {other text : String} (hconditions : row.dependsOn = [(other, text)])
    (htext : c.textInEffect? other = some text) : c.Counts row := by
  simp [Configuration.Counts, hconditions, htext]

theorem isCredential_getText? (h : Passed c rows active) (hrow : row? name = some row)
    (hcounts : c.Counts row) (hrequired : row.required = true) :
    IsCredential (active.getText? name) := by
  obtain ⟨value, hvalue, -⟩ := h.exists_inEffect? hrow hcounts hrequired
  have htext : c.textInEffect? name = some (valueText value) := by
    rw [Configuration.textInEffect?, hvalue, Option.map_some]
  refine ⟨valueText value, ?_, c.isBlank_textInEffect? htext⟩
  rw [h.getText?_of_counts hrow hcounts, htext]

/-- Whatever the method asks for was required and is there. -/
theorem readCredentials_present (h : Passed c rows active) : (readCredentials active).Present := by
  have hname := authMethod_name h
  unfold readCredentials
  split
  · trivial
  · rename_i hmethod
    rw [hmethod] at hname
    exact ⟨isCredential_getText? h rfl (counts_of_condition rfl hname) rfl,
      isCredential_getText? h rfl (counts_of_condition rfl hname) rfl⟩
  · rename_i hmethod
    rw [hmethod] at hname
    exact isCredential_getText? h rfl (counts_of_condition rfl hname) rfl

/-- Without a body the variables of the configuration do not count. -/
theorem fixedVariables_eq_nil (h : Passed c rows active)
    (hname : c.textInEffect? "http_method" = some "get") :
    optionalObject active "graphql_variables" = .ok [] := by
  have hidle : active.get? "graphql_variables" = none := by
    apply h.get?_of_not_counts rfl
    intro hcounts
    have hpost := hcounts ("http_method", "post") (by simp)
    rw [hname] at hpost
    exact absurd hpost (by decide)
  rw [optionalObject, hidle]

/-- A connector that every later step can work with. -/
structure Sound (connector : Connector) : Prop where
  scheme : connector.endpoint.scheme = "http" ∨ connector.endpoint.scheme = "https"
  timeout : 1 ≤ connector.timeout
  mapped : connector.idMap.toList ≠ []
  idFields : ∀ entry ∈ connector.idMap.toList,
    Text.isBlank entry.2 = false ∧ Text.trim entry.2 = entry.2
  paths : ∀ entry ∈ connector.idMap.toList, DottedPath.parse? entry.1.text = some entry.1
  fixedVariables : connector.method = .get → connector.fixedVariables = []
  query : Query.check connector.query (connector.pagination.model == .cursorPagination) = .ok ()
  credentials : connector.credentials.Present

/-- The alternatives that a connector takes are those that the configuration names,
or the schema where it names none. -/
structure NamedBy (connector : Connector) (c : Configuration) : Prop where
  method : c.textInEffect? "http_method" = some connector.method.name
  authMethod : c.textInEffect? "authentication_method" = some connector.credentials.method.name
  paginationModel : c.textInEffect? "pagination_model" = some connector.pagination.model.name

theorem ReadFrom.namedBy (h : connector.ReadFrom active) (hpassed : Passed c rows active) :
    connector.NamedBy c where
  method := by
    rw [h.method]
    exact method_name hpassed
  authMethod := by
    rw [h.credentials, readCredentials_method]
    exact authMethod_name hpassed
  paginationModel := by
    rw [readPagination_model h.pagination]
    exact paginationModel_name hpassed

theorem ReadFrom.sound (h : connector.ReadFrom active) (hpassed : Passed c rows active) :
    connector.Sound where
  scheme := readEndpoint_ok h.endpoint
  timeout := readTimeout_pos h.timeout
  mapped := by
    obtain ⟨value, -, hmap⟩ := h.idMap
    exact (IdMap.ofSetting_ok hmap).1
  idFields := by
    obtain ⟨value, -, hmap⟩ := h.idMap
    exact (IdMap.ofSetting_ok hmap).2
  paths := fun entry _ => entry.1.parse?_text
  fixedVariables := by
    intro hget
    have hname := (h.namedBy hpassed).method
    rw [hget] at hname
    have hnone := h.fixedVariables
    rw [fixedVariables_eq_nil hpassed hname] at hnone
    exact (Except.ok.inj hnone).symm
  query := by
    have hchecked := h.checked
    cases hpagination : connector.pagination <;> rw [hpagination] at hchecked <;> exact hchecked
  credentials := by
    rw [h.credentials]
    exact readCredentials_present hpassed

/-- A configuration that is accepted gives a connector that is sound and takes the
alternatives named, so that no request fails for want of a credential. -/
theorem accepted_configuration_is_sound (h : ofConfiguration c = .ok connector) :
    connector.Sound ∧ connector.NamedBy c ∧
      ∀ vars mode field, connector.request vars ≠ .error (.missingCredential mode field) := by
  obtain ⟨active, hactive, hread⟩ := ofConfiguration_ok h
  have hpassed := c.activeValues_passed hactive
  have hsound := hread.sound hpassed
  exact ⟨hsound, hread.namedBy hpassed, request_ne_missingCredential hsound.credentials⟩

theorem Sample.users_ne_nil : ["users"] ≠ [] := by
  decide

theorem Sample.isSegment_users : ∀ segment ∈ ["users"], IsSegment segment := by
  simp only [List.mem_singleton, forall_eq, IsSegment]
  decide

def Sample.users : DottedPath where
  segments := ["users"]
  segments_ne_nil := users_ne_nil
  isSegment := isSegment_users

def Sample.trimmed : Connector where
  endpoint := ⟨"https", some ⟨"", "api.example.com", none⟩, "/graphql", none, none⟩
  method := .post
  credentials := .basic (some "42") (some "secret")
  query := "\x7b users \x7b id \x7d \x7d"
  fixedVariables := []
  headers := .empty
  idMap := ⟨Table.empty.insert Sample.users "id"⟩
  pagination := .none
  timeout := 300

theorem trimmed_values_are_sound :
    ofConfiguration Settings.Sample.configuration = .ok Sample.trimmed ∧
      Sample.trimmed.Sound ∧ Sample.trimmed.NamedBy Settings.Sample.configuration ∧
      ∀ vars mode field,
        Sample.trimmed.request vars ≠ .error (.missingCredential mode field) := by
  have hok : ofConfiguration Settings.Sample.configuration = .ok Sample.trimmed := by
    decide +kernel
  exact ⟨hok, accepted_configuration_is_sound hok⟩

end Connector

end PageHarvest
