import PageHarvest.Proofs.Connector
import PageHarvest.Proofs.Http.Variables
import PageHarvest.Proofs.Text.Form

/-!
The operation that a request carries, as a server reads it. Whether it goes into the
body or into the address, it is the query of the configuration with the same
variables. The address takes it up behind the parameters that the endpoint has of its
own, and none of its other parts changes.
-/

namespace PageHarvest

open Text (queryParameters)

/-- What the query of an address is read as. -/
def Url.parameters (u : Url) : List (String × String) := queryParameters (u.query.getD "")

theorem Url.parameters_withPairs (u : Url) (pairs : List (String × String)) :
    (u.withPairs pairs).parameters = u.parameters ++ pairs := by
  unfold withPairs
  split
  · rename_i hnone
    rw [List.isEmpty_iff.mp hnone, List.append_nil]
  · change queryParameters (String.ofList _) = _
    rw [Text.queryParameters_appendPairs, String.ofList_toList]
    rfl

/-- Parameters change nothing but the query. -/
theorem Url.withPairs_eq (u : Url) (pairs : List (String × String)) :
    { u.withPairs pairs with query := u.query } = u := by
  unfold withPairs
  split <;> rfl

namespace Connector

variable {connector : Connector} {request : Request}

def staticVariables (connector : Connector) : List (String × Json) :=
  match connector.method with
  | .post => connector.fixedVariables
  | .get => []

theorem variablesAfter_some {key : DottedPath} (hkey : connector.pagination = .cursor key)
    (cursor : String) :
    connector.variablesAfter (some cursor) =
      Entries.insert connector.staticVariables afterVariable (.string cursor) := by
  unfold variablesAfter
  rw [hkey]
  rfl

theorem variablesAfter_fixed {cursor : Option String}
    (h : connector.pagination = .none ∨ cursor = none) :
    connector.variablesAfter cursor = connector.staticVariables := by
  rcases h with hnone | rfl
  · unfold variablesAfter
    rw [hnone]
    rfl
  · unfold variablesAfter
    cases connector.pagination <;> rfl

/-- Without a body there is a cursor or nothing to be told by the variables. -/
theorem variablesAfter_get (hmethod : connector.method = .get) (cursor : Option String) :
    connector.variablesAfter cursor = [] ∨
      ∃ after, connector.variablesAfter cursor = [(afterVariable, .string after)] := by
  have hstatic : connector.staticVariables = [] := by simp only [staticVariables, hmethod]
  cases cursor with
  | none => exact .inl ((variablesAfter_fixed (.inr rfl)).trans hstatic)
  | some after =>
      cases hpagination : connector.pagination with
      | none => exact .inl ((variablesAfter_fixed (.inl hpagination)).trans hstatic)
      | cursor key =>
          right
          exact ⟨after, by rw [variablesAfter_some hpagination, hstatic]; rfl⟩

/-- The variables are those of the configuration and the cursor; a server finds them
and the query in the body, or behind the parameters of the endpoint. -/
theorem request_carries_operation (connector : Connector) (cursor : Option String)
    (h : connector.request (connector.variablesAfter cursor) = .ok request) :
    (∀ key after, connector.pagination = .cursor key → cursor = some after →
      Entries.get? (connector.variablesAfter cursor) "after" = some (.string after) ∧
        ∀ name, name ≠ "after" → Entries.get? (connector.variablesAfter cursor) name =
          Entries.get? connector.staticVariables name) ∧
    (connector.pagination = .none ∨ cursor = none →
      connector.variablesAfter cursor = connector.staticVariables) ∧
    (connector.method = .post →
      request.body = some (.object [("query", .string connector.query),
        ("variables", .object (connector.variablesAfter cursor))]) ∧
      request.fullUrl = connector.endpoint) ∧
    (connector.method = .get →
      request.body = none ∧
      { request.fullUrl with query := connector.endpoint.query } = connector.endpoint ∧
      ∃ more, request.fullUrl.parameters =
          connector.endpoint.parameters ++ ("query", connector.query) :: more ∧
        (connector.variablesAfter cursor = [] → more = []) ∧
        (connector.variablesAfter cursor ≠ [] → ∃ text, more = [("variables", text)] ∧
          Json.parse? text = some (.object (connector.variablesAfter cursor)))) := by
  obtain ⟨headers, rfl⟩ := request_ok h
  refine ⟨?_, variablesAfter_fixed, ?_, ?_⟩
  · rintro key after hkey rfl
    rw [variablesAfter_some hkey]
    refine ⟨by rw [Entries.get?_insert]; rfl, fun name hname => ?_⟩
    rw [Entries.get?_insert, if_neg fun heq => hname heq.symm]
  · intro hmethod
    have hparameters : connector.parametersFor (connector.variablesAfter cursor) = [] := by
      simp only [parametersFor, hmethod]
    refine ⟨by simp only [bodyFor, hmethod], ?_⟩
    rw [Request.fullUrl, hparameters]
    rfl
  · intro hmethod
    refine ⟨by simp only [bodyFor, hmethod], Url.withPairs_eq _ _, ?_⟩
    simp only [Request.fullUrl, Url.parameters_withPairs, parametersFor, hmethod]
    refine ⟨_, rfl, fun hnone => by simp [hnone], fun hsome => ?_⟩
    rcases variablesAfter_get hmethod cursor with hnone | ⟨after, hafter⟩
    · exact absurd hnone hsome
    · rw [hafter]
      exact ⟨_, rfl, Json.parse?_compact_single afterVariable after⟩

def Sample.paged : Connector :=
  { trimmed with
    endpoint := { trimmed.endpoint with query := some "tenant=a%20b", fragment := some "top" }
    method := .get
    pagination := .cursor users }

/-- The marks of a form inside a cursor are read back as a part of it. -/
theorem marked_cursor_is_carried :
    ∃ request text, Sample.paged.request (Sample.paged.variablesAfter (some "é+&=")) = .ok request ∧
      request.fullUrl.parameters =
        [("tenant", "a b"), ("query", Sample.paged.query), ("variables", text)] ∧
      Json.parse? text = some (.object [("after", .string "é+&=")]) ∧
      { request.fullUrl with query := some "tenant=a%20b" } = Sample.paged.endpoint := by
  cases hrequest : Sample.paged.request (Sample.paged.variablesAfter (some "é+&=")) with
  | error e =>
      have hok : (Sample.paged.request
          (Sample.paged.variablesAfter (some "é+&="))).toOption.isSome = true := by
        decide +kernel
      rw [hrequest] at hok
      cases hok
  | ok request =>
      obtain ⟨-, hrest, more, hmore, -, hsome⟩ :=
        (request_carries_operation Sample.paged (some "é+&=") hrequest).2.2.2 rfl
      obtain ⟨text, rfl, htext⟩ := hsome (by decide +kernel)
      have hown : Sample.paged.endpoint.parameters = [("tenant", "a b")] := by decide +kernel
      rw [hown] at hmore
      exact ⟨request, text, rfl, hmore, htext, hrest⟩

end Connector

end PageHarvest
