import PageHarvest.Http.Request
import PageHarvest.Proofs.Json.RoundTrip

/-!
The variables that a request carries, as a server finds them: in the body, or in
a parameter of the address that holds the text of an object. With cursor
pagination the cursor to go by is the one that is asked with; where there is
none, a configured variable of the same name takes its place.
-/

namespace PageHarvest

namespace Request

def variables? (request : Request) : Option Json :=
  match request.body with
  | some body => body.get? "variables"
  | none => (request.parameter? "variables").bind Json.parse?

def afterCursor? (request : Request) : Option String :=
  (request.variables?.bind fun vars => vars.get? afterVariable).bind Json.string?

end Request

/-- Authenticating a request leaves it as it is, or sets the header that authenticates. -/
theorem Credentials.apply_ok {credentials : Credentials} {before after : Request}
    (h : credentials.apply before = .ok after) :
    credentials.headerText = .ok Option.none ∧ after = before ∨
      ∃ text, credentials.headerText = .ok (some text) ∧
        after = before.setHeader headerName ⟨text, true⟩ := by
  obtain ⟨text, htext, h⟩ := ok_of_bind h
  cases text with
  | none =>
      cases h
      exact .inl ⟨htext, rfl⟩
  | some text =>
      dsimp only at h
      split at h
      · cases h
        exact .inr ⟨text, htext, rfl⟩
      · cases h

namespace Connector

variable {connector : Connector} {request : Request}

/-- A request that can be formed goes to the endpoint and has its variables where the
method puts them. -/
theorem request_ok {vars : List (String × Json)}
    (h : connector.request vars = .ok request) :
    ∃ headers, request = {
      method := connector.method
      url := connector.endpoint
      parameters := connector.parametersFor vars
      headers
      body := connector.bodyFor vars } := by
  obtain ⟨headers, -, h⟩ := ok_of_bind h
  obtain ⟨signed, hsigned, h⟩ := ok_of_bind h
  cases h
  rcases Credentials.apply_ok hsigned with ⟨-, rfl⟩ | ⟨text, -, rfl⟩
  · exact ⟨_, rfl⟩
  · exact ⟨_, rfl⟩

/-- The cursor that the configured variables ask with where no other is known. -/
def fixedCursor? (connector : Connector) : Option String :=
  match connector.method with
  | .post => (Entries.get? connector.fixedVariables afterVariable).bind Json.string?
  | .get => none

/-- A request asks with the cursor that it was formed with, and without one with
that of the configured variables. -/
theorem afterCursor?_eq {key : DottedPath} (hkey : connector.pagination = .cursor key)
    {cursor : Option String}
    (h : connector.request (connector.variablesAfter cursor) = .ok request) :
    request.afterCursor? = cursor.or connector.fixedCursor? := by
  obtain ⟨headers, hrequest⟩ := request_ok h
  have hparameters : request.parameters =
      connector.parametersFor (connector.variablesAfter cursor) := by rw [hrequest]
  have hbody : request.body = connector.bodyFor (connector.variablesAfter cursor) := by
    rw [hrequest]
  cases hmethod : connector.method with
  | post =>
      have hvariables : request.variables? =
          some (.object (connector.variablesAfter cursor)) := by
        simp [Request.variables?, hbody, bodyFor, hmethod, Json.get?, Entries.get?, TextKey.text]
      cases cursor with
      | none =>
          simp [Request.afterCursor?, hvariables, variablesAfter, hkey, hmethod, Json.get?,
            fixedCursor?]
      | some cursor =>
          simp [Request.afterCursor?, hvariables, variablesAfter, hkey, hmethod, Json.get?,
            Entries.get?_insert, Json.string?]
  | get =>
      cases cursor with
      | none =>
          have hvariables : request.variables? = none := by
            simp [Request.variables?, Request.parameter?, hbody, hparameters, bodyFor,
              parametersFor, hmethod, variablesAfter, hkey]
          simp [Request.afterCursor?, hvariables, fixedCursor?, hmethod]
      | some cursor =>
          have hvariables : request.variables? =
              some (.object [(afterVariable, .string cursor)]) := by
            simp [Request.variables?, Request.parameter?, hbody, hparameters, bodyFor,
              parametersFor, hmethod, variablesAfter, hkey, List.lookup_cons, Entries.insert,
              Json.parse?_compact_single]
          simp [Request.afterCursor?, hvariables, Json.get?, Entries.get?, Json.string?]

end Connector

end PageHarvest
