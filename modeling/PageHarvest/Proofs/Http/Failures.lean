import Mathlib.Tactic.Common
import PageHarvest.Http.Request

/-!
How forming a request can fail. Either a header is refused, or a credential is
missing; and the latter only happens if the credentials of the method are not all
there.
-/

namespace PageHarvest

variable {value : Option String} {mode field text : String}

/-- A credential that can be sent: it is there, and it is not blank. -/
def IsCredential (value : Option String) : Prop :=
  ∃ text, value = some text ∧ Text.isBlank text = false

theorem requireCredential_ok (h : IsCredential value) (mode field : String) :
    ∃ text, requireCredential mode field value = .ok text := by
  obtain ⟨text, rfl, hblank⟩ := h
  exact ⟨text, by simp [requireCredential, Text.nonBlank?, hblank]⟩

theorem requireCredential_error {e : Error} (h : requireCredential mode field value = .error e) :
    e = .missingCredential mode field := by
  unfold requireCredential at h
  split at h
  · cases h
  · cases h
    rfl

namespace Credentials

/-- All credentials that the method asks for can be sent. -/
def Present : Credentials → Prop
  | .none => True
  | .basic username password => IsCredential username ∧ IsCredential password
  | .bearer token => IsCredential token

variable {credentials : Credentials} {e : Error}

theorem headerText_ok (h : credentials.Present) : ∃ text, credentials.headerText = .ok text := by
  cases credentials with
  | none => exact ⟨_, rfl⟩
  | basic username password =>
      obtain ⟨user, huser⟩ := requireCredential_ok h.1 "basic" "username"
      obtain ⟨secret, hsecret⟩ := requireCredential_ok h.2 "basic" "password"
      exact ⟨_, by simp only [headerText, huser, hsecret, bind, Except.bind]; rfl⟩
  | bearer token =>
      obtain ⟨secret, hsecret⟩ := requireCredential_ok h "bearer" "token"
      exact ⟨_, by simp only [headerText, hsecret, bind, Except.bind]; rfl⟩

theorem headerText_error (h : credentials.headerText = .error e) :
    ∃ mode field, e = .missingCredential mode field := by
  cases credentials with
  | none => cases h
  | basic username password =>
      rcases error_of_bind h with huser | ⟨user, -, h⟩
      · exact ⟨_, _, requireCredential_error huser⟩
      rcases error_of_bind h with hsecret | ⟨secret, -, h⟩
      · exact ⟨_, _, requireCredential_error hsecret⟩
      cases h
  | bearer token =>
      rcases error_of_bind h with hsecret | ⟨secret, -, h⟩
      · exact ⟨_, _, requireCredential_error hsecret⟩
      cases h

theorem apply_error {request : Request} (h : credentials.apply request = .error e) :
    credentials.headerText = .error e ∨ ∃ name message, e = .invalidHeader name message := by
  rcases error_of_bind h with htext | ⟨text, -, h⟩
  · exact .inl htext
  cases text with
  | none => cases h
  | some text =>
      right
      dsimp only at h
      split at h
      · cases h
      · cases h
        exact ⟨_, _, rfl⟩

end Credentials

theorem setHeaders_error {headers : Headers} {entries : List (String × String)} {e : Error}
    (h : Connector.setHeaders headers entries = .error e) :
    ∃ name message, e = .invalidHeader name message := by
  induction entries generalizing headers with
  | nil => cases h
  | cons entry rest ih =>
      rcases error_of_bind h with hset | ⟨next, -, h⟩
      · unfold Headers.set at hset
        split at hset
        · cases hset
          exact ⟨_, _, rfl⟩
        · split at hset
          · cases hset
          · cases hset
            exact ⟨_, _, rfl⟩
      · exact ih h

namespace Connector

variable {connector : Connector} {vars : List (String × Json)} {e : Error}

theorem request_error (h : connector.request vars = .error e) :
    connector.credentials.headerText = .error e ∨
      ∃ name message, e = .invalidHeader name message := by
  rcases error_of_bind h with hheaders | ⟨headers, -, h⟩
  · exact .inr (setHeaders_error hheaders)
  rcases error_of_bind h with happly | ⟨request, -, h⟩
  · exact Credentials.apply_error happly
  · cases h

theorem request_error_category (h : connector.request vars = .error e) :
    e.category = .auth ∨ e.category = .config := by
  rcases request_error h with hmissing | ⟨name, message, rfl⟩
  · obtain ⟨mode, field, rfl⟩ := Credentials.headerText_error hmissing
    exact .inl rfl
  · exact .inr rfl

/-- With all credentials there, only a header can be in the way of a request. -/
theorem request_ne_missingCredential (hpresent : connector.credentials.Present)
    (vars : List (String × Json)) (mode field : String) :
    connector.request vars ≠ .error (.missingCredential mode field) := by
  intro h
  rcases request_error h with hmissing | ⟨name, message, hheader⟩
  · obtain ⟨text, htext⟩ := Credentials.headerText_ok hpresent
    rw [htext] at hmissing
    cases hmissing
  · cases hheader

end Connector

end PageHarvest
