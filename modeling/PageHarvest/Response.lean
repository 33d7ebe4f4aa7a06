import PageHarvest.Error
import PageHarvest.Json.Printer

/-!
The envelope of a GraphQL response: errors that the server reports, and the tree
in which the configured paths are looked up.
-/

namespace PageHarvest.Response

/-- What one reported error says: its message if it has one, and else all of it. -/
def errorText (e : Json) : String :=
  match e.get? "message" with
  | some (.string message) => message
  | _ => e.compact

def checkErrors (body : Json) : Except Error Unit :=
  match body.get? "errors" with
  | some (.array (e :: es)) =>
      .error (.graphqlErrors ("; ".intercalate ((e :: es).map errorText)))
  | _ => .ok ()

def ReportsErrors (body : Json) : Prop := ∃ e es, body.get? "errors" = some (.array (e :: es))

theorem checkErrors_eq_ok_iff (body : Json) : checkErrors body = .ok () ↔ ¬ ReportsErrors body := by
  unfold checkErrors ReportsErrors
  split
  · rename_i e es herrors
    simp [herrors]
  · rename_i hnone
    simp only [true_iff]
    rintro ⟨e, es, herrors⟩
    exact hnone e es herrors

theorem checkErrors_error {body : Json} {e : Error} (h : checkErrors body = .error e) :
    ∃ message, e = .graphqlErrors message := by
  unfold checkErrors at h
  split at h
  · cases h
    exact ⟨_, rfl⟩
  · cases h

/-- The `data` object, if the body has one, and else the whole body. -/
def dataRoot (body : Json) : Json :=
  match body.get? "data" with
  | some (.object members) => .object members
  | _ => body

end PageHarvest.Response
