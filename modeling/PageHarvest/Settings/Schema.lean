import PageHarvest.Settings.Descriptor

/-!
The settings of a connector, in the order in which they are shown and checked.
A setting counts only while all its conditions hold, and each condition names a
setting that stands earlier in the list.
-/

namespace PageHarvest.Settings

/-- What the connector knows of a setting. -/
structure Row where
  name : String
  label : String
  type : ValueType := .str
  /-- `text`, `textarea`, `dropdown` or `numeric`. -/
  display : String := "text"
  /-- The choices of a dropdown; none where any value may be entered. -/
  options : List Choice := []
  /-- Settings with the values they must have for this one to count. -/
  dependsOn : List (String × String) := []
  required : Bool := true
  sensitive : Bool := false
  advanced : Bool := false
  tooltip : Option String := none
  default : Option Json := none
deriving DecidableEq

/-- Seconds after which a single request is given up. -/
def defaultTimeout : Nat := 300

def rows : List Row := [
  { name := "http_endpoint", label := "GraphQL HTTP endpoint" },
  { name := "http_method"
    label := "HTTP method"
    display := "dropdown"
    options := [⟨"GET", "get"⟩, ⟨"POST", "post"⟩]
    default := some (.string "post") },
  { name := "authentication_method"
    label := "Authentication method"
    display := "dropdown"
    options := [⟨"No Auth", "none"⟩, ⟨"Basic Auth", "basic"⟩, ⟨"Bearer Token", "bearer"⟩]
    default := some (.string "none") },
  { name := "username"
    label := "Username"
    dependsOn := [("authentication_method", "basic")] },
  { name := "password"
    label := "Password"
    dependsOn := [("authentication_method", "basic")]
    sensitive := true },
  { name := "token"
    label := "Bearer Token"
    dependsOn := [("authentication_method", "bearer")]
    sensitive := true },
  { name := "graphql_query"
    label := "GraphQL Body"
    display := "textarea"
    tooltip := some ("A query operation. Cursor pagination requires an $after variable and " ++
      "pageInfo \x7b endCursor hasNextPage \x7d.") },
  { name := "graphql_variables"
    label := "Graphql Variables"
    display := "textarea"
    dependsOn := [("http_method", "post")]
    required := false
    tooltip := some "JSON object of variables sent with every request." },
  { name := "graphql_object_to_id_map"
    label := "GraphQL Objects to ID mapping"
    display := "textarea"
    tooltip := some ("JSON object mapping a dotted response path to the field that uniquely " ++
      "identifies each element, e.g. \x7b\"sampleData.users.nodes\": \"id\"\x7d.") },
  { name := "headers"
    label := "Headers"
    display := "textarea"
    required := false
    sensitive := true
    tooltip := some "JSON object of extra request headers." },
  { name := "pagination_model"
    label := "Pagination model"
    display := "dropdown"
    options := [⟨"No pagination", "no_pagination"⟩,
      ⟨"Cursor-based pagination", "cursor_pagination"⟩]
    default := some (.string "no_pagination") },
  { name := "pagination_key"
    label := "Pagination key"
    dependsOn := [("pagination_model", "cursor_pagination")]
    tooltip := some "Dotted path to the connection carrying pageInfo, e.g. sampleData.users." },
  { name := "connection_timeout"
    label := "Connection Timeout"
    type := .int
    display := "numeric"
    required := false
    advanced := true
    tooltip := some "Seconds before a single request is cancelled and retried."
    default := some (.nat defaultTimeout) }]

def row? (name : String) : Option Row := rows.find? fun r => r.name == name

namespace Row

/-- The descriptor that is published for a setting: no value is entered, and
what does not apply is left out. -/
def describe (r : Row) (order : Fin UInt32.size) : Descriptor where
  label := r.label
  order := order
  type := r.type
  options := if r.options.isEmpty then none else some r.options
  dependsOn :=
    if r.dependsOn.isEmpty then none
    else some (r.dependsOn.map fun d => ⟨d.1, .string d.2⟩)
  display := some r.display
  sensitive := if r.sensitive then some true else none
  required := if r.required then none else some false
  tooltip := r.tooltip
  default := r.default
  uiRestrictions := if r.advanced then some ["advanced"] else none

end Row

end PageHarvest.Settings
