import PageHarvest.Connector
import PageHarvest.Http.Headers
import PageHarvest.Text.Base64
import PageHarvest.Text.Quoted
import PageHarvest.Text.Utf8

/-!
The request for a page. It carries the query and its variables, in the address
or in the body, and the headers: first those of the user in the order of their
names, then the one that authenticates, then the content type, each replacing
an earlier one of its name.
-/

namespace PageHarvest

structure Request where
  method : HttpMethod
  /-- The endpoint without the parameters. -/
  url : Url
  parameters : List (String × String)
  /-- Each header with its first value. -/
  headers : Headers
  body : Option Json
  /-- Further values of headers, in the order in which they were added. -/
  further : List (String × HeaderValue) := []
deriving DecidableEq

namespace Request

def empty (method : HttpMethod) (url : Url) : Request := {
  method, url, parameters := [], headers := Table.empty, body := none }

def fullUrl (r : Request) : Url := r.url.withPairs r.parameters

def parameter? (r : Request) (name : String) : Option String := r.parameters.lookup name

/-- The headers as they are sent, one value a line. -/
def headerLines (r : Request) : List (String × HeaderValue) := r.headers.toList ++ r.further

/-- Gives a header one value, in place of all that it has. -/
def setHeader (r : Request) (name : String) (value : HeaderValue) : Request := {
  r with
  headers := r.headers.insert name value
  further := r.further.filter fun line => line.1 ≠ name }

end Request

/-- A credential that must be there and not be blank. -/
def requireCredential (mode field : String) (value : Option String) : Except Error String :=
  match value.bind Text.nonBlank? with
  | some text => .ok text
  | none => .error (.missingCredential mode field)

namespace Credentials

/-- The value of the header that authenticates, if there is to be one. -/
def headerText : Credentials → Except Error (Option String)
  | .none => .ok Option.none
  | .basic username password => do
      let username ← requireCredential "basic" "username" username
      let password ← requireCredential "basic" "password" password
      let pair := username ++ ":" ++ password
      let encoded := String.ofList (Text.base64 (Text.utf8Bytes pair.toList))
      return some ("Basic " ++ encoded)
  | .bearer token => do
      let token ← requireCredential "bearer" "token" token
      return some ("Bearer " ++ token)

def headerName : String := "authorization"

/-- Sets the header that authenticates, in place of one of the user. Without
credentials the request stays as it is. -/
def apply (credentials : Credentials) (request : Request) : Except Error Request := do
  match ← credentials.headerText with
  | Option.none => return request
  | some text =>
      if isHeaderText text then
        return request.setHeader headerName ⟨text, true⟩
      else throw (.invalidHeader headerName "failed to parse header value")

def describeOption : Option String → String
  | some text => "Some(" ++ Text.quoted text ++ ")"
  | Option.none => "None"

/-- A secret in a description: only whether it is there. -/
def describeSecret (secret : Option String) : String :=
  describeOption (secret.map fun _ => "<redacted>")

/-- A description that shows the user name and hides the secrets. -/
def describe : Credentials → String
  | .none => "None"
  | .basic username password =>
      "Basic \x7b username: " ++ describeOption username ++ ", password: " ++
        describeSecret password ++ " \x7d"
  | .bearer token => "Bearer \x7b token: " ++ describeSecret token ++ " \x7d"

end Credentials

def afterVariable : String := "after"

namespace Connector

/-- The variables of the request after a cursor: those of the configuration if
they go into the body, and the cursor if there is one to go by. -/
def variablesAfter (c : Connector) (cursor : Option String) : List (String × Json) :=
  let fixed :=
    match c.method with
    | .post => c.fixedVariables
    | .get => []
  match c.pagination, cursor with
  | .cursor _, some cursor => Entries.insert fixed afterVariable (.string cursor)
  | _, _ => fixed

def setHeaders (headers : Headers) : List (String × String) → Except Error Headers
  | [] => .ok headers
  | (name, value) :: rest => do setHeaders (← headers.set name value) rest

/-- The parameters that go into the address; variables only if there are some. -/
def parametersFor (c : Connector) (vars : List (String × Json)) : List (String × String) :=
  match c.method with
  | .post => []
  | .get =>
      ("query", c.query) ::
        if vars.isEmpty then [] else [("variables", (Json.object vars).compact)]

def bodyFor (c : Connector) (vars : List (String × Json)) : Option Json :=
  match c.method with
  | .get => none
  | .post => some (.object [("query", .string c.query), ("variables", .object vars)])

def request (c : Connector) (vars : List (String × Json)) : Except Error Request := do
  let headers ← setHeaders Table.empty c.headers.toList
  let request : Request := {
    method := c.method
    url := c.endpoint
    parameters := c.parametersFor vars
    headers
    body := c.bodyFor vars }
  let request ← c.credentials.apply request
  return request.setHeader "content-type" ⟨"application/json", false⟩

end Connector

end PageHarvest
