import PageHarvest.IdMap
import PageHarvest.Modes
import PageHarvest.Query.Check
import PageHarvest.Settings.Active
import PageHarvest.Text.Decimal
import PageHarvest.Url

/-!
A connector: a configuration that has been checked and read into what a sync
needs. Everything that can be wrong with the settings is found here, in a fixed
order, so that no later step meets a value that it cannot use.
-/

namespace PageHarvest

/-- The credentials of a connector. One that is absent is reported when a
request is to be authenticated, and never sent empty. -/
inductive Credentials where
  | none
  | basic (username password : Option String)
  | bearer (token : Option String)
deriving DecidableEq, Repr

namespace Credentials

instance : Inhabited Credentials := ⟨.none⟩

def method : Credentials → AuthMethod
  | .none => .none
  | .basic _ _ => .basic
  | .bearer _ => .bearer

end Credentials

inductive Pagination where
  | none
  /-- The key leads to the node that carries the page info. -/
  | cursor (key : DottedPath)
deriving DecidableEq

namespace Pagination

def ofKey (key : String) : Except Error Pagination :=
  match DottedPath.parse? key with
  | some p => .ok (.cursor p)
  | Option.none => .error (.invalidValue "pagination_key" ("'" ++ key ++ "' is not a dotted path"))

def model : Pagination → PaginationModel
  | .none => .noPagination
  | .cursor _ => .cursorPagination

def key? : Pagination → Option DottedPath
  | .none => Option.none
  | .cursor key => some key

end Pagination

/-- Settings that have been checked. -/
structure Connector where
  endpoint : Url
  method : HttpMethod
  credentials : Credentials
  query : String
  /-- Variables sent with every request; none where they go into the address. -/
  fixedVariables : List (String × Json)
  headers : Table String String
  idMap : IdMap
  pagination : Pagination
  /-- Seconds after which a request is given up. -/
  timeout : Nat
deriving DecidableEq

namespace Connector

open Settings

def required (active : ActiveValues) (name : String) : Except Error String :=
  match active.getText? name with
  | some text => .ok text
  | none => .error (.missingField name)

def readEndpoint (active : ActiveValues) : Except Error Url := do
  let raw ← required active "http_endpoint"
  match Url.parse raw with
  | .error p => throw (.invalidValue "http_endpoint" ("'" ++ raw ++ "': " ++ p.message))
  | .ok url =>
      if url.scheme = "http" ∨ url.scheme = "https" then return url
      else throw (.invalidValue "http_endpoint" ("unsupported scheme '" ++ url.scheme ++ "'"))

/-- The alternative that a setting names, or the usual one. -/
def selected {α : Type} (active : ActiveValues) (name : String) (ofName? : String → Option α)
    (default : α) : α :=
  ((active.getText? name).bind ofName?).getD default

def readCredentials (active : ActiveValues) : Credentials :=
  match selected active "authentication_method" AuthMethod.ofName? AuthMethod.default with
  | .none => .none
  | .basic => .basic (active.getText? "username") (active.getText? "password")
  | .bearer => .bearer (active.getText? "token")

def readPagination (active : ActiveValues) : Except Error Pagination :=
  match selected active "pagination_model" PaginationModel.ofName? PaginationModel.default with
  | .noPagination => .ok .none
  | .cursorPagination => do Pagination.ofKey (← required active "pagination_key")

def optionalObject (active : ActiveValues) (name : String) :
    Except Error (List (String × Json)) :=
  match active.get? name with
  | some value => objectSetting name value
  | none => .ok []

/-- Header values: strings as they are, numbers and truth values as JSON. -/
def headerValues (field : String) : List (String × Json) → Except Error (List (String × String))
  | [] => .ok []
  | (name, value) :: rest => do
      let text ←
        match value with
        | .string s => pure s
        | .number _ | .bool _ => pure value.compact
        | other =>
            throw (.malformedMap field
              ("value for '" ++ name ++ "' must be a string, got " ++ other.kind))
      return (name, text) :: (← headerValues field rest)

/-- The timeout: a positive number of seconds, as a number or as text. -/
def readTimeout (value : Option Json) : Except Error Nat :=
  match value with
  | none => .ok defaultTimeout
  | some value =>
      let seconds :=
        match value with
        | .number n => n.nat?
        | .string s => Text.natOfBits? 64 (Text.trimChars s.toList)
        | _ => none
      match seconds with
      | some (n + 1) => .ok (n + 1)
      | _ =>
          .error (.invalidValue "connection_timeout"
            ("expected a positive integer, got " ++ value.compact))

def ofConfiguration (c : Configuration) : Except Error Connector := do
  let active ← c.activeValues
  let endpoint ← readEndpoint active
  let method := selected active "http_method" HttpMethod.ofName? HttpMethod.default
  let credentials := readCredentials active
  let pagination ← readPagination active
  let query ← required active "graphql_query"
  Query.check query pagination.key?.isSome
  let fixedVariables ← optionalObject active "graphql_variables"
  let headers ← headerValues "headers" (← optionalObject active "headers")
  let idMap ←
    match active.get? IdMap.settingName with
    | some value => IdMap.ofSetting value
    | none => throw (.missingField IdMap.settingName)
  let timeout ← readTimeout (active.get? "connection_timeout")
  return {
    endpoint, method, credentials, query, fixedVariables, headers := Table.ofList headers,
    idMap, pagination, timeout }

end Connector

end PageHarvest
