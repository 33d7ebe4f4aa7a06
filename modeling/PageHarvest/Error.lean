/-!
What can go wrong, from reading the configuration to committing a cursor. Each
error has a text, a category and a verdict on whether the same request may be
sent again.
-/

namespace PageHarvest

/-- Why an HTTP exchange broke off without a status that could be judged. -/
inductive HttpFault where
  /-- No connection to the server of this address could be made. -/
  | connect (url : String)
  /-- The body ended before the announced length. -/
  | body
  /-- The request could not be formed. -/
  | request
deriving DecidableEq, Repr

namespace HttpFault

def message : HttpFault → String
  | .connect url => "error sending request for url (" ++ url ++ ")"
  | .body => "error decoding response body"
  | .request => "builder error"

/-- True where the server may not have seen the request. -/
def isConnect : HttpFault → Bool
  | .connect _ => true
  | _ => false

end HttpFault

inductive Error where
  | config (message : String)
  | missingField (field : String)
  | missingDependency (field dependsOn : String)
  | invalidOption (field value allowed : String)
  | malformedMap (field message : String)
  | invalidValue (field message : String)
  | invalidYaml
  | invalidJson
  | missingCredential (mode field : String)
  | http (fault : HttpFault)
  | httpStatus (status : Nat) (body : String)
  | rateLimited (retryAfter : Nat)
  | timeout (milliseconds : Nat)
  | invalidHeader (name message : String)
  | graphqlErrors (message : String)
  | decode (message : String)
  | paginationKeyNotFound (path : String)
  | malformedPageInfo (path message : String)
  | missingIdField (path : String) (index : Nat) (idField : String)
  | invalidIdField (path : String) (index : Nat) (idField : String)
  | malformedElement (path : String) (index : Nat)
  | state (message : String)
  | aborted (lastCursor : Option String) (source : Error)
  | io (message : String)
  | fileNotFound (path : String)
  | other (message : String)
deriving DecidableEq, Repr

inductive ErrorCategory where
  | config
  | auth
  | transport
  | graphql
  | pagination
  | extraction
  | state
  | other
deriving DecidableEq, Repr

/-- Too many requests, or a failure on the server's side. -/
def isRetryableStatus (status : Nat) : Bool :=
  status == 429 || (500 ≤ status && status ≤ 599)

namespace Error

instance : Inhabited Error := ⟨.other ""⟩

def message : Error → String
  | .config m => "Configuration error: " ++ m
  | .missingField f => "Missing required config field: " ++ f
  | .missingDependency f d => "Missing config field '" ++ f ++ "' required when " ++ d
  | .invalidOption f v allowed =>
      "Invalid value '" ++ v ++ "' for '" ++ f ++ "', expected one of: " ++ allowed
  | .malformedMap f m => "Malformed mapping in '" ++ f ++ "': " ++ m
  | .invalidValue f m => "Invalid config value for '" ++ f ++ "': " ++ m
  | .invalidYaml => "Failed to parse YAML"
  | .invalidJson => "Failed to parse JSON"
  | .missingCredential mode f =>
      "Missing credential '" ++ f ++ "' for " ++ mode ++ " authentication"
  | .http fault => "HTTP request failed: " ++ fault.message
  | .httpStatus status body => "HTTP " ++ toString status ++ ": " ++ body
  | .rateLimited seconds => "Rate limited, retry after " ++ toString seconds ++ "s"
  | .timeout ms => "Request timeout after " ++ toString ms ++ "ms"
  | .invalidHeader name m => "Invalid header '" ++ name ++ "': " ++ m
  | .graphqlErrors m => "GraphQL server returned errors: " ++ m
  | .decode m => "Failed to decode response: " ++ m
  | .paginationKeyNotFound p => "Pagination key '" ++ p ++ "' not found in response"
  | .malformedPageInfo p m => "Malformed pageInfo at '" ++ p ++ "': " ++ m
  | .missingIdField p i f =>
      "Element " ++ toString i ++ " under '" ++ p ++ "' has no '" ++ f ++ "' field"
  | .invalidIdField p i f =>
      "Element " ++ toString i ++ " under '" ++ p ++ "' has a non-scalar '" ++ f ++ "' field"
  | .malformedElement p i => "Element " ++ toString i ++ " under '" ++ p ++ "' is not an object"
  | .state m => "State error: " ++ m
  | .aborted cursor source =>
      "Sync aborted (last committed cursor: " ++ cursor.getD "<none>" ++ "): " ++ source.message
  | .io m => "IO error: " ++ m
  | .fileNotFound p => "File not found: " ++ p
  | .other m => m

/-- The category of an error; an aborted sync has that of its cause. -/
def category : Error → ErrorCategory
  | .config _ | .missingField _ | .missingDependency _ _ | .invalidOption _ _ _
  | .malformedMap _ _ | .invalidValue _ _ | .invalidYaml | .invalidHeader _ _ => .config
  | .missingCredential _ _ => .auth
  | .http _ | .httpStatus _ _ | .rateLimited _ | .timeout _ => .transport
  | .graphqlErrors _ | .decode _ | .invalidJson => .graphql
  | .paginationKeyNotFound _ | .malformedPageInfo _ _ => .pagination
  | .missingIdField _ _ _ | .invalidIdField _ _ _ | .malformedElement _ _ => .extraction
  | .state _ => .state
  | .aborted _ source => source.category
  | .io _ | .fileNotFound _ | .other _ => .other

/-- Whether the request that met this error may be sent again. -/
def isRetryable : Error → Bool
  | .http fault => fault.isConnect
  | .rateLimited _ | .timeout _ => true
  | .httpStatus status _ => isRetryableStatus status
  | _ => false

/-- The error under a heading that says what was being done. -/
def withContext (e : Error) (context : String) : Error :=
  .other (context ++ ": " ++ e.message)

end Error

variable {α β : Type} {x : Except Error α} {f : α → Except Error β}

theorem ok_of_bind {b : β} (h : (x >>= f) = .ok b) : ∃ a, x = .ok a ∧ f a = .ok b := by
  cases x with
  | error e => cases h
  | ok a => exact ⟨a, rfl, h⟩

theorem error_of_bind {e : Error} (h : (x >>= f) = .error e) :
    x = .error e ∨ ∃ a, x = .ok a ∧ f a = .error e := by
  cases x with
  | error other =>
      cases h
      exact .inl rfl
  | ok a => exact .inr ⟨a, rfl, h⟩

end PageHarvest
