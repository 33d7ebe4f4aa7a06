/-!
The alternatives that a configuration selects between, with the names under
which it selects them.
-/

namespace PageHarvest

inductive HttpMethod where
  /-- Query and variables go into the address. -/
  | get
  /-- Query and variables go into the body. -/
  | post
deriving DecidableEq, Repr

namespace HttpMethod

def choices : List (String × HttpMethod) := [("get", .get), ("post", .post)]

def ofName? (name : String) : Option HttpMethod := choices.lookup name

def name : HttpMethod → String
  | .get => "get"
  | .post => "post"

def verb : HttpMethod → String
  | .get => "GET"
  | .post => "POST"

def default : HttpMethod := .post

instance : Inhabited HttpMethod := ⟨default⟩

end HttpMethod

inductive AuthMethod where
  | none
  | basic
  | bearer
deriving DecidableEq, Repr

namespace AuthMethod

def choices : List (String × AuthMethod) := [("none", .none), ("basic", .basic), ("bearer", .bearer)]

def ofName? (name : String) : Option AuthMethod := choices.lookup name

def name : AuthMethod → String
  | .none => "none"
  | .basic => "basic"
  | .bearer => "bearer"

def default : AuthMethod := .none

instance : Inhabited AuthMethod := ⟨default⟩

end AuthMethod

inductive PaginationModel where
  /-- One request for everything. -/
  | noPagination
  /-- Each page reports the cursor after which the next one starts. -/
  | cursorPagination
deriving DecidableEq, Repr

namespace PaginationModel

def choices : List (String × PaginationModel) :=
  [("no_pagination", .noPagination), ("cursor_pagination", .cursorPagination)]

def ofName? (name : String) : Option PaginationModel := choices.lookup name

def name : PaginationModel → String
  | .noPagination => "no_pagination"
  | .cursorPagination => "cursor_pagination"

/-- The name of the alternative in descriptions of a session. -/
def label : PaginationModel → String
  | .noPagination => "NoPagination"
  | .cursorPagination => "CursorPagination"

def default : PaginationModel := .noPagination

instance : Inhabited PaginationModel := ⟨default⟩

end PaginationModel

end PageHarvest
