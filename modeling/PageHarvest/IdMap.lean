import PageHarvest.Error
import PageHarvest.Json.Document
import PageHarvest.Path

/-!
The map from the paths of a response to the field that identifies the elements
found there. A path has one field however its segments are spaced, and a later
entry for the same path replaces an earlier one.
-/

namespace PageHarvest

/-- A setting that must be an object: given as one, or as a string that holds
one. -/
def objectSetting (field : String) (value : Json) : Except Error (List (String × Json)) := do
  let value ←
    match value with
    | .string text =>
        match Json.parse? text with
        | some v => pure v
        | none => throw (.malformedMap field "invalid JSON")
    | v => pure v
  match value with
  | .object members => return members
  | other => throw (.malformedMap field ("expected a JSON object, got " ++ other.kind))

/-- Id fields by path. -/
structure IdMap where
  entries : Table DottedPath String
deriving DecidableEq

namespace IdMap

def settingName : String := "graphql_object_to_id_map"

def empty : IdMap := ⟨Table.empty⟩

instance : Inhabited IdMap := ⟨empty⟩

/-- Adds an entry in place. The path must be a dotted path and the field not blank;
white space around the field does not count. -/
def put (path idField : String) : EStateM Error IdMap Unit :=
  match DottedPath.parse? path with
  | none => throw (.malformedMap settingName ("'" ++ path ++ "' is not a dotted path"))
  | some p =>
      if Text.isBlank idField then
        throw (.malformedMap settingName ("id field for '" ++ path ++ "' is empty"))
      else modify fun map => ⟨map.entries.insert p (Text.trim idField)⟩

def insert (map : IdMap) (path idField : String) : Except Error IdMap :=
  match put path idField map with
  | .ok _ next => .ok next
  | .error e _ => .error e

def get? (map : IdMap) (path : String) : Option String :=
  (DottedPath.parse? path).bind map.entries.get?

/-- Paths with their id fields, in the order of the paths' texts. -/
def toList (map : IdMap) : List (DottedPath × String) := map.entries.toList

def size (map : IdMap) : Nat := map.entries.size

def insertAll (map : IdMap) : List (String × Json) → Except Error IdMap
  | [] => .ok map
  | (path, .string idField) :: rest => do (← map.insert path idField).insertAll rest
  | (path, _) :: _ =>
      .error (.malformedMap settingName ("id field for '" ++ path ++ "' must be a string"))

/-- The map that a setting describes; it has at least one entry. -/
def ofSetting (value : Json) : Except Error IdMap := do
  let members ← objectSetting settingName value
  if members.isEmpty then
    throw (.malformedMap settingName "mapping must contain at least one path")
  empty.insertAll members

end IdMap

end PageHarvest
