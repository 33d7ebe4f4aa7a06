import PageHarvest.Json.Basic

/-!
Reading values of a known shape. A record is written as an object, where members
that are not its fields do not matter, or as an array of its fields in order,
which may end early.
-/

namespace PageHarvest.Json

/-- The values of the named fields, none where a field is absent. -/
def slots? (names : List String) : Json → Option (List (Option Json))
  | .object members => some (names.map (Entries.get? members))
  | .array items =>
      if items.length ≤ names.length then
        some (items.map some ++ List.replicate (names.length - items.length) none)
      else none
  | _ => none

/-- A field that may be absent or null. -/
def optional? {α : Type} (read : Json → Option α) : Option Json → Option (Option α)
  | none | some .null => some none
  | some v => (read v).map some

def bool? : Json → Option Bool
  | .bool b => some b
  | _ => none

def nat32? : Json → Option (Fin UInt32.size)
  | .number n => n.nat?.bind fun k => if h : k < UInt32.size then some ⟨k, h⟩ else none
  | _ => none

/-- A list of values of one shape. -/
def list? {α : Type} (read : Json → Option α) : Json → Option (List α)
  | .array items => items.mapM read
  | _ => none

/-- One of several names, given as a string or as an object whose only member
has that name and the value null. -/
def choice? {α : Type} (choices : List (String × α)) : Json → Option α
  | .string name => choices.lookup name
  | .object [(name, .null)] => choices.lookup name
  | _ => none

end PageHarvest.Json
