import PageHarvest.IdMap
import PageHarvest.Json.Printer
import PageHarvest.Json.Shape
import PageHarvest.Path.Resolve

/-!
The records of a page. Each mapped path is looked up on its own; what stands
there as a collection gives one record for each element that has an identity.
An element without one either fails its path or is left out, as the policy
says. A path that fails contributes nothing and does not affect the others.
-/

namespace PageHarvest

/-- One element found under a mapped path. -/
structure Record where
  /-- The path under which the element was found. -/
  sourcePath : String
  /-- The element's identity as text. -/
  id : String
  /-- The element itself. -/
  payload : Json
deriving DecidableEq

namespace Record

def members (r : Record) : List (String × Json) :=
  [("source_path", .string r.sourcePath), ("id", .string r.id), ("payload", r.payload)]

def ofJson? (v : Json) : Option Record := do
  match ← v.slots? ["source_path", "id", "payload"] with
  | [some path, some id, some payload] => return ⟨← path.string?, ← id.string?, payload⟩
  | _ => none

def line (r : Record) : List Char := (Json.object r.members).render ++ ['\n']

def lines (rs : List Record) : List Char := rs.flatMap line

end Record

/-- What to do with an element that has no identity. -/
inductive ExtractPolicy where
  /-- Fail the path. -/
  | strict
  /-- Leave the element out. -/
  | skipMalformed
deriving DecidableEq, Repr

namespace ExtractPolicy

instance : Inhabited ExtractPolicy := ⟨.strict⟩

def name : ExtractPolicy → String
  | .strict => "Strict"
  | .skipMalformed => "SkipMalformed"

end ExtractPolicy

/-- What one result of a lookup adds to a collection once an array was crossed:
the items of an array, nothing for null, and otherwise the node itself. -/
def leafElements : Json → List Json
  | .array items => items
  | .null => []
  | v => [v]

/-- The elements of the collection that a path leads to. A single node is a
collection only if it is an array. -/
def Resolved.elements : Resolved → List Json
  | .node (.array items) => items
  | .node _ => []
  | .many items => (leavesOf items).flatMap leafElements

/-- The identity of the element at a position: a string as it is, a number or
truth value as JSON. -/
def identify (path : DottedPath) (idField : String) (index : Nat) (element : Json) :
    Except Error String :=
  match element with
  | .object members =>
      match Entries.get? members idField with
      | none | some .null => .error (.missingIdField path.text index idField)
      | some (.string id) => .ok id
      | some (.array _) | some (.object _) => .error (.invalidIdField path.text index idField)
      | some id => .ok id.compact
  | _ => .error (.malformedElement path.text index)

/-- The records of elements, the first of which has the given position. -/
def recordsFrom (policy : ExtractPolicy) (path : DottedPath) (idField : String) (index : Nat) :
    List Json → Except Error (List Record)
  | [] => .ok []
  | element :: rest =>
      match identify path idField index element, policy with
      | .ok id, _ =>
          (recordsFrom policy path idField (index + 1) rest).map (⟨path.text, id, element⟩ :: ·)
      | .error _, .skipMalformed => recordsFrom policy path idField (index + 1) rest
      | .error e, .strict => .error e

/-- The records under one path; none if it leads nowhere. -/
def extractPath (policy : ExtractPolicy) (data : Json) (path : DottedPath) (idField : String) :
    Except Error (List Record) :=
  match path.resolve data with
  | .missing _ => .ok []
  | .found result => recordsFrom policy path idField 0 result.elements

/-- What was found on a page: records, and an error for each path that failed. -/
structure Extraction where
  records : List Record
  failures : List Error
deriving DecidableEq

namespace Extraction

def isComplete (e : Extraction) : Bool := e.failures.isEmpty

def toResult (e : Extraction) : Except Error (List Record) :=
  match e.failures with
  | [] => .ok e.records
  | failure :: _ => .error failure

def add (e : Extraction) : Except Error (List Record) → Extraction
  | .ok records => { e with records := e.records ++ records }
  | .error failure => { e with failures := e.failures ++ [failure] }

end Extraction

/-- Everything on a page, path by path in the order of the map. -/
def extractPage (map : IdMap) (policy : ExtractPolicy) (data : Json) : Extraction :=
  (map.toList.map fun entry => extractPath policy data entry.1 entry.2).foldl Extraction.add ⟨[], []⟩

end PageHarvest
