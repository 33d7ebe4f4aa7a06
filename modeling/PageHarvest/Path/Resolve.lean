import PageHarvest.Json.Basic
import PageHarvest.Path

/-!
Looking up a dotted path in a JSON tree. An object is descended by the name of
the segment. An array is crossed without consuming a segment: the rest of the
path is looked up in each item, and the items where it is found make up the
result. A lookup that finds nothing tells how far it came.
-/

namespace PageHarvest

/-- What a path leads to: one node, or one result for each item of an array
that was crossed. -/
inductive Resolved where
  | node (value : Json)
  | many (items : List Resolved)

namespace Resolved

def node? : Resolved → Option Json
  | .node value => some value
  | .many _ => none

mutual

/-- The nodes reached, in document order. -/
def leaves : Resolved → List Json
  | .node value => [value]
  | .many items => leavesOf items
termination_by structural r => r

def leavesOf : List Resolved → List Json
  | [] => []
  | r :: rest => leaves r ++ leavesOf rest
termination_by structural rs => rs

end

mutual

/-- The result as a tree, with an array for each one that was crossed. -/
def toJson : Resolved → Json
  | .node value => value
  | .many items => .array (toJsonOf items)
termination_by structural r => r

def toJsonOf : List Resolved → List Json
  | [] => []
  | r :: rest => toJson r :: toJsonOf rest
termination_by structural rs => rs

end

end Resolved

/-- Where a lookup stopped: the segment that is absent, its position and the
number of segments. -/
structure Miss where
  segment : String
  depth : Nat
  total : Nat
deriving DecidableEq, Repr

/-- True when only the last segment is absent. -/
def Miss.parentFound (m : Miss) : Bool := m.depth + 1 == m.total

inductive Lookup where
  | found (result : Resolved)
  | missing (miss : Miss)

/-- The results for the items of an array, put together: those that were found,
or the deepest of the misses if all items miss. An empty array is found. -/
def gatherItems (outcomes : List (Except Nat Resolved)) : Except Nat Resolved :=
  let found := outcomes.filterMap Except.toOption
  let misses := outcomes.filterMap fun o => match o with | .error d => some d | .ok _ => none
  match found, misses with
  | [], d :: ds => .error (ds.foldl max d)
  | found, _ => .ok (.many found)

mutual

/-- Follows the segments from a node at the given depth. A miss is the depth of
the segment that is absent. -/
def walk : Json → List String → Nat → Except Nat Resolved
  | v, [], _ => .ok (.node v)
  | .object members, name :: rest, depth => walkMember members name rest depth
  | .array items, name :: rest, depth => gatherItems (walkItems items (name :: rest) depth)
  | _, _ :: _, depth => .error depth
termination_by structural v => v

def walkMember : List (String × Json) → String → List String → Nat → Except Nat Resolved
  | [], _, _, depth => .error depth
  | (k, v) :: more, name, rest, depth =>
      if k = name then walk v rest (depth + 1) else walkMember more name rest depth
termination_by structural members => members

def walkItems : List Json → List String → Nat → List (Except Nat Resolved)
  | [], _, _ => []
  | v :: more, segments, depth => walk v segments depth :: walkItems more segments depth
termination_by structural items => items

end

namespace DottedPath

def resolve (p : DottedPath) (tree : Json) : Lookup :=
  match walk tree p.segments 0 with
  | .ok result => .found result
  | .error depth => .missing ⟨p.segments.getD depth "", depth, p.segments.length⟩

end DottedPath

/-- Looks up the path that a text is. A text that is no path is a miss at its
one segment. -/
def resolveText (tree : Json) (raw : String) : Lookup :=
  match DottedPath.parse? raw with
  | some p => p.resolve tree
  | none => .missing ⟨raw, 0, 1⟩

end PageHarvest
