import Mathlib.Data.List.Basic
import PageHarvest.Extraction
import PageHarvest.Proofs.Paging
import PageHarvest.Proofs.Path.Misses

/-!
Paths put one after the other. What the longer path leads to is what its second
part leads to from the nodes that its first part leads to, arrays in the way or
not. From a single node this goes for the whole result and for the miss as well,
except that the depth of a miss counts from further up. So the key of a connection
and a path that goes on from there never disagree on what the connection is.
-/

namespace PageHarvest

theorem Json.select_append (v : Json) (first second : List String) :
    v.select (first ++ second) = (v.select first).flatMap fun node => node.select second := by
  induction v, first using Json.select.induct with
  | case1 v => simp [Json.select]
  | case2 members name rest member hget ih =>
      rw [List.cons_append, Json.select_object hget, Json.select_object hget, ih]
  | case3 members name rest habsent =>
      rw [List.cons_append, Json.select_object_of_absent habsent,
        Json.select_object_of_absent habsent, List.flatMap_nil]
  | case4 items name rest ih =>
      have hitems : ∀ item ∈ items, item.select (name :: (rest ++ second)) =
          (item.select (name :: rest)).flatMap fun node => node.select second := ih
      rw [List.cons_append, Json.select, Json.select, List.flatMap_assoc]
      exact List.flatMap_congr hitems
  | case5 v name rest hobject harray => simp [Json.select]

theorem foldl_max_add (depths : List Nat) (first above : Nat) :
    (depths.map (· + above)).foldl max (first + above) = depths.foldl max first + above := by
  induction depths generalizing first with
  | nil => rfl
  | cons depth rest ih =>
      rw [List.map_cons, List.foldl_cons, Nat.add_max_add_right, ih, List.foldl_cons]

/-- The depth at which an item breaks off, if it does. -/
def missOf? : Except Nat Resolved → Option Nat
  | .error depth => some depth
  | .ok _ => none

theorem gatherItems_eq (outcomes : List (Except Nat Resolved)) :
    gatherItems outcomes =
      match outcomes.filterMap Except.toOption, outcomes.filterMap missOf? with
      | [], depth :: depths => .error (depths.foldl max depth)
      | found, _ => .ok (.many found) :=
  rfl

/-- If each item breaks off deeper by the same number of segments, so does the
array. -/
theorem gatherItems_mapError (outcomes : List (Except Nat Resolved)) (above : Nat) :
    gatherItems (outcomes.map (Except.mapError (· + above))) =
      (gatherItems outcomes).mapError (· + above) := by
  have hfound : (outcomes.map (Except.mapError (· + above))).filterMap Except.toOption =
      outcomes.filterMap Except.toOption := by
    rw [List.filterMap_map]
    refine List.filterMap_congr fun outcome _ => ?_
    cases outcome <;> rfl
  have hmisses : (outcomes.map (Except.mapError (· + above))).filterMap missOf? =
      (outcomes.filterMap missOf?).map (· + above) := by
    rw [List.filterMap_map, List.map_filterMap]
    refine List.filterMap_congr fun outcome _ => ?_
    cases outcome <;> rfl
  rw [gatherItems_eq, gatherItems_eq, hfound, hmisses]
  -- A depth shows only where no item was found.
  cases outcomes.filterMap Except.toOption with
  | cons found more => rfl
  | nil =>
      cases outcomes.filterMap missOf? with
      | nil => rfl
      | cons depth depths => exact congrArg Except.error (foldl_max_add depths depth above)

theorem walk_add (v : Json) (segments : List String) (depth above : Nat) :
    walk v segments (depth + above) = (walk v segments depth).mapError (· + above) := by
  induction v, segments using Json.select.induct generalizing depth with
  | case1 v =>
      rw [walk_nil, walk_nil]
      rfl
  | case2 members name rest member hget ih =>
      rw [walk_object, walk_object, hget]
      have hinner := ih (depth + 1)
      rwa [Nat.add_right_comm] at hinner
  | case3 members name rest habsent =>
      rw [walk_object, walk_object, habsent]
      rfl
  | case4 items name rest ih =>
      rw [walk_array, walk_array, ← gatherItems_mapError, List.map_map]
      exact congrArg gatherItems (List.map_congr_left fun item hitem => ih item hitem depth)
  | case5 v name rest hobject harray =>
      cases v with
      | object members => exact absurd rfl (hobject members)
      | array items => exact absurd rfl (harray items)
      | _ => rfl

/-- A walk that comes to a single node goes on from there. -/
theorem walk_append_of_node {v node : Json} {first : List String} {depth : Nat}
    (h : walk v first depth = .ok (.node node)) (second : List String) :
    walk v (first ++ second) depth = walk node second (depth + first.length) := by
  induction v, first using Json.select.induct generalizing depth with
  | case1 v =>
      rw [walk_nil] at h
      cases h
      rfl
  | case2 members name rest member hget ih =>
      rw [walk_object, hget] at h
      rw [List.cons_append, walk_object, hget, List.length_cons, ← Nat.add_assoc,
        Nat.add_right_comm]
      exact ih h
  | case3 members name rest habsent =>
      rw [walk_object, habsent] at h
      cases h
  | case4 items name rest ih =>
      -- What an array gives is never a single node.
      rw [walk_array] at h
      cases (gatherItems_ok h).1
  | case5 v name rest hobject harray =>
      cases v with
      | object members => exact absurd rfl (hobject members)
      | array items => exact absurd rfl (harray items)
      | _ => cases h

namespace Lookup

def leaves : Lookup → List Json
  | .found result => result.leaves
  | .missing _ => []

/-- A lookup as it looks from a number of segments further up. -/
def seenFrom (above : Nat) : Lookup → Lookup
  | .found result => .found result
  | .missing miss => .missing ⟨miss.segment, miss.depth + above, miss.total + above⟩

end Lookup

namespace DottedPath

/-- One path after the other. -/
instance : Append DottedPath where
  append p q := {
    segments := p.segments ++ q.segments
    segments_ne_nil := by simp [p.segments_ne_nil]
    isSegment := by
      intro s hs
      exact (List.mem_append.mp hs).elim (p.isSegment s) (q.isSegment s) }

@[simp] theorem segments_append (p q : DottedPath) : (p ++ q).segments = p.segments ++ q.segments :=
  rfl

theorem pieces_append (first second : String) :
    pieces (first ++ "." ++ second) = pieces first ++ pieces second := by
  have hchars : (first ++ "." ++ second).toList = first.toList ++ '.' :: second.toList := by simp
  rw [pieces, hchars, Text.split_append, List.map_append]
  rfl

theorem parse?_append {first second : String} {p q : DottedPath} (hp : parse? first = some p)
    (hq : parse? second = some q) : parse? (first ++ "." ++ second) = some (p ++ q) := by
  rw [parse?_eq_some_iff] at hp hq ⊢
  rw [pieces_append, hp, hq, segments_append, List.map_append]

theorem leaves_resolve (p : DottedPath) (tree : Json) :
    (p.resolve tree).leaves = tree.select p.segments := by
  obtain ⟨hok, herror⟩ := walk_covers tree p.segments 0
  unfold resolve
  cases hwalk : walk tree p.segments 0 with
  | ok result => exact (hok result hwalk).1.leaves
  | error depth => exact (Json.nothing_of_not_resolves (herror depth hwalk)).1.symm

theorem resolve_append_of_node {p : DottedPath} {tree node : Json}
    (h : p.resolve tree = .found (.node node)) (q : DottedPath) :
    (p ++ q).resolve tree = (q.resolve node).seenFrom p.segments.length := by
  have hfirst : walk tree p.segments 0 = .ok (.node node) := by
    unfold resolve at h
    split at h
    · rename_i result hwalk
      cases h
      exact hwalk
    · cases h
  have hwalk := walk_append_of_node hfirst q.segments
  rw [walk_add] at hwalk
  unfold resolve
  rw [segments_append, hwalk]
  cases walk node q.segments 0 with
  | ok result => rfl
  | error depth =>
      have hsegment : (p.segments ++ q.segments).getD (depth + p.segments.length) "" =
          q.segments.getD depth "" := by
        simp [List.getD_eq_getElem?_getD, List.getElem?_append_right]
      simp only [Except.mapError, Lookup.seenFrom, hsegment, List.length_append, Nat.add_comm]

/-- Two texts that are paths make a longer one with a dot between them. It leads to
the nodes to which the second path leads from the nodes of the first one, in order.
Where the first path leads to a single node, the longer path has the result that the
second one has there, or misses the same segment with its place counted from further
up. This node is the connection if the first path is the pagination key, so a mapped
path that goes on from there has its records from the same connection. -/
theorem paths_compose {first second : String} {p q : DottedPath} (hp : parse? first = some p)
    (hq : parse? second = some q) (tree : Json) :
    parse? (first ++ "." ++ second) = some (p ++ q) ∧
      ((p ++ q).resolve tree).leaves =
        (p.resolve tree).leaves.flatMap (fun leaf => (q.resolve leaf).leaves) ∧
      (∀ node, p.resolve tree = .found (.node node) →
        (p ++ q).resolve tree = (q.resolve node).seenFrom p.segments.length) ∧
      ∀ node, Pagination.connection p tree = .ok node → ∀ policy idField,
        extractPath policy tree (p ++ q) idField =
          match q.resolve node with
          | .found result => recordsFrom policy (p ++ q) idField 0 result.elements
          | .missing _ => .ok [] := by
  refine ⟨parse?_append hp hq, ?_, fun node hnode => resolve_append_of_node hnode q, ?_⟩
  · simp only [leaves_resolve, segments_append, Json.select_append]
  · intro node hnode policy idField
    have hresolve := resolve_append_of_node (Pagination.connection_ok hnode) q
    unfold extractPath
    rw [hresolve]
    cases q.resolve node <;> rfl

namespace Sample

def allUsers : DottedPath where
  segments := ["data", "users"]
  segments_ne_nil := by decide
  isSegment := by
    simp only [List.forall_mem_cons, IsSegment]
    decide

def nodes : DottedPath where
  segments := ["edges", "node"]
  segments_ne_nil := by decide
  isSegment := by
    simp only [List.forall_mem_cons, IsSegment]
    decide

def user (id : Nat) : Json := .object [("id", .nat id)]

def edges : Json :=
  .object [("edges", .array [
    .object [("node", user 1)],
    .object [("cursor", .string "b")],
    .array [.object [("node", user 2)]],
    .array []])]

def page : Json := .object [("data", .object [("users", edges)])]

end Sample

/-- White space around a segment makes no other connection of it. -/
theorem users_at_their_connection :
    parse? " data. users" = some Sample.allUsers ∧ parse? "edges.node" = some Sample.nodes ∧
      parse? " data. users.edges.node" = some (Sample.allUsers ++ Sample.nodes) ∧
      Pagination.connection Sample.allUsers Sample.page = .ok Sample.edges ∧
      (Sample.allUsers ++ Sample.nodes).resolve Sample.page =
        .found (.many [.node (Sample.user 1), .many [.node (Sample.user 2)], .many []]) ∧
      extractPath .strict Sample.page (Sample.allUsers ++ Sample.nodes) "id" =
        .ok [⟨"data.users.edges.node", "1", Sample.user 1⟩,
          ⟨"data.users.edges.node", "2", Sample.user 2⟩] := by
  have husers : parse? " data. users" = some Sample.allUsers := by decide +kernel
  have hnodes : parse? "edges.node" = some Sample.nodes := by decide +kernel
  have hconnection : Pagination.connection Sample.allUsers Sample.page = .ok Sample.edges := rfl
  obtain ⟨hparse, -, hfound, hrecords⟩ := paths_compose husers hnodes Sample.page
  refine ⟨husers, hnodes, hparse, hconnection, ?_, ?_⟩
  · exact hfound Sample.edges (Pagination.connection_ok hconnection)
  · exact hrecords Sample.edges hconnection .strict "id"

end DottedPath

end PageHarvest
