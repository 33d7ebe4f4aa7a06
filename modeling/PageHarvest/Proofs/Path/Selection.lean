import Mathlib.Algebra.GroupWithZero.Nat
import Mathlib.Tactic.Common
import PageHarvest.Path.Resolve

/-!
What a path means in a tree. The nodes that it selects and the arrays that it
crosses are read off the tree alone, without results and misses to keep. A lookup
finds exactly the selected nodes, in the order of the document, and it misses only
where nothing is selected and no empty array is crossed. Each crossed array that
is empty or has an item where the rest of the path is found makes one array of the
result.
-/

namespace PageHarvest

namespace Json

theorem sizeOf_lt_of_mem_items {items : List Json} {item : Json} (h : item ∈ items) :
    sizeOf item < sizeOf (Json.array items) := by
  have hitem := List.sizeOf_lt_of_mem h
  simp only [array.sizeOf_spec]
  omega

theorem sizeOf_lt_of_mem_members {members : List (String × Json)} {member : String × Json}
    (h : member ∈ members) : sizeOf member.2 < sizeOf (Json.object members) := by
  have hmember := List.sizeOf_lt_of_mem h
  obtain ⟨name, value⟩ := member
  simp only [Prod.mk.sizeOf_spec] at hmember
  simp only [object.sizeOf_spec]
  omega

/-- The nodes that segments lead to from a node, in document order. -/
def select (v : Json) (segments : List String) : List Json :=
  match v, segments with
  | v, [] => [v]
  | .object members, name :: rest =>
      match _h : Entries.get? members name with
      | some member => member.select rest
      | none => []
  | .array items, name :: rest => items.flatMap fun item => item.select (name :: rest)
  | _, _ :: _ => []
termination_by sizeOf v
decreasing_by
  · exact sizeOf_lt_of_mem_members (Entries.mem_of_get? _h)
  · exact sizeOf_lt_of_mem_items ‹_›

/-- An array that is crossed, with the segments that are left to be looked up in
each of its items. -/
structure Crossing where
  items : List Json
  left : List String

/-- The arrays that are crossed on the way, in document order: those that are
reached while segments are left. -/
def crossings (v : Json) (segments : List String) : List Crossing :=
  match v, segments with
  | _, [] => []
  | .object members, name :: rest =>
      match _h : Entries.get? members name with
      | some member => member.crossings rest
      | none => []
  | .array items, name :: rest =>
      ⟨items, name :: rest⟩ :: items.flatMap fun item => item.crossings (name :: rest)
  | _, _ :: _ => []
termination_by sizeOf v
decreasing_by
  · exact sizeOf_lt_of_mem_members (Entries.mem_of_get? _h)
  · exact sizeOf_lt_of_mem_items ‹_›

/-- Segments resolve at a node if they select something there or cross an empty
array. -/
def Resolves (v : Json) (segments : List String) : Prop :=
  v.select segments ≠ [] ∨ ∃ crossing ∈ v.crossings segments, crossing.items = []

instance (v : Json) (segments : List String) : Decidable (v.Resolves segments) :=
  inferInstanceAs (Decidable (_ ∨ _))

/-- A crossed array has a place in the result if it is empty or the segments that
are left resolve at one of its items. -/
def Crossing.Counts (c : Crossing) : Prop :=
  c.items = [] ∨ ∃ item ∈ c.items, item.Resolves c.left

instance (c : Crossing) : Decidable c.Counts :=
  inferInstanceAs (Decidable (_ ∨ _))

def arrayCount (v : Json) : Nat :=
  match v with
  | .array items => 1 + (items.map arrayCount).sum
  | .object members => (members.map fun member => member.2.arrayCount).sum
  | _ => 0
termination_by sizeOf v
decreasing_by
  · exact sizeOf_lt_of_mem_items ‹_›
  · exact sizeOf_lt_of_mem_members ‹_›

section Members

variable {members : List (String × Json)} {name : String} {rest : List String} {member : Json}

theorem select_object (h : Entries.get? members name = some member) :
    (Json.object members).select (name :: rest) = member.select rest := by
  rw [select]
  split <;> simp_all

theorem select_object_of_absent (h : Entries.get? members name = none) :
    (Json.object members).select (name :: rest) = [] := by
  rw [select]
  split <;> simp_all

theorem crossings_object (h : Entries.get? members name = some member) :
    (Json.object members).crossings (name :: rest) = member.crossings rest := by
  rw [crossings]
  split <;> simp_all

theorem crossings_object_of_absent (h : Entries.get? members name = none) :
    (Json.object members).crossings (name :: rest) = [] := by
  rw [crossings]
  split <;> simp_all

theorem resolves_object (h : Entries.get? members name = some member) :
    (Json.object members).Resolves (name :: rest) ↔ member.Resolves rest := by
  rw [Resolves, select_object h, crossings_object h, Resolves]

end Members

theorem resolves_array {items : List Json} {name : String} {rest : List String} :
    (Json.array items).Resolves (name :: rest) ↔
      items = [] ∨ ∃ item ∈ items, item.Resolves (name :: rest) := by
  simp only [Resolves, select, crossings, ne_eq, List.flatMap_eq_nil_iff, not_forall,
    List.mem_cons, List.mem_flatMap]
  grind

/-- Only where segments resolve do they cross arrays that have a place in the
result. -/
theorem resolves_of_counts {v : Json} {segments : List String} {crossing : Crossing}
    (hmem : crossing ∈ v.crossings segments) (hcounts : crossing.Counts) : v.Resolves segments := by
  induction v, segments using select.induct with
  | case1 v => simp [crossings] at hmem
  | case2 members name rest member hget ih =>
      rw [crossings_object hget] at hmem
      exact (resolves_object hget).mpr (ih hmem)
  | case3 members name rest habsent =>
      rw [crossings_object_of_absent habsent] at hmem
      cases hmem
  | case4 items name rest ih =>
      rw [crossings] at hmem
      rcases List.mem_cons.mp hmem with rfl | hmem
      · exact resolves_array.mpr hcounts
      · obtain ⟨item, hitem, hinner⟩ := List.mem_flatMap.mp hmem
        exact resolves_array.mpr (.inr ⟨item, hitem, ih item hitem hinner⟩)
  | case5 v name rest hobject harray => simp [crossings] at hmem

/-- Where segments do not resolve, nothing is selected and nothing has a place in
the result. -/
theorem nothing_of_not_resolves {v : Json} {segments : List String} (h : ¬ v.Resolves segments) :
    v.select segments = [] ∧
      (v.crossings segments).countP (fun crossing => decide crossing.Counts) = 0 := by
  constructor
  · by_contra hselect
    exact h (.inl hselect)
  · rw [List.countP_eq_zero]
    intro crossing hmem hcounts
    exact h (resolves_of_counts hmem (of_decide_eq_true hcounts))

end Json

theorem Resolved.leavesOf_eq (results : List Resolved) :
    Resolved.leavesOf results = results.flatMap Resolved.leaves := by
  induction results with
  | nil => rfl
  | cons result rest ih => rw [Resolved.leavesOf, ih, List.flatMap_cons]

theorem Resolved.toJsonOf_eq (results : List Resolved) :
    Resolved.toJsonOf results = results.map Resolved.toJson := by
  induction results with
  | nil => rfl
  | cons result rest ih => rw [Resolved.toJsonOf, ih, List.map_cons]

theorem walk_object (members : List (String × Json)) (name : String) (rest : List String)
    (depth : Nat) :
    walk (.object members) (name :: rest) depth =
      match Entries.get? members name with
      | some member => walk member rest (depth + 1)
      | none => .error depth := by
  rw [walk]
  induction members with
  | nil => rfl
  | cons member more ih =>
      obtain ⟨key, value⟩ := member
      rw [walkMember, Entries.get?]
      by_cases hkey : key = name
      · simp [hkey, TextKey.text]
      · simpa [hkey, TextKey.text] using ih

theorem walk_array (items : List Json) (name : String) (rest : List String) (depth : Nat) :
    walk (.array items) (name :: rest) depth =
      gatherItems (items.map fun item => walk item (name :: rest) depth) := by
  have hitems : walkItems items (name :: rest) depth =
      items.map fun item => walk item (name :: rest) depth := by
    induction items with
    | nil => rfl
    | cons item more ih => rw [walkItems, ih, List.map_cons]
  rw [walk, hitems]

variable {outcomes : List (Except Nat Resolved)} {result : Resolved}

theorem mem_filterMap_toOption :
    result ∈ outcomes.filterMap Except.toOption ↔ .ok result ∈ outcomes := by
  rw [List.mem_filterMap]
  constructor
  · rintro ⟨outcome, hmem, hok⟩
    cases outcome with
    | error depth => cases hok
    | ok found =>
        cases hok
        exact hmem
  · intro hmem
    exact ⟨.ok result, hmem, rfl⟩

/-- What was found in the items of an array is kept, in their order. -/
theorem gatherItems_ok (h : gatherItems outcomes = .ok result) :
    result = .many (outcomes.filterMap Except.toOption) ∧
      (outcomes = [] ∨ ∃ found, .ok found ∈ outcomes) := by
  unfold gatherItems at h
  dsimp only at h
  split at h
  · cases h
  · rename_i hnot
    cases h
    refine ⟨rfl, ?_⟩
    cases hfound : outcomes.filterMap Except.toOption with
    | cons found more => exact .inr ⟨found, mem_filterMap_toOption.mp (by simp [hfound])⟩
    | nil =>
        cases outcomes with
        | nil => exact .inl rfl
        | cons outcome rest =>
            cases outcome with
            | ok found => exact .inr ⟨found, List.mem_cons_self⟩
            | error depth => exact absurd rfl (hnot depth _ hfound)

/-- If the items of an array miss, there are some and all of them do. -/
theorem gatherItems_error {depth : Nat} (h : gatherItems outcomes = .error depth) :
    outcomes ≠ [] ∧ ∀ found, .ok found ∉ outcomes := by
  unfold gatherItems at h
  dsimp only at h
  split at h
  · rename_i hfound hmisses
    constructor
    · rintro rfl
      cases hmisses
    · intro found hmem
      have hkept := mem_filterMap_toOption.mpr hmem
      rw [hfound] at hkept
      cases hkept
  · cases h

/-- A result stands for what segments lead to from a node. -/
structure Resolved.Covers (result : Resolved) (v : Json) (segments : List String) : Prop where
  leaves : result.leaves = v.select segments
  node : (∃ value, result = .node value) ↔ v.crossings segments = []
  arrays : result.toJson.arrayCount =
    (v.crossings segments).countP (fun crossing => decide crossing.Counts) +
      ((v.select segments).map Json.arrayCount).sum

section Items

variable {items : List Json} {segments : List String} {lookup : Json → Except Nat Resolved}

/-- The results for the items of an array cover the array, item by item. -/
theorem covers_items
    (hok : ∀ item ∈ items, ∀ result, lookup item = .ok result → result.Covers item segments)
    (herror : ∀ item ∈ items, ∀ depth, lookup item = .error depth → ¬ item.Resolves segments) :
    ((items.map lookup).filterMap Except.toOption).flatMap Resolved.leaves =
        items.flatMap (fun item => item.select segments) ∧
      ((((items.map lookup).filterMap Except.toOption).map Resolved.toJson).map
          Json.arrayCount).sum =
        (items.flatMap fun item => item.crossings segments).countP
            (fun crossing => decide crossing.Counts) +
          ((items.flatMap fun item => item.select segments).map Json.arrayCount).sum := by
  induction items with
  | nil => exact ⟨rfl, rfl⟩
  | cons item rest ih =>
      obtain ⟨hleaves, harrays⟩ := ih
        (fun other hother => hok other (List.mem_cons_of_mem _ hother))
        (fun other hother => herror other (List.mem_cons_of_mem _ hother))
      simp only [List.map_cons, List.flatMap_cons, List.countP_append, List.map_append,
        List.sum_append, ← hleaves]
      cases hitem : lookup item with
      | ok result =>
          have hcovers := hok item List.mem_cons_self result hitem
          have hkept : ∀ others, List.filterMap Except.toOption (.ok result :: others) =
              result :: List.filterMap (@Except.toOption Nat Resolved) others := fun _ => rfl
          rw [hkept, List.flatMap_cons, List.map_cons, List.map_cons, List.sum_cons]
          refine ⟨by rw [hcovers.leaves], ?_⟩
          rw [hcovers.arrays, harrays, hleaves]
          omega
      | error depth =>
          obtain ⟨hselect, hcount⟩ :=
            Json.nothing_of_not_resolves (herror item List.mem_cons_self depth hitem)
          have hdropped : ∀ others, List.filterMap Except.toOption (.error depth :: others) =
              List.filterMap (@Except.toOption Nat Resolved) others := fun _ => rfl
          rw [hdropped, hselect, hcount, harrays, hleaves]
          exact ⟨rfl, by simp⟩

/-- What is gathered from the items of an array stands for the array. -/
theorem gatherItems_covers {name : String} {rest : List String}
    (hok : ∀ item ∈ items, ∀ result, lookup item = .ok result →
      result.Covers item (name :: rest) ∧ item.Resolves (name :: rest))
    (herror : ∀ item ∈ items, ∀ depth, lookup item = .error depth →
      ¬ item.Resolves (name :: rest)) :
    (∀ result, gatherItems (items.map lookup) = .ok result →
        result.Covers (.array items) (name :: rest) ∧
          (Json.array items).Resolves (name :: rest)) ∧
      ∀ miss, gatherItems (items.map lookup) = .error miss →
        ¬ (Json.array items).Resolves (name :: rest) := by
  constructor
  · intro result hresult
    obtain ⟨rfl, hsome⟩ := gatherItems_ok hresult
    have hresolves : (Json.array items).Resolves (name :: rest) := by
      rw [Json.resolves_array]
      rcases hsome with hnil | ⟨found, hfound⟩
      · exact .inl (List.map_eq_nil_iff.mp hnil)
      · obtain ⟨item, hitem, hlookup⟩ := List.mem_map.mp hfound
        exact .inr ⟨item, hitem, (hok item hitem found hlookup).2⟩
    have hcounts : (⟨items, name :: rest⟩ : Json.Crossing).Counts :=
      Json.resolves_array.mp hresolves
    obtain ⟨hleaves, harrays⟩ :=
      covers_items (fun item hitem found hfound => (hok item hitem found hfound).1) herror
    refine ⟨⟨?_, ?_, ?_⟩, hresolves⟩
    · rw [Resolved.leaves, Resolved.leavesOf_eq, hleaves, Json.select]
    · simp [Json.crossings]
    · rw [Resolved.toJson, Resolved.toJsonOf_eq, Json.arrayCount, harrays, Json.crossings,
        Json.select, List.countP_cons_of_pos (by simpa using hcounts)]
      omega
  · intro miss hmiss hresolves
    obtain ⟨hitems, hnone⟩ := gatherItems_error hmiss
    rcases Json.resolves_array.mp hresolves with hnil | ⟨item, hitem, hinner⟩
    · exact hitems (List.map_eq_nil_iff.mpr hnil)
    · cases hlookup : lookup item with
      | ok found => exact hnone found (List.mem_map.mpr ⟨item, hitem, hlookup⟩)
      | error depth => exact herror item hitem depth hlookup hinner

end Items

theorem walk_covers (v : Json) (segments : List String) (depth : Nat) :
    (∀ result, walk v segments depth = .ok result →
        result.Covers v segments ∧ v.Resolves segments) ∧
      ∀ miss, walk v segments depth = .error miss → ¬ v.Resolves segments := by
  induction v, segments using Json.select.induct generalizing depth with
  | case1 v =>
      have hwalk : walk v [] depth = .ok (.node v) := by cases v <;> rfl
      rw [hwalk]
      constructor
      · intro result hresult
        cases hresult
        refine ⟨⟨?_, ?_, ?_⟩, ?_⟩
        · rw [Resolved.leaves, Json.select]
        · simp [Json.crossings]
        · simp [Resolved.toJson, Json.crossings, Json.select]
        · exact .inl (by simp [Json.select])
      · intro miss hmiss
        cases hmiss
  | case2 members name rest member hget ih =>
      rw [walk_object, hget]
      obtain ⟨hok, herror⟩ := ih (depth + 1)
      constructor
      · intro result hresult
        obtain ⟨hcovers, hresolves⟩ := hok result hresult
        refine ⟨⟨?_, ?_, ?_⟩, (Json.resolves_object hget).mpr hresolves⟩
        · rw [hcovers.leaves, Json.select_object hget]
        · rw [hcovers.node, Json.crossings_object hget]
        · rw [hcovers.arrays, Json.crossings_object hget, Json.select_object hget]
      · intro miss hmiss
        rw [Json.resolves_object hget]
        exact herror miss hmiss
  | case3 members name rest habsent =>
      rw [walk_object, habsent]
      constructor
      · intro result hresult
        cases hresult
      · intro miss _ hresolves
        simp [Json.Resolves, Json.select_object_of_absent habsent,
          Json.crossings_object_of_absent habsent] at hresolves
  | case4 items name rest ih =>
      rw [walk_array]
      exact gatherItems_covers (fun item hitem => (ih item hitem depth).1)
        (fun item hitem => (ih item hitem depth).2)
  | case5 v name rest hobject harray =>
      have hwalk : walk v (name :: rest) depth = .error depth := by
        cases v with
        | object members => exact absurd rfl (hobject members)
        | array items => exact absurd rfl (harray items)
        | _ => rfl
      rw [hwalk]
      constructor
      · intro result hresult
        cases hresult
      · intro miss _ hresolves
        simp [Json.Resolves, Json.select, Json.crossings] at hresolves

namespace DottedPath

/-- A lookup finds what the path selects, in document order, and crosses the arrays
on the way; a result is a single node exactly if there are none. Its tree has an
array for each crossed one that is empty or has an item where the rest of the path
resolves, and no others but those in the nodes that were found. -/
theorem resolve_finds_selection (tree : Json) (p : DottedPath) :
    (∀ result, p.resolve tree = .found result →
        result.leaves = tree.select p.segments ∧
          ((∃ value, result = .node value) ↔ tree.crossings p.segments = []) ∧
          result.toJson.arrayCount =
            (tree.crossings p.segments).countP (fun crossing => decide crossing.Counts) +
              ((tree.select p.segments).map Json.arrayCount).sum) ∧
      (∀ miss, p.resolve tree = .missing miss → tree.select p.segments = []) ∧
      ((∃ result, p.resolve tree = .found result) ↔
        tree.select p.segments ≠ [] ∨
          ∃ crossing ∈ tree.crossings p.segments, crossing.items = []) := by
  obtain ⟨hok, herror⟩ := walk_covers tree p.segments 0
  unfold resolve
  cases hwalk : walk tree p.segments 0 with
  | ok result =>
      obtain ⟨hcovers, hresolves⟩ := hok result hwalk
      refine ⟨?_, ?_, ?_⟩
      · intro found hfound
        cases hfound
        exact ⟨hcovers.leaves, hcovers.node, hcovers.arrays⟩
      · intro miss hmiss
        cases hmiss
      · exact ⟨fun _ => hresolves, fun _ => ⟨result, rfl⟩⟩
  | error depth =>
      have hnothing := herror depth hwalk
      refine ⟨?_, ?_, ?_⟩
      · intro found hfound
        cases hfound
      · intro miss _
        exact (Json.nothing_of_not_resolves hnothing).1
      · constructor
        · rintro ⟨result, hresult⟩
          cases hresult
        · exact fun hresolves => absurd hresolves hnothing

namespace Sample

def ids : DottedPath where
  segments := ["orgs", "users", "id"]
  segments_ne_nil := by decide
  isSegment := by
    simp only [List.forall_mem_cons, IsSegment]
    decide

def orgs : Json :=
  .object [("orgs", .array [
    .object [("users", .array [.object [("id", .nat 1)], .object [("id", .nat 2)]])],
    .object [("name", .string "x")],
    .array []])]

def found : Resolved := .many [.many [.node (.nat 1), .node (.nat 2)], .many []]

end Sample

/-- The second organisation leaves nothing behind, and the empty list an array. -/
theorem ids_of_three_orgs :
    Sample.ids.resolve Sample.orgs = .found Sample.found ∧
      Sample.found.leaves = Sample.orgs.select Sample.ids.segments ∧
      Sample.found.toJson.arrayCount = 3 := by
  have hfound : Sample.ids.resolve Sample.orgs = .found Sample.found := rfl
  obtain ⟨hleaves, -, harrays⟩ := (resolve_finds_selection Sample.orgs Sample.ids).1 _ hfound
  exact ⟨hfound, hleaves, harrays.trans (by decide +kernel)⟩

end DottedPath

end PageHarvest
