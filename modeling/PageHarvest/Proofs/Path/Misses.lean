import Mathlib.Order.MinMax
import PageHarvest.Proofs.Path.Selection

/-!
A lookup that finds nothing says where it broke off. The segments before that
place can be followed, and no more than those. An array in the way does not blur
this: its items may break off at different depths, and the deepest of them is
reported, since a shorter path is found in an array as soon as one item has it.
So a miss of one path decides the lookups of all paths that it begins with.
-/

namespace PageHarvest

theorem le_foldl_max_iff {depths : List Nat} {first bound : Nat} :
    bound ≤ depths.foldl max first ↔ bound ≤ first ∨ ∃ depth ∈ depths, bound ≤ depth := by
  induction depths generalizing first with
  | nil => simp
  | cons depth rest ih =>
      simp only [List.foldl_cons, ih, le_max_iff, List.mem_cons, exists_eq_or_imp, or_assoc]

section Items

variable {outcomes : List (Except Nat Resolved)}

theorem gatherItems_found_iff :
    (∃ result, gatherItems outcomes = .ok result) ↔
      outcomes = [] ∨ ∃ found, .ok found ∈ outcomes := by
  constructor
  · rintro ⟨result, hresult⟩
    exact (gatherItems_ok hresult).2
  · intro hsome
    cases hgather : gatherItems outcomes with
    | ok result => exact ⟨result, rfl⟩
    | error depth =>
        obtain ⟨hitems, hnone⟩ := gatherItems_error hgather
        rcases hsome with hnil | ⟨found, hfound⟩
        · exact absurd hnil hitems
        · exact absurd hfound (hnone found)

/-- An array breaks off as deep as the deepest of its items. -/
theorem le_gatherItems_error_iff {miss bound : Nat} (h : gatherItems outcomes = .error miss) :
    bound ≤ miss ↔ ∃ depth, .error depth ∈ outcomes ∧ bound ≤ depth := by
  unfold gatherItems at h
  dsimp only at h
  split at h
  · rename_i first rest _ hmisses
    cases h
    have hmem (depth : Nat) : .error depth ∈ outcomes ↔ depth ∈ first :: rest := by
      rw [← hmisses, List.mem_filterMap]
      constructor
      · intro hmem
        exact ⟨.error depth, hmem, rfl⟩
      · rintro ⟨outcome, hmem, hdepth⟩
        cases outcome with
        | error other =>
            cases hdepth
            exact hmem
        | ok found => cases hdepth
    simp only [le_foldl_max_iff, hmem, List.mem_cons, exists_eq_or_imp]
  · cases h

end Items

theorem walk_nil (v : Json) (depth : Nat) : walk v [] depth = .ok (.node v) := by
  cases v <;> rfl

/-- A walk from a depth breaks off at a deeper one: the segments up to there can
be followed, and no more. -/
structure BreaksOff (v : Json) (segments : List String) (depth miss : Nat) : Prop where
  depth_le : depth ≤ miss
  lt_end : miss < depth + segments.length
  found_iff : ∀ count ≤ segments.length,
    ((∃ result, walk v (segments.take count) depth = .ok result) ↔ depth + count ≤ miss)

namespace BreaksOff

variable {v : Json} {name : String} {rest : List String} {depth miss : Nat}

/-- At a node where the next segment cannot be followed, no matter which ones come
after it. -/
theorem here (h : ∀ more, walk v (name :: more) depth = .error depth) :
    BreaksOff v (name :: rest) depth depth where
  depth_le := Nat.le_refl depth
  lt_end := by simp
  found_iff count _ := by
    cases count with
    | zero => simp [walk_nil]
    | succ count => simp [h]

theorem member {members : List (String × Json)} {child : Json}
    (hget : Entries.get? members name = some child) (h : BreaksOff child rest (depth + 1) miss) :
    BreaksOff (.object members) (name :: rest) depth miss where
  depth_le := by
    have hdepth := h.depth_le
    omega
  lt_end := by
    have hend := h.lt_end
    rw [List.length_cons]
    omega
  found_iff count hcount := by
    have hdepth := h.depth_le
    cases count with
    | zero =>
        simp only [List.take_zero, walk_nil, Except.ok.injEq, exists_eq', Nat.add_zero, true_iff]
        omega
    | succ count =>
        rw [List.take_succ_cons, walk_object, hget]
        simp only [List.length_cons, Nat.add_le_add_iff_right] at hcount
        rw [h.found_iff count hcount]
        omega

/-- An array breaks off where the deepest of its items does. -/
theorem items {items : List Json}
    (hitems : ∀ item ∈ items, ∀ miss, walk item (name :: rest) depth = .error miss →
      BreaksOff item (name :: rest) depth miss)
    (h : walk (.array items) (name :: rest) depth = .error miss) :
    BreaksOff (.array items) (name :: rest) depth miss := by
  rw [walk_array] at h
  obtain ⟨hsome, hnone⟩ := gatherItems_error h
  have hmisses : ∀ item ∈ items, ∃ other, walk item (name :: rest) depth = .error other := by
    intro item hitem
    cases hwalk : walk item (name :: rest) depth with
    | error other => exact ⟨other, rfl⟩
    | ok found => exact absurd (List.mem_map.mpr ⟨item, hitem, hwalk⟩) (hnone found)
  -- With a bound for the depth, an item of that depth need not be picked out.
  have hdeepest (bound : Nat) : bound ≤ miss ↔
      ∃ item ∈ items, ∃ other, walk item (name :: rest) depth = .error other ∧ bound ≤ other := by
    rw [le_gatherItems_error_iff h]
    constructor
    · rintro ⟨other, hmem, hle⟩
      obtain ⟨item, hitem, hwalk⟩ := List.mem_map.mp hmem
      exact ⟨item, hitem, other, hwalk, hle⟩
    · rintro ⟨item, hitem, other, hwalk, hle⟩
      exact ⟨other, List.mem_map.mpr ⟨item, hitem, hwalk⟩, hle⟩
  have hdepth : depth ≤ miss := by
    obtain ⟨item, hitem⟩ := List.exists_mem_of_ne_nil items (by simpa using hsome)
    obtain ⟨other, hwalk⟩ := hmisses item hitem
    exact (hdeepest depth).mpr ⟨item, hitem, other, hwalk, (hitems item hitem other hwalk).depth_le⟩
  refine ⟨hdepth, ?_, ?_⟩
  · obtain ⟨item, hitem, other, hwalk, hle⟩ := (hdeepest miss).mp (Nat.le_refl miss)
    exact Nat.lt_of_le_of_lt hle (hitems item hitem other hwalk).lt_end
  · intro count hcount
    cases count with
    | zero => simpa [walk_nil] using hdepth
    | succ count =>
        rw [List.take_succ_cons, walk_array, gatherItems_found_iff, hdeepest]
        constructor
        · rintro (hnil | ⟨found, hfound⟩)
          · exact absurd hnil (by simpa using hsome)
          · obtain ⟨item, hitem, hwalk⟩ := List.mem_map.mp hfound
            obtain ⟨other, hmiss⟩ := hmisses item hitem
            exact ⟨item, hitem, other, hmiss,
              ((hitems item hitem other hmiss).found_iff (count + 1) hcount).mp ⟨found, hwalk⟩⟩
        · rintro ⟨item, hitem, other, hmiss, hle⟩
          obtain ⟨found, hwalk⟩ :=
            ((hitems item hitem other hmiss).found_iff (count + 1) hcount).mpr hle
          exact .inr ⟨found, List.mem_map.mpr ⟨item, hitem, hwalk⟩⟩

end BreaksOff

theorem walk_breaksOff {v : Json} {segments : List String} {depth miss : Nat}
    (h : walk v segments depth = .error miss) : BreaksOff v segments depth miss := by
  induction v, segments using Json.select.induct generalizing depth miss with
  | case1 v =>
      rw [walk_nil] at h
      cases h
  | case2 members name rest member hget ih =>
      rw [walk_object, hget] at h
      exact (ih h).member hget
  | case3 members name rest habsent =>
      have hwalk (more : List String) :
          walk (.object members) (name :: more) depth = .error depth := by
        rw [walk_object, habsent]
      rw [hwalk] at h
      cases h
      exact .here hwalk
  | case4 items name rest ih => exact .items (fun item hitem miss => ih item hitem) h
  | case5 v name rest hobject harray =>
      have hwalk (more : List String) : walk v (name :: more) depth = .error depth := by
        cases v with
        | object members => exact absurd rfl (hobject members)
        | array items => exact absurd rfl (harray items)
        | _ => rfl
      rw [hwalk] at h
      cases h
      exact .here hwalk

namespace DottedPath

def firstSegments (p : DottedPath) (count : Nat) (hcount : 0 < count) : DottedPath where
  segments := p.segments.take count
  segments_ne_nil := by
    have hcount' := Nat.ne_of_gt hcount
    simp [p.segments_ne_nil, hcount']
  isSegment s hs := p.isSegment s (List.mem_of_mem_take hs)

theorem resolve_found_iff (p : DottedPath) (tree : Json) :
    (∃ result, p.resolve tree = .found result) ↔
      ∃ result, walk tree p.segments 0 = .ok result := by
  unfold resolve
  cases walk tree p.segments 0 <;> simp

/-- A miss names the segment at which the lookup broke off: the paths of fewer
segments are found, those of that segment and more are not. -/
theorem miss_is_exact (tree : Json) (p : DottedPath) {miss : Miss}
    (hmiss : p.resolve tree = .missing miss) :
    miss.depth < p.segments.length ∧
      p.segments[miss.depth]? = some miss.segment ∧
      miss.total = p.segments.length ∧
      (∀ (count : Nat) (hcount : 0 < count), count ≤ p.segments.length →
        ((∃ result, (p.firstSegments count hcount).resolve tree = .found result) ↔
          count ≤ miss.depth)) ∧
      (miss.parentFound = true ↔
        p.segments.length = 1 ∨
          ∃ (hparent : 0 < p.segments.length - 1) (result : Resolved),
            (p.firstSegments (p.segments.length - 1) hparent).resolve tree = .found result) := by
  unfold resolve at hmiss
  cases hwalk : walk tree p.segments 0 with
  | ok result =>
      rw [hwalk] at hmiss
      cases hmiss
  | error depth =>
      rw [hwalk] at hmiss
      cases hmiss
      have hbreaks := walk_breaksOff hwalk
      have hend : depth < p.segments.length := by simpa using hbreaks.lt_end
      have hfound (count : Nat) (hcount : 0 < count) (hle : count ≤ p.segments.length) :
          (∃ result, (p.firstSegments count hcount).resolve tree = .found result) ↔
            count ≤ depth := by
        rw [resolve_found_iff]
        simpa [firstSegments] using hbreaks.found_iff count hle
      refine ⟨hend, ?_, rfl, hfound, ?_⟩
      · rw [List.getD_eq_getElem?_getD, List.getElem?_eq_getElem hend, Option.getD_some]
      · simp only [Miss.parentFound, beq_iff_eq]
        constructor
        · intro hparent
          by_cases hone : p.segments.length = 1
          · exact .inl hone
          · have hpos : 0 < p.segments.length - 1 := by omega
            exact .inr ⟨hpos, (hfound _ hpos (Nat.sub_le _ 1)).mpr (by omega)⟩
        · rintro (hone | ⟨hpos, hresult⟩)
          · omega
          · have hle := (hfound _ hpos (Nat.sub_le _ 1)).mp hresult
            omega

namespace Sample

def cities : DottedPath where
  segments := ["people", "address", "city", "name"]
  segments_ne_nil := by decide
  isSegment := by
    simp only [List.forall_mem_cons, IsSegment]
    decide

/-- Nobody of three has a city with a name: the first has no address, the second
one without city, and the third a city that is a text. -/
def people : Json :=
  .object [("people", .array [
    .object [],
    .array [.object [("address", .object [])]],
    .object [("address", .object [("city", .string "x")])]])]

end Sample

/-- The third person decides how far the lookup came. -/
theorem cities_without_name :
    Sample.cities.resolve Sample.people = .missing ⟨"name", 3, 4⟩ ∧
      Sample.cities.segments[3]? = some "name" ∧
      ∃ result, (Sample.cities.firstSegments 3 (by decide)).resolve Sample.people =
        .found result := by
  have hmiss : Sample.cities.resolve Sample.people = .missing ⟨"name", 3, 4⟩ := rfl
  obtain ⟨-, hsegment, -, hfound, -⟩ := miss_is_exact Sample.people Sample.cities hmiss
  exact ⟨hmiss, hsegment, (hfound 3 (by decide) (by decide)).mpr (by decide)⟩

end DottedPath

end PageHarvest
