import PageHarvest.Files.Tree

/-!
Paths made from names. A path of names has these names again, so two locations
with the same path are the same location.
-/

namespace PageHarvest.Files

/-- A text that can stand between two slashes as a name. -/
def IsName (name : String) : Prop := name ≠ "" ∧ name ≠ "." ∧ '/' ∉ name.toList

theorem isName_of_mem_names {path name : String} (h : name ∈ names path) : IsName name := by
  rw [names, List.mem_filter] at h
  obtain ⟨hpart, hcounts⟩ := h
  obtain ⟨part, hsplit, rfl⟩ := List.mem_map.mp hpart
  have hslash : '/' ∉ part := Text.sep_not_mem_split '/' _ part hsplit
  simp only [Bool.and_eq_true, bne_iff_ne] at hcounts
  exact ⟨hcounts.1, hcounts.2, by simpa using hslash⟩

/-- The names between the slashes of a text are found again. -/
theorem split_intercalate {ns : List String} (hne : ns ≠ []) (h : ∀ name ∈ ns, IsName name) :
    (Text.split '/' ("/".intercalate ns).toList).map String.ofList = ns := by
  have hparts : ∀ part ∈ ns.map String.toList, '/' ∉ part := by
    intro part hpart
    obtain ⟨name, hname, rfl⟩ := List.mem_map.mp hpart
    exact (h name hname).2.2
  have htext : ("/".intercalate ns).toList = Text.join '/' (ns.map String.toList) := by
    rw [Text.join_eq_intercalate, String.toList_intercalate]
    rfl
  rw [htext, Text.split_join '/' _ (by simpa using hne) hparts, List.map_map]
  simp [Function.comp_def]

theorem names_ofNames (absolute : Bool) {ns : List String} (h : ∀ name ∈ ns, IsName name) :
    names (ofNames absolute ns) = ns := by
  have hcounts : ns.filter (fun name => name != "" && name != ".") = ns := by
    rw [List.filter_eq_self]
    intro name hname
    simp [(h name hname).1, (h name hname).2.1]
  cases ns with
  | nil => cases absolute <;> rfl
  | cons first rest =>
      have hsplit := split_intercalate (List.cons_ne_nil first rest) h
      cases absolute with
      | false =>
          have htext : ofNames false (first :: rest) = "/".intercalate (first :: rest) :=
            String.empty_append
          simp only [names, htext, hsplit]
          exact hcounts
      | true =>
          have htext : (ofNames true (first :: rest)).toList =
              '/' :: ("/".intercalate (first :: rest)).toList :=
            String.toList_append
          simp only [names, htext, Text.split, if_true, List.map_cons, hsplit]
          rw [List.filter_cons_of_neg (by decide)]
          exact hcounts

theorem Location.path_injective {l m : Location} (hl : ∀ name ∈ l, IsName name)
    (hm : ∀ name ∈ m, IsName name) (h : l.path = m.path) : l = m := by
  rw [← names_ofNames true hl, ← names_ofNames true hm]
  exact congrArg names h

end PageHarvest.Files
