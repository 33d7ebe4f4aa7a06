import Mathlib.Tactic.Common
import PageHarvest.Extraction

/-!
The extraction of a page, path by path. Each mapped path is extracted on its
own; the records of those that succeed and the errors of those that fail are
gathered in the order of the map. Leaving malformed elements out fails no path,
and makes no difference where there are none.
-/

namespace PageHarvest

namespace Extraction

def recordsOf : Except Error (List Record) → List Record
  | .ok records => records
  | .error _ => []

def failureOf? : Except Error (List Record) → Option Error
  | .ok _ => none
  | .error failure => some failure

theorem failureOf?_eq_none_iff (result : Except Error (List Record)) :
    failureOf? result = none ↔ ∃ records, result = .ok records := by
  cases result <;> simp [failureOf?]

theorem foldl_add (results : List (Except Error (List Record))) (found : Extraction) :
    results.foldl add found =
      ⟨found.records ++ results.flatMap recordsOf,
        found.failures ++ results.filterMap failureOf?⟩ := by
  induction results generalizing found with
  | nil => simp
  | cons result rest ih =>
      rw [List.foldl_cons, ih]
      cases result with
      | ok records => simp [add, recordsOf, List.filterMap_cons, failureOf?]
      | error failure => simp [add, recordsOf, failureOf?]

end Extraction

/-- A page is extracted path by path, and nothing is added or lost. -/
theorem extractPage_eq (map : IdMap) (policy : ExtractPolicy) (data : Json) :
    extractPage map policy data =
      ⟨map.toList.flatMap fun entry =>
          Extraction.recordsOf (extractPath policy data entry.1 entry.2),
        map.toList.filterMap fun entry =>
          Extraction.failureOf? (extractPath policy data entry.1 entry.2)⟩ := by
  rw [extractPage, Extraction.foldl_add, List.flatMap_map, List.filterMap_map]
  rfl

/-- No path fails exactly if each of them can be extracted. -/
theorem extractPage_failures_eq_nil_iff (map : IdMap) (policy : ExtractPolicy) (data : Json) :
    (extractPage map policy data).failures = [] ↔
      ∀ entry ∈ map.toList, ∃ records, extractPath policy data entry.1 entry.2 = .ok records := by
  simp only [extractPage_eq, List.filterMap_eq_nil_iff, Extraction.failureOf?_eq_none_iff]

section Policies

variable {policy : ExtractPolicy} {path : DottedPath} {idField : String} {data : Json}
  {records : List Record}

/-- Elements that the strict policy accepts are all given by any other policy. -/
theorem recordsFrom_of_strict {index : Nat} {elements : List Json}
    (h : recordsFrom .strict path idField index elements = .ok records) :
    recordsFrom policy path idField index elements = .ok records := by
  induction elements generalizing index records with
  | nil => exact h
  | cons element rest ih =>
      cases hid : identify path idField index element with
      | error e => simp [recordsFrom, hid] at h
      | ok id =>
          cases hrest : recordsFrom .strict path idField (index + 1) rest with
          | error e => simp [recordsFrom, hid, hrest, Except.map] at h
          | ok others =>
              have hothers := ih hrest
              simp only [recordsFrom, hid, hrest] at h
              simp only [recordsFrom, hid, hothers, h]

theorem recordsFrom_skipMalformed (path : DottedPath) (idField : String) (index : Nat)
    (elements : List Json) :
    ∃ records, recordsFrom .skipMalformed path idField index elements = .ok records := by
  induction elements generalizing index with
  | nil => exact ⟨[], rfl⟩
  | cons element rest ih =>
      obtain ⟨others, hothers⟩ := ih (index + 1)
      cases hid : identify path idField index element with
      | error e => exact ⟨others, by simp only [recordsFrom, hid, hothers]⟩
      | ok id => exact ⟨_, by simp only [recordsFrom, hid, hothers]; rfl⟩

theorem extractPath_of_strict (h : extractPath .strict data path idField = .ok records) :
    extractPath policy data path idField = .ok records := by
  unfold extractPath at h ⊢
  split at h
  · exact h
  · exact recordsFrom_of_strict h

theorem extractPath_skipMalformed (data : Json) (path : DottedPath) (idField : String) :
    ∃ records, extractPath .skipMalformed data path idField = .ok records := by
  unfold extractPath
  split
  · exact ⟨[], rfl⟩
  · exact recordsFrom_skipMalformed path idField 0 _

end Policies

/-- Where no path fails under the strict policy, any other gives the same. -/
theorem extractPage_of_strict {map : IdMap} {data : Json}
    (h : (extractPage map .strict data).failures = []) (policy : ExtractPolicy) :
    extractPage map policy data = extractPage map .strict data := by
  have hsame : ∀ entry ∈ map.toList, extractPath policy data entry.1 entry.2 =
      extractPath .strict data entry.1 entry.2 := by
    intro entry hentry
    have hpaths := (extractPage_failures_eq_nil_iff map .strict data).mp h
    obtain ⟨records, hrecords⟩ := hpaths entry hentry
    rw [hrecords]
    exact extractPath_of_strict hrecords
  rw [extractPage, extractPage, List.map_congr_left hsame]

theorem extractPage_skipMalformed_failures (map : IdMap) (data : Json) :
    (extractPage map .skipMalformed data).failures = [] := by
  rw [extractPage_failures_eq_nil_iff]
  exact fun entry _ => extractPath_skipMalformed data entry.1 entry.2

end PageHarvest
