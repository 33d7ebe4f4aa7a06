import Mathlib.Data.List.Basic
import PageHarvest.Proofs.Extraction.Collection
import PageHarvest.Proofs.Path.Misses

/-!
Mapped paths do not affect each other. What a page gives under one path, be it
records or a failure, depends on the entry of this path alone: it is the same for
every map with that entry, and the other paths neither gain nor lose by it, even
if they lead to the same elements. Taken as a whole, a page fails with the first
path that does.
-/

namespace PageHarvest

namespace Entries

variable {κ α β : Type} [TextKey κ] {es : List (κ × α)} {f : κ × α → List β}

/-- What one entry contributes can be told from the contributions of the others. -/
theorem filter_flatMap_of_mem (h : Distinct es) {e : κ × α} (he : e ∈ es) {belongs : β → Bool}
    (hself : ∀ b ∈ f e, belongs b = true)
    (hother : ∀ d ∈ es, TextKey.text d.1 ≠ TextKey.text e.1 → ∀ b ∈ f d, belongs b = false) :
    (es.flatMap f).filter belongs = f e := by
  induction es with
  | nil => cases he
  | cons d rest ih =>
      obtain ⟨hd, hrest⟩ := List.pairwise_cons.mp h
      have hlater : ∀ c ∈ rest, TextKey.text c.1 ≠ TextKey.text e.1 → ∀ b ∈ f c, belongs b = false :=
        fun c hc => hother c (List.mem_cons_of_mem _ hc)
      rw [List.flatMap_cons, List.filter_append]
      rcases List.mem_cons.mp he with rfl | he
      · have hnone : (rest.flatMap f).filter belongs = [] := by
          rw [List.filter_eq_nil_iff]
          intro b hb
          obtain ⟨c, hc, hb⟩ := List.mem_flatMap.mp hb
          simp [hlater c hc (Ne.symm (hd c hc)) b hb]
        rw [List.filter_eq_self.mpr hself, hnone, List.append_nil]
      · have hnone : (f d).filter belongs = [] := by
          rw [List.filter_eq_nil_iff]
          intro b hb
          simp [hother d List.mem_cons_self (hd e he) b hb]
        rw [hnone, List.nil_append, ih hrest he hlater]

/-- A key whose entry contributes nothing may be taken out. -/
theorem flatMap_erase {k : κ}
    (hnothing : ∀ e ∈ es, TextKey.text e.1 = TextKey.text k → f e = []) :
    (erase es k).flatMap f = es.flatMap f := by
  induction es with
  | nil => rfl
  | cons d rest ih =>
      have hrest := ih fun e he => hnothing e (List.mem_cons_of_mem _ he)
      unfold erase at hrest ⊢
      by_cases hd : TextKey.text d.1 = TextKey.text k
      · rw [List.filter_cons_of_neg (by simpa using hd), List.flatMap_cons,
          hnothing d List.mem_cons_self hd, List.nil_append, hrest]
      · rw [List.filter_cons_of_pos (by simpa using hd), List.flatMap_cons, List.flatMap_cons,
          hrest]

end Entries

def Error.elementPath? : Error → Option String
  | .malformedElement path _ | .missingIdField path _ _ | .invalidIdField path _ _ => some path
  | _ => none

variable {policy : ExtractPolicy} {path : DottedPath} {idField : String} {data : Json}

theorem elementPath?_complaint (path : DottedPath) (idField : String) (index : Nat)
    (element : Json) : (complaint path idField index element).elementPath? = some path.text := by
  unfold complaint
  split <;> rfl

theorem sourcePath_of_extractPath {r : Record}
    (hr : r ∈ Extraction.recordsOf (extractPath policy data path idField)) :
    r.sourcePath = path.text := by
  rw [extractPath_eq] at hr
  cases hrecords : recordsFrom policy path idField 0 (data.collection path.segments) with
  | error e =>
      rw [hrecords] at hr
      cases hr
  | ok records =>
      rw [hrecords, Extraction.recordsOf, records_of_recordsFrom hrecords] at hr
      obtain ⟨element, -, hrecord⟩ := List.mem_filterMap.mp hr
      obtain ⟨id, -, rfl⟩ := Option.map_eq_some_iff.mp hrecord
      rfl

theorem elementPath?_of_extractPath {e : Error}
    (h : extractPath policy data path idField = .error e) :
    e.elementPath? = some path.text := by
  rw [extractPath_eq] at h
  obtain ⟨position, element, rfl⟩ := complaint_of_recordsFrom h
  exact elementPath?_complaint path idField position element

namespace Extraction

def recordsUnder (e : Extraction) (path : DottedPath) : List Record :=
  e.records.filter fun r => r.sourcePath == path.text

def failuresUnder (e : Extraction) (path : DottedPath) : List Error :=
  e.failures.filter fun failure => failure.elementPath? == some path.text

end Extraction

namespace IdMap

def without (map : IdMap) (path : DottedPath) : IdMap := ⟨map.entries.erase path⟩

end IdMap

variable {map : IdMap} {entry : DottedPath × String}

/-- What a page gives under a mapped path is what the path gives on its own. -/
theorem recordsUnder_extractPage (policy : ExtractPolicy) (data : Json)
    (hentry : entry ∈ map.toList) :
    (extractPage map policy data).recordsUnder entry.1 =
      Extraction.recordsOf (extractPath policy data entry.1 entry.2) := by
  rw [extractPage_eq]
  apply Entries.filter_flatMap_of_mem map.entries.sorted.distinct hentry
  · intro r hr
    simp [sourcePath_of_extractPath hr]
  · intro other _ hne r hr
    rw [sourcePath_of_extractPath hr]
    exact beq_false_of_ne hne

theorem failuresUnder_extractPage (policy : ExtractPolicy) (data : Json)
    (hentry : entry ∈ map.toList) :
    (extractPage map policy data).failuresUnder entry.1 =
      (Extraction.failureOf? (extractPath policy data entry.1 entry.2)).toList := by
  have hpath : ∀ (other : DottedPath × String) (e : Error),
      e ∈ (Extraction.failureOf? (extractPath policy data other.1 other.2)).toList →
        e.elementPath? = some other.1.text := by
    intro other e he
    cases hother : extractPath policy data other.1 other.2 with
    | ok records => simp [hother, Extraction.failureOf?] at he
    | error failure =>
        obtain rfl : e = failure := by simpa [hother, Extraction.failureOf?] using he
        exact elementPath?_of_extractPath hother
  rw [extractPage_eq, Extraction.failuresUnder, List.filterMap_eq_flatMap_toList]
  apply Entries.filter_flatMap_of_mem map.entries.sorted.distinct hentry
  · intro e he
    simp [hpath entry e he]
  · intro other _ hne e he
    have hother : ¬ other.1.text = entry.1.text := hne
    simp [hpath other e he, hother]

/-- Whether a path that fails is mapped or not makes no difference for the records. -/
theorem records_without_failing (hentry : entry ∈ map.toList) {e : Error}
    (hfails : extractPath policy data entry.1 entry.2 = .error e) :
    (extractPage (map.without entry.1) policy data).records =
      (extractPage map policy data).records := by
  rw [extractPage_eq, extractPage_eq]
  apply Entries.flatMap_erase
  intro other hother hkey
  obtain rfl := map.entries.sorted.distinct.eq_of_mem hother hentry (TextKey.text_injective hkey)
  rw [hfails]
  rfl

theorem toResult_ok_iff {records : List Record} :
    (extractPage map policy data).toResult = .ok records ↔
      (∀ entry ∈ map.toList, ∃ found, extractPath policy data entry.1 entry.2 = .ok found) ∧
        records = (extractPage map policy data).records := by
  rw [← extractPage_failures_eq_nil_iff]
  unfold Extraction.toResult
  cases (extractPage map policy data).failures <;> simp [eq_comm]

/-- A page fails with the first path that fails. -/
theorem toResult_error_iff {e : Error} :
    (extractPage map policy data).toResult = .error e ↔
      ∃ before entry after, map.toList = before ++ entry :: after ∧
        extractPath policy data entry.1 entry.2 = .error e ∧
        ∀ earlier ∈ before, ∃ found, extractPath policy data earlier.1 earlier.2 = .ok found := by
  have hfailure : ∀ result : Except Error (List Record),
      Extraction.failureOf? result = some e ↔ result = .error e := by
    intro result
    cases result <;> simp [Extraction.failureOf?]
  have hhead : (extractPage map policy data).toResult = .error e ↔
      (extractPage map policy data).failures.head? = some e := by
    unfold Extraction.toResult
    cases (extractPage map policy data).failures <;> simp
  rw [hhead, extractPage_eq, List.head?_filterMap, List.findSome?_eq_some_iff]
  simp only [hfailure, Extraction.failureOf?_eq_none_iff]

/-- A page holds what its paths give, in the order of the paths: the records of those
that succeed, and the failures of the others. So an entry gives the same in every map,
a path that fails adds no record and takes none from the others, and as a whole the
page gives all records, or the failure of the first path that fails. -/
theorem mapped_paths_are_independent (policy : ExtractPolicy) (data : Json) :
    (∀ map : IdMap, Entries.Sorted map.toList ∧
      extractPage map policy data =
        ⟨map.toList.flatMap fun entry =>
            Extraction.recordsOf (extractPath policy data entry.1 entry.2),
          map.toList.filterMap fun entry =>
            Extraction.failureOf? (extractPath policy data entry.1 entry.2)⟩) ∧
      (∀ map other : IdMap, ∀ entry ∈ map.toList, entry ∈ other.toList →
        (extractPage map policy data).recordsUnder entry.1 =
            (extractPage other policy data).recordsUnder entry.1 ∧
          (extractPage map policy data).failuresUnder entry.1 =
            (extractPage other policy data).failuresUnder entry.1) ∧
      (∀ map : IdMap, ∀ entry ∈ map.toList, ∀ e,
        extractPath policy data entry.1 entry.2 = .error e →
          (extractPage map policy data).recordsUnder entry.1 = [] ∧
            (extractPage map policy data).failuresUnder entry.1 = [e] ∧
            (extractPage (map.without entry.1) policy data).records =
              (extractPage map policy data).records) ∧
      ∀ map : IdMap,
        (∀ records, (extractPage map policy data).toResult = .ok records ↔
          (∀ entry ∈ map.toList, ∃ found, extractPath policy data entry.1 entry.2 = .ok found) ∧
            records = (extractPage map policy data).records) ∧
        ∀ e, (extractPage map policy data).toResult = .error e ↔
          ∃ before entry after, map.toList = before ++ entry :: after ∧
            extractPath policy data entry.1 entry.2 = .error e ∧
            ∀ earlier ∈ before, ∃ found,
              extractPath policy data earlier.1 earlier.2 = .ok found := by
  refine ⟨fun map => ⟨map.entries.sorted, extractPage_eq map policy data⟩, ?_, ?_, ?_⟩
  · intro map other entry hmap hother
    rw [recordsUnder_extractPage policy data hmap, recordsUnder_extractPage policy data hother,
      failuresUnder_extractPage policy data hmap, failuresUnder_extractPage policy data hother]
    exact ⟨rfl, rfl⟩
  · intro map entry hentry e hfails
    refine ⟨?_, ?_, records_without_failing hentry hfails⟩
    · rw [recordsUnder_extractPage policy data hentry, hfails]
      rfl
    · rw [failuresUnder_extractPage policy data hentry, hfails]
      rfl
  · exact fun map => ⟨fun records => toResult_ok_iff, fun e => toResult_error_iff⟩

namespace Sample

def orgs : DottedPath := DottedPath.Sample.ids.firstSegments 1 (by decide)

def orgUsers : DottedPath := DottedPath.Sample.ids.firstSegments 2 (by decide)

def byId : IdMap := ⟨Table.ofList [(orgUsers, "id"), (orgs, "id")]⟩

def byName : IdMap := ⟨Table.ofList [(orgUsers, "id"), (orgs, "name")]⟩

end Sample

/-- The users stand below the organisations, and are found although these fail. -/
theorem users_beside_failing_orgs :
    (Sample.orgUsers, "id") ∈ Sample.byId.toList ∧ (Sample.orgUsers, "id") ∈ Sample.byName.toList ∧
      (extractPage Sample.byId .strict DottedPath.Sample.orgs).recordsUnder Sample.orgUsers =
        (extractPage Sample.byName .strict DottedPath.Sample.orgs).recordsUnder Sample.orgUsers ∧
      extractPath .strict DottedPath.Sample.orgs Sample.orgs "id" =
        .error (.missingIdField "orgs" 0 "id") ∧
      (extractPage Sample.byId .strict DottedPath.Sample.orgs).failuresUnder Sample.orgs =
        [.missingIdField "orgs" 0 "id"] ∧
      (extractPage (Sample.byId.without Sample.orgs) .strict DottedPath.Sample.orgs).records =
        (extractPage Sample.byId .strict DottedPath.Sample.orgs).records := by
  have hbyId : Sample.byId.toList = [(Sample.orgs, "id"), (Sample.orgUsers, "id")] := by
    decide +kernel
  have hbyName : Sample.byName.toList = [(Sample.orgs, "name"), (Sample.orgUsers, "id")] := by
    decide +kernel
  have husers : (Sample.orgUsers, "id") ∈ Sample.byId.toList := by simp [hbyId]
  have hsame : (Sample.orgUsers, "id") ∈ Sample.byName.toList := by simp [hbyName]
  have horgs : (Sample.orgs, "id") ∈ Sample.byId.toList := by simp [hbyId]
  have hfails : extractPath .strict DottedPath.Sample.orgs Sample.orgs "id" =
      .error (.missingIdField "orgs" 0 "id") := rfl
  obtain ⟨-, hshared, hfailing, -⟩ := mapped_paths_are_independent .strict DottedPath.Sample.orgs
  obtain ⟨-, hfailure, hwithout⟩ := hfailing Sample.byId _ horgs _ hfails
  exact ⟨husers, hsame, (hshared _ _ _ husers hsame).1, hfails, hfailure, hwithout⟩

end PageHarvest
