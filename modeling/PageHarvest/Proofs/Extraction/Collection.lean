import PageHarvest.Proofs.Extraction
import PageHarvest.Proofs.Path.Selection

/-!
The records of one mapped path. The path leads to a collection, which is said here
by the nodes that it selects and the arrays that it crosses. Each element of the
collection whose identity can be told gives one record, in the order of the
collection, and the first element without identity is the one that the strict
policy complains of.
-/

namespace PageHarvest

namespace Json

/-- The elements of the collection that segments lead to. As long as no array is
crossed a node is a collection only if it is an array; after that the items of an
array count as elements, a null as nothing, and any other node as an element. -/
def collection (v : Json) (segments : List String) : List Json :=
  match v.crossings segments, v.select segments with
  | [], [.array items] => items
  | [], _ => []
  | _ :: _, nodes =>
      nodes.flatMap fun node =>
        match node with
        | .array items => items
        | .null => []
        | other => [other]

/-- The identity in a field of an element: a string as it is, a number or truth value
as JSON. Nothing else is an identity. -/
def identity? (element : Json) (idField : String) : Option String :=
  match element.get? idField with
  | some (.string id) => some id
  | some (.number n) => some (Json.number n).compact
  | some (.bool b) => some (Json.bool b).compact
  | _ => none

end Json

/-- The record of an element that has an identity. -/
def recordOf? (path : DottedPath) (idField : String) (element : Json) : Option Record :=
  (element.identity? idField).map fun id => ⟨path.text, id, element⟩

/-- What is wrong with the element at a position that has no identity: it is no
object, or its field is absent or null, or the field holds a collection. -/
def complaint (path : DottedPath) (idField : String) (index : Nat) (element : Json) : Error :=
  match element.isObject, element.get? idField with
  | false, _ => .malformedElement path.text index
  | true, none | true, some .null => .missingIdField path.text index idField
  | true, some _ => .invalidIdField path.text index idField

variable (path : DottedPath) (idField : String)

theorem identify_eq (index : Nat) (element : Json) :
    identify path idField index element =
      match element.identity? idField with
      | some id => .ok id
      | none => .error (complaint path idField index element) := by
  unfold identify Json.identity? complaint
  cases element with
  | object members =>
      simp only [Json.get?, Json.isObject]
      cases Entries.get? members idField with
      | none => rfl
      | some value => cases value <;> rfl
  | _ => rfl

theorem recordsFrom_skipMalformed_eq (index : Nat) (elements : List Json) :
    recordsFrom .skipMalformed path idField index elements =
      .ok (elements.filterMap (recordOf? path idField)) := by
  induction elements generalizing index with
  | nil => rfl
  | cons element rest ih =>
      have hidentify := identify_eq path idField index element
      cases hid : element.identity? idField with
      | none =>
          rw [hid] at hidentify
          rw [List.filterMap_cons_none (by simp [recordOf?, hid])]
          simp only [recordsFrom, hidentify, ih]
      | some id =>
          rw [hid] at hidentify
          rw [List.filterMap_cons_some (by rw [recordOf?, hid, Option.map_some])]
          simp only [recordsFrom, hidentify, ih, Except.map]

theorem recordsFrom_strict_eq (index : Nat) (elements : List Json) :
    recordsFrom .strict path idField index elements =
      match (elements.zipIdx index).find? fun e => (e.1.identity? idField).isNone with
      | none => .ok (elements.filterMap (recordOf? path idField))
      | some (element, position) => .error (complaint path idField position element) := by
  induction elements generalizing index with
  | nil => rfl
  | cons element rest ih =>
      have hidentify := identify_eq path idField index element
      rw [List.zipIdx_cons]
      cases hid : element.identity? idField with
      | none =>
          rw [hid] at hidentify
          rw [List.find?_cons_of_pos (by simp [hid])]
          simp only [recordsFrom, hidentify]
      | some id =>
          rw [hid] at hidentify
          rw [List.find?_cons_of_neg (by simp [hid]),
            List.filterMap_cons_some (by rw [recordOf?, hid, Option.map_some])]
          simp only [recordsFrom, hidentify, ih]
          cases (rest.zipIdx (index + 1)).find? fun e => (e.1.identity? idField).isNone <;> rfl

variable {path idField} in
theorem records_of_recordsFrom {policy : ExtractPolicy} {index : Nat} {elements : List Json}
    {records : List Record} (h : recordsFrom policy path idField index elements = .ok records) :
    records = elements.filterMap (recordOf? path idField) := by
  have hlenient : recordsFrom .skipMalformed path idField index elements = .ok records := by
    cases policy with
    | strict => exact recordsFrom_of_strict h
    | skipMalformed => exact h
  rw [recordsFrom_skipMalformed_eq] at hlenient
  exact (Except.ok.inj hlenient).symm

variable {path idField} in
theorem complaint_of_recordsFrom {policy : ExtractPolicy} {index : Nat} {elements : List Json}
    {e : Error} (h : recordsFrom policy path idField index elements = .error e) :
    ∃ position element, e = complaint path idField position element := by
  cases policy with
  | skipMalformed =>
      rw [recordsFrom_skipMalformed_eq] at h
      cases h
  | strict =>
      rw [recordsFrom_strict_eq] at h
      split at h
      · cases h
      · rename_i element position _
        exact ⟨position, element, (Except.error.inj h).symm⟩

theorem leafElements_eq : leafElements = fun node =>
    match node with
    | .array items => items
    | .null => []
    | other => [other] := by
  funext node
  cases node <;> rfl

/-- The elements of a result are the collection of the nodes it stands for. -/
theorem Resolved.Covers.elements_eq {result : Resolved} {v : Json} {segments : List String}
    (h : result.Covers v segments) : result.elements = v.collection segments := by
  have hnode := h.node
  have hleaves := h.leaves
  unfold Json.collection
  cases result with
  | node value =>
      rw [hnode.mp ⟨value, rfl⟩, ← hleaves]
      cases value <;> rfl
  | many results =>
      cases hcrossings : v.crossings segments with
      | nil =>
          obtain ⟨value, hvalue⟩ := hnode.mpr hcrossings
          cases hvalue
      | cons crossing more =>
          rw [← hleaves, ← leafElements_eq]
          rfl

/-- Nothing is collected where segments do not resolve. -/
theorem Json.collection_of_not_resolves {v : Json} {segments : List String}
    (h : ¬ v.Resolves segments) : v.collection segments = [] := by
  unfold collection
  rw [(nothing_of_not_resolves h).1]
  cases v.crossings segments <;> rfl

theorem extractPath_eq (policy : ExtractPolicy) (data : Json) :
    extractPath policy data path idField =
      recordsFrom policy path idField 0 (data.collection path.segments) := by
  obtain ⟨hok, herror⟩ := walk_covers data path.segments 0
  unfold extractPath DottedPath.resolve
  cases hwalk : walk data path.segments 0 with
  | ok result => exact congrArg _ (hok result hwalk).1.elements_eq
  | error depth => rw [Json.collection_of_not_resolves (herror depth hwalk), recordsFrom]

/-- Nothing is lost and nothing invented: every element of the collection with an
identity gives its record, in order; under the strict policy all of them have to
have one, and the first that has none is named with its position. -/
theorem extractPath_gives_collection (data : Json) :
    extractPath .skipMalformed data path idField =
        .ok ((data.collection path.segments).filterMap (recordOf? path idField)) ∧
      extractPath .strict data path idField =
        match (data.collection path.segments).zipIdx.find? fun e =>
          (e.1.identity? idField).isNone with
        | none => .ok ((data.collection path.segments).filterMap (recordOf? path idField))
        | some (element, position) => .error (complaint path idField position element) := by
  rw [extractPath_eq, extractPath_eq]
  exact ⟨recordsFrom_skipMalformed_eq path idField 0 _, recordsFrom_strict_eq path idField 0 _⟩

end PageHarvest
