import PageHarvest.Table
import PageHarvest.Text.Blank
import PageHarvest.Text.Split

/-!
Dotted paths such as `sampleData.users.nodes`. A path is a list of segments, and
its text is the segments joined by dots. White space around a segment does not
count. Different paths have different texts, so that a path may stand for its
text as a key.
-/

namespace PageHarvest

/-- A text that may be a segment of a path: not empty, without dots and without
white space at its ends. -/
def IsSegment (s : String) : Prop :=
  s.toList ≠ [] ∧ '.' ∉ s.toList ∧ Text.trimChars s.toList = s.toList

/-- A path into a tree, one member name a segment. -/
structure DottedPath where
  segments : List String
  segments_ne_nil : segments ≠ []
  isSegment : ∀ s ∈ segments, IsSegment s
deriving DecidableEq

namespace DottedPath

def text (p : DottedPath) : String :=
  String.ofList (Text.join '.' (p.segments.map String.toList))

/-- The pieces of a text between its dots, without white space at their ends. -/
def pieces (raw : String) : List (List Char) :=
  (Text.split '.' raw.toList).map Text.trimChars

theorem isSegment_of_mem_pieces {raw : String} {piece : List Char} (h : piece ∈ pieces raw)
    (hne : piece ≠ []) : IsSegment (String.ofList piece) := by
  obtain ⟨part, hpart, rfl⟩ := List.mem_map.mp h
  refine ⟨by simpa using hne, ?_, ?_⟩
  · intro hdot
    simp only [String.toList_ofList] at hdot
    exact Text.sep_not_mem_split '.' raw.toList part hpart (Text.mem_of_mem_trimChars hdot)
  · simpa using Text.trimChars_trimChars part

/-- The path that a text is, unless one of its pieces is blank. -/
def parse? (raw : String) : Option DottedPath :=
  if h : ∀ piece ∈ pieces raw, piece ≠ [] then
    some {
      segments := (pieces raw).map String.ofList
      segments_ne_nil := by simp [pieces, Text.split_ne_nil]
      isSegment := by
        intro s hs
        obtain ⟨piece, hpiece, rfl⟩ := List.mem_map.mp hs
        exact isSegment_of_mem_pieces hpiece (h piece hpiece) }
  else none

theorem ext_segments {p q : DottedPath} (h : p.segments = q.segments) : p = q := by
  cases p
  cases q
  simp_all

/-- Cutting the text of a path at its dots gives its segments back. -/
theorem split_text (p : DottedPath) :
    Text.split '.' p.text.toList = p.segments.map String.toList := by
  rw [text, String.toList_ofList]
  apply Text.split_join
  · simpa using p.segments_ne_nil
  · intro part hpart
    obtain ⟨s, hs, rfl⟩ := List.mem_map.mp hpart
    exact (p.isSegment s hs).2.1

/-- A text is a path exactly if the pieces between its dots are its segments. -/
theorem parse?_eq_some_iff {raw : String} {p : DottedPath} :
    parse? raw = some p ↔ pieces raw = p.segments.map String.toList := by
  constructor
  · intro hparse
    unfold parse? at hparse
    split at hparse
    · cases hparse
      simp [Function.comp_def]
    · cases hparse
  · intro hpieces
    have hfull : ∀ piece ∈ pieces raw, piece ≠ [] := by
      rw [hpieces]
      intro piece hpiece
      obtain ⟨s, hs, rfl⟩ := List.mem_map.mp hpiece
      exact (p.isSegment s hs).1
    have hparse : parse? raw = some _ := dif_pos hfull
    rw [hparse, Option.some.injEq]
    apply ext_segments
    simp [hpieces, Function.comp_def]

/-- The text of a path is read as that path. -/
theorem parse?_text (p : DottedPath) : parse? p.text = some p := by
  rw [parse?_eq_some_iff, pieces, split_text, List.map_map]
  apply List.map_congr_left
  intro s hs
  exact (p.isSegment s hs).2.2

theorem text_injective {p q : DottedPath} (h : p.text = q.text) : p = q := by
  apply ext_segments
  have hmap : p.segments.map String.toList = q.segments.map String.toList := by
    rw [← split_text, ← split_text, h]
  exact (List.map_inj_right fun _ _ hst => String.toList_inj.mp hst).mp hmap

instance : TextKey DottedPath := ⟨text, text_injective⟩

end DottedPath

end PageHarvest
