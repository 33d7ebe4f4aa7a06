import PageHarvest.Proofs.Path.Text
import PageHarvest.Proofs.Text.ByteOrder

/-!
One text for each path. A text is a path unless a piece between its dots is blank, and
all that is kept of it are these pieces without the white space at their ends. The text
of a path is therefore one of the texts that are read as this path, and texts, segments
and paths are equal or different together.
-/

namespace PageHarvest

namespace Text

/-- A stretch without separators that reaches from one separator, or from the start, to
the next one, or to the end. -/
def IsPiece (sep : Char) (cs piece : List Char) : Prop :=
  sep ∉ piece ∧ ∃ before after, cs = before ++ piece ++ after ∧
    (∀ c ∈ before.getLast?, c = sep) ∧ ∀ c ∈ after.head?, c = sep

variable {sep : Char} {cs piece : List Char}

theorem join_around (sep : Char) (parts : List (List Char)) (piece : List Char)
    (others : List (List Char)) :
    ∃ before after, join sep (parts ++ piece :: others) = before ++ piece ++ after ∧
      (∀ c ∈ before.getLast?, c = sep) ∧ ∀ c ∈ after.head?, c = sep := by
  induction parts with
  | nil =>
      cases others with
      | nil => exact ⟨[], [], by simp [join], by simp, by simp⟩
      | cons next more =>
          exact ⟨[], sep :: join sep (next :: more), by simp [join], by simp, by simp⟩
  | cons part rest ih =>
      obtain ⟨before, after, hjoin, hbefore, hafter⟩ := ih
      have hne : rest ++ piece :: others ≠ [] := by simp
      obtain ⟨next, more, hrest⟩ := List.exists_cons_of_ne_nil hne
      refine ⟨part ++ sep :: before, after, ?_, ?_, hafter⟩
      · rw [List.cons_append, hrest, join, ← hrest, hjoin]
        · simp
        · simp
      · intro c hc
        cases hlast : before.getLast? with
        | none => simpa [List.getLast?_eq_none_iff.mp hlast, eq_comm] using hc
        | some d =>
            have hlast' : (part ++ sep :: before).getLast? = some d := by
              simp [List.getLast?_append, List.getLast?_cons, hlast]
            rw [hlast'] at hc
            exact hbefore c (hlast ▸ hc)

/-- Cutting a text gives its pieces. -/
theorem mem_split_iff : piece ∈ split sep cs ↔ IsPiece sep cs piece := by
  constructor
  · intro hpiece
    obtain ⟨parts, others, hsplit⟩ := List.append_of_mem hpiece
    refine ⟨sep_not_mem_split sep cs piece hpiece, ?_⟩
    rw [← join_split sep cs, hsplit]
    exact join_around sep parts piece others
  · rintro ⟨hsep, before, after, rfl, hbefore, hafter⟩
    have hrest : piece ∈ split sep (piece ++ after) := by
      cases after with
      | nil => simp [split_of_not_mem sep piece hsep]
      | cons c rest =>
          obtain rfl := hafter c rfl
          simp [split_append_sep c piece rest hsep]
    rcases List.eq_nil_or_concat before with rfl | ⟨start, c, rfl⟩
    · simpa using hrest
    · obtain rfl := hbefore c (by simp)
      rw [List.append_assoc, List.concat_eq_append, List.append_assoc, List.singleton_append,
        split_append]
      exact List.mem_append_right _ hrest

theorem ends_of_trimmed (h : trimChars cs = cs) :
    (∀ c ∈ cs.head?, isBlankChar c = false) ∧ ∀ c ∈ cs.getLast?, isBlankChar c = false := by
  have hends (ds : List Char) (htrim : trimStart ds = ds) :
      ∀ c ∈ ds.head?, isBlankChar c = false := by
    intro c hc
    rw [← htrim] at hc
    obtain ⟨rest, hrest⟩ := List.head?_eq_some_iff.mp hc
    exact trimStart_head hrest
  have hstart : trimStart cs = cs := by rw [← h, trimStart_trimChars]
  refine ⟨hends cs hstart, ?_⟩
  rw [trimChars, hstart] at h
  have hreversed := hends cs.reverse (by simpa [trimEnd, trimStart] using congrArg List.reverse h)
  simpa using hreversed

end Text

namespace DottedPath

/-- A segment that needs no trimming and that cannot be taken for two. -/
structure IsBare (segment : String) : Prop where
  ne_empty : segment ≠ ""
  no_dot : '.' ∉ segment.toList
  starts : ∀ c ∈ segment.toList.head?, Text.isBlankChar c = false
  ends : ∀ c ∈ segment.toList.getLast?, Text.isBlankChar c = false

/-- The order of paths: that of the bytes of their texts and, under one text, that of
the bytes of their segments. -/
def Precedes (p q : DottedPath) : Prop :=
  Text.bytes p.text < Text.bytes q.text ∨
    p.text = q.text ∧ p.segments.map Text.bytes < q.segments.map Text.bytes

variable {p q : DottedPath}

theorem isBare_of_mem_segments {s : String} (h : s ∈ p.segments) : IsBare s := by
  obtain ⟨hne, hdot, htrimmed⟩ := p.isSegment s h
  obtain ⟨hstarts, hends⟩ := Text.ends_of_trimmed htrimmed
  exact ⟨fun hempty => hne (by rw [hempty]; rfl), hdot, hstarts, hends⟩

theorem text_eq_intercalate (p : DottedPath) : p.text = ".".intercalate p.segments := by
  rw [← String.toList_inj, text, String.toList_ofList, String.toList_intercalate,
    Text.join_eq_intercalate]
  rfl

theorem text_eq_iff : p.text = q.text ↔ p = q := ⟨text_injective, congrArg text⟩

theorem segments_eq_iff : p.segments = q.segments ↔ p = q := ⟨ext_segments, congrArg segments⟩

/-- The segments never decide, for where the texts are the same, they are. -/
theorem precedes_iff : p.Precedes q ↔ p.text < q.text := by
  rw [Precedes, Text.bytes_lt_iff, or_iff_left]
  rintro ⟨htext, hsegments⟩
  rw [text_injective htext] at hsegments
  exact List.lt_irrefl _ hsegments

theorem parse?_eq_none_iff_blank {raw : String} :
    parse? raw = none ↔
      ∃ piece, Text.IsPiece '.' raw.toList piece ∧ ∀ c ∈ piece, Text.isBlankChar c = true := by
  rw [parse?_eq_none_iff, pieces, List.mem_map]
  simp only [Text.trimChars_eq_nil_iff, List.all_eq_true, Text.mem_split_iff]

theorem segments_of_parse? {raw : String} (h : parse? raw = some p) :
    p.segments = (Text.split '.' raw.toList).map fun piece =>
      String.ofList (Text.trimChars piece) := by
  have hpieces := congrArg (List.map String.ofList) (parse?_eq_some_iff.mp h)
  simpa [pieces, Function.comp_def] using hpieces.symm

/-- What a text gives: no path exactly if one of its pieces is blank, and otherwise the
path of its trimmed pieces, which is the one that has their joined text. -/
theorem one_text_per_path (raw : String) :
    (parse? raw = none ↔
      ∃ piece, Text.IsPiece '.' raw.toList piece ∧ ∀ c ∈ piece, Text.isBlankChar c = true) ∧
    ∀ p, parse? raw = some p →
      p.segments = (Text.split '.' raw.toList).map (fun piece =>
        String.ofList (Text.trimChars piece)) ∧
      (∀ s ∈ p.segments, IsBare s) ∧
      p.text = ".".intercalate p.segments ∧
      parse? p.text = some p ∧
      ∀ q : DottedPath, (p.text = q.text ↔ p = q) ∧ (p.segments = q.segments ↔ p = q) ∧
        (p.Precedes q ↔ p.text < q.text) := by
  refine ⟨parse?_eq_none_iff_blank, fun p hp => ?_⟩
  exact ⟨segments_of_parse? hp, fun s => isBare_of_mem_segments, text_eq_intercalate p,
    parse?_text p, fun q => ⟨text_eq_iff, segments_eq_iff, precedes_iff⟩⟩

/-- A path with an ideographic space before a dot and a tab after it. -/
def Sample.spaced : String := " users\u3000.\tedges"

theorem spaced_path_is_plain_path :
    ∃ p, parse? Sample.spaced = some p ∧ p.text = "users.edges" ∧
      parse? "users.edges" = some p := by
  have hread : parse? Sample.spaced ≠ none := by decide +kernel
  obtain ⟨p, hp⟩ := Option.ne_none_iff_exists'.mp hread
  obtain ⟨hsegments, -, htext, hagain, -⟩ := (one_text_per_path Sample.spaced).2 p hp
  have hplain : p.text = "users.edges" := by
    rw [htext, hsegments]
    decide +kernel
  exact ⟨p, hp, hplain, hplain ▸ hagain⟩

end DottedPath

end PageHarvest
