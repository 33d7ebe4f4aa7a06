import Mathlib.Tactic.Common
import PageHarvest.Http.Request

/-!
The headers of a request as its receiver reads them, line by line. To set a header is
to leave one line of its name, and every line of another name where it was.
-/

namespace PageHarvest

namespace Entries

variable {κ α : Type} [TextKey κ] [DecidableEq κ]

/-- Under a key there is at most one entry, the one that a lookup finds. -/
theorem filter_key {es : List (κ × α)} (h : Distinct es) (k : κ) :
    (es.filter fun e => e.1 = k).map Prod.snd = (get? es k).toList := by
  induction es with
  | nil => rfl
  | cons d rest ih =>
      obtain ⟨hd, hrest⟩ := List.pairwise_cons.mp h
      by_cases hkey : d.1 = k
      · subst hkey
        have hnone : rest.filter (fun e => e.1 = d.1) = [] := by
          refine List.filter_eq_nil_iff.mpr fun e he => ?_
          have hne : e.1 ≠ d.1 := fun heq => hd e he (congrArg TextKey.text heq.symm)
          simpa using hne
        rw [List.filter_cons_of_pos (by simp), hnone, get?, if_pos rfl]
        rfl
      · have htext : TextKey.text d.1 ≠ TextKey.text k :=
          fun heq => hkey (TextKey.text_injective heq)
        rw [List.filter_cons_of_neg (by simpa using hkey), ih hrest, get?, if_neg htext]

/-- An insertion leaves the entries with other keys. -/
theorem filter_other_insert (es : List (κ × α)) (k : κ) (v : α) :
    (insert es k v).filter (fun e => e.1 ≠ k) = es.filter fun e => e.1 ≠ k := by
  induction es with
  | nil => simp [insert]
  | cons d rest ih =>
      rw [insert]
      split
      · simp
      · split
        · rename_i hsame
          obtain rfl : k = d.1 := TextKey.text_injective hsame
          simp
        · rename_i hother
          have hne : d.1 ≠ k := fun heq => hother (congrArg TextKey.text heq.symm)
          rw [List.filter_cons_of_pos (by simpa using hne), ih,
            List.filter_cons_of_pos (by simpa using hne)]

end Entries

namespace Request

def valuesOf (r : Request) (name : String) : List HeaderValue :=
  (r.headerLines.filter fun line => line.1 = name).map Prod.snd

def linesBut (r : Request) (name : String) : List (String × HeaderValue) :=
  r.headerLines.filter fun line => line.1 ≠ name

variable {name other : String}

theorem valuesOf_eq (r : Request) (name : String) :
    r.valuesOf name = (r.headers.get? name).toList ++
      (r.further.filter fun line => line.1 = name).map Prod.snd := by
  rw [valuesOf, headerLines, List.filter_append, List.map_append, Table.toList,
    Entries.filter_key r.headers.sorted.distinct]
  rfl

theorem valuesOf_setHeader_self (r : Request) (name : String) (value : HeaderValue) :
    (r.setHeader name value).valuesOf name = [value] := by
  have hfurther : (r.further.filter fun line => line.1 ≠ name).filter (fun line => line.1 = name) =
      [] := by
    rw [List.filter_filter]
    simp
  rw [valuesOf_eq, setHeader, hfurther, Table.get?_insert_self]
  rfl

theorem linesBut_setHeader (r : Request) (name : String) (value : HeaderValue) :
    (r.setHeader name value).linesBut name = r.linesBut name := by
  unfold linesBut headerLines setHeader
  rw [List.filter_append, List.filter_append, List.filter_filter]
  congr 1
  · exact Entries.filter_other_insert r.headers.entries name value
  · simp

theorem filter_linesBut (r : Request) (h : other ≠ name) :
    ((r.linesBut name).filter fun line => line.1 = other).map Prod.snd = r.valuesOf other := by
  rw [linesBut, List.filter_filter, valuesOf]
  congr 1
  refine List.filter_congr fun line _ => ?_
  by_cases hline : line.1 = other
  · simp [hline, h]
  · simp [hline]

theorem valuesOf_setHeader_of_ne (r : Request) (h : other ≠ name) (value : HeaderValue) :
    (r.setHeader name value).valuesOf other = r.valuesOf other := by
  -- All lines of the other header are among those that stay.
  rw [← filter_linesBut _ h, linesBut_setHeader, filter_linesBut r h]

theorem mem_headerLines_setHeader {r : Request} {value : HeaderValue} {line : String × HeaderValue}
    (h : line ∈ (r.setHeader name value).headerLines) :
    line = (name, value) ∨ line ∈ r.headerLines ∧ line.1 ≠ name := by
  by_cases hname : line.1 = name
  · left
    have hvalue : line.2 ∈ (r.setHeader name value).valuesOf name :=
      List.mem_map_of_mem (List.mem_filter.mpr ⟨h, by simpa using hname⟩)
    rw [valuesOf_setHeader_self, List.mem_singleton] at hvalue
    exact Prod.ext hname hvalue
  · right
    have hline : line ∈ (r.setHeader name value).linesBut name :=
      List.mem_filter.mpr ⟨h, by simpa using hname⟩
    rw [linesBut_setHeader] at hline
    exact ⟨(List.mem_filter.mp hline).1, hname⟩

theorem further_setHeader {r : Request} (h : r.further = []) (name : String)
    (value : HeaderValue) : (r.setHeader name value).further = [] := by
  rw [setHeader, h]
  rfl

/-- Without further values no header has two lines. -/
theorem nodup_of_further {r : Request} (h : r.further = []) :
    (r.headerLines.map Prod.fst).Nodup := by
  rw [headerLines, h, List.append_nil]
  exact List.pairwise_map.mpr r.headers.sorted.distinct

end Request

end PageHarvest
