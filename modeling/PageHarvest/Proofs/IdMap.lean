import Mathlib.Tactic.Common
import PageHarvest.IdMap

/-!
What a map of id fields holds. Each of its fields is a text without white space at
its ends, and not empty; and the map of a setting has at least one path. A setting is
an object, or a text that holds one.
-/

namespace PageHarvest

theorem Entries.insert_ne_nil {κ α : Type} [TextKey κ] (es : List (κ × α)) (k : κ) (v : α) :
    Entries.insert es k v ≠ [] := by
  cases es with
  | nil => simp [Entries.insert]
  | cons e rest =>
      unfold Entries.insert
      split
      · simp
      · split <;> simp

/-- The value is an object with these members, or a string that holds one. -/
def Json.HoldsObject (value : Json) (members : List (String × Json)) : Prop :=
  value = .object members ∨ ∃ text, value = .string text ∧ Json.parse? text = some (.object members)

theorem objectSetting_of_holdsObject {value : Json} {members : List (String × Json)}
    (h : value.HoldsObject members) (field : String) :
    objectSetting field value = .ok members := by
  rcases h with rfl | ⟨text, rfl, hparse⟩
  · rfl
  · unfold objectSetting
    simp only [hparse]
    rfl

theorem holdsObject_of_objectSetting {field : String} {value : Json}
    {members : List (String × Json)} (h : objectSetting field value = .ok members) :
    value.HoldsObject members := by
  cases value with
  | string text =>
      unfold objectSetting at h
      cases hparse : Json.parse? text with
      | none =>
          simp only [hparse] at h
          cases h
      | some parsed =>
          simp only [hparse] at h
          cases parsed with
          | object found =>
              cases h
              exact .inr ⟨text, rfl, hparse⟩
          | _ => cases h
  | object found =>
      cases h
      exact .inl rfl
  | _ => cases h

namespace IdMap

variable {map last : IdMap}

/-- Every id field is trimmed and not blank. -/
def Clean (map : IdMap) : Prop :=
  ∀ entry ∈ map.toList, Text.isBlank entry.2 = false ∧ Text.trim entry.2 = entry.2

theorem put_ok {path idField : String} {p : DottedPath} (hpath : DottedPath.parse? path = some p)
    (hfield : Text.isBlank idField = false) (map : IdMap) :
    put path idField map = .ok () ⟨map.entries.insert p (Text.trim idField)⟩ := by
  simp only [put, hpath, hfield]
  rfl

/-- An entry that is refused leaves the map as it was. -/
theorem put_error {path idField : String}
    (h : DottedPath.parse? path = none ∨ Text.isBlank idField = true) (map : IdMap) :
    ∃ e, put path idField map = .error e map := by
  cases hpath : DottedPath.parse? path with
  | none => exact ⟨_, by simp only [put, hpath]; rfl⟩
  | some p =>
      have hblank : Text.isBlank idField = true := h.resolve_left (by simp [hpath])
      exact ⟨_, by simp only [put, hpath, hblank]; rfl⟩

theorem put_of_insert {path idField : String} (h : map.insert path idField = .ok last) :
    put path idField map = .ok () last := by
  unfold insert at h
  split at h
  · rename_i hput
    cases h
    exact hput
  · cases h

theorem insert_ok {path idField : String} (h : map.insert path idField = .ok last) :
    ∃ p, DottedPath.parse? path = some p ∧ Text.isBlank idField = false ∧
      last = ⟨map.entries.insert p (Text.trim idField)⟩ := by
  have hlast := put_of_insert h
  by_cases hrefused : DottedPath.parse? path = none ∨ Text.isBlank idField = true
  · obtain ⟨e, hput⟩ := put_error hrefused map
    rw [hput] at hlast
    cases hlast
  · obtain ⟨hpath, hfield⟩ := not_or.mp hrefused
    obtain ⟨p, hpath⟩ := Option.ne_none_iff_exists'.mp hpath
    rw [Bool.not_eq_true] at hfield
    rw [put_ok hpath hfield] at hlast
    cases hlast
    exact ⟨p, hpath, hfield, rfl⟩

theorem Clean.insert (hclean : map.Clean) {path idField : String}
    (h : map.insert path idField = .ok last) : last.Clean := by
  obtain ⟨p, -, hblank, rfl⟩ := insert_ok h
  intro entry hentry
  rcases Entries.mem_insert hentry with rfl | hbefore
  · exact ⟨(Text.isBlank_trim idField).trans hblank, Text.trim_trim idField⟩
  · exact hclean entry hbefore

theorem toList_ne_nil_of_insert {path idField : String} (h : map.insert path idField = .ok last) :
    last.toList ≠ [] := by
  obtain ⟨p, -, -, rfl⟩ := insert_ok h
  exact Entries.insert_ne_nil _ _ _

/-- A map stays clean as members are added, and once it has an entry it keeps
one. -/
theorem Clean.insertAll {members : List (String × Json)} (hclean : map.Clean)
    (h : map.insertAll members = .ok last) :
    last.Clean ∧ (map.toList ≠ [] ∨ members ≠ [] → last.toList ≠ []) := by
  induction members generalizing map with
  | nil =>
      cases h
      exact ⟨hclean, by simp⟩
  | cons member rest ih =>
      obtain ⟨path, value⟩ := member
      cases value with
      | string idField =>
          obtain ⟨next, hinsert, hrest⟩ := ok_of_bind h
          obtain ⟨hlast, hfull⟩ := ih (hclean.insert hinsert) hrest
          exact ⟨hlast, fun _ => hfull (.inl (toList_ne_nil_of_insert hinsert))⟩
      | _ => cases h

theorem ofSetting_ok {value : Json} (h : ofSetting value = .ok map) :
    map.toList ≠ [] ∧ map.Clean := by
  obtain ⟨members, -, h⟩ := ok_of_bind h
  dsimp only at h
  split at h
  · cases h
  · rename_i hmembers
    have hempty : empty.Clean := by
      intro entry hentry
      cases hentry
    obtain ⟨hclean, hfull⟩ := hempty.insertAll h
    exact ⟨hfull (.inr (by simpa using hmembers)), hclean⟩

end IdMap

end PageHarvest
