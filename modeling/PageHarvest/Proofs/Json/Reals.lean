import Mathlib.Tactic.Common
import PageHarvest.Json.Basic

/-!
The floating-point numbers in a value, at every depth, and a value in which each of
them is replaced. Nothing else changes, so that a value stays as it is exactly when
its floating-point numbers do.
-/

namespace PageHarvest.Json

variable (f : Binary64 → Binary64)

mutual

/-- A value with its floating-point numbers replaced. -/
def mapReals : Json → Json
  | .null => .null
  | .bool value => .bool value
  | .number (.int n) => .number (.int n)
  | .number (.real x) => .number (.real (f x))
  | .string s => .string s
  | .array items => .array (mapRealsOfItems items)
  | .object members => .object (mapRealsOfMembers members)
termination_by structural v => v

def mapRealsOfItems : List Json → List Json
  | [] => []
  | v :: rest => mapReals v :: mapRealsOfItems rest
termination_by structural vs => vs

def mapRealsOfMembers : List (String × Json) → List (String × Json)
  | [] => []
  | (name, v) :: rest => (name, mapReals v) :: mapRealsOfMembers rest
termination_by structural ms => ms

end

mutual

/-- The floating-point numbers in a value, in the order in which they are written. -/
def reals : Json → List Binary64
  | .null | .bool _ | .string _ | .number (.int _) => []
  | .number (.real x) => [x]
  | .array items => realsOfItems items
  | .object members => realsOfMembers members
termination_by structural v => v

def realsOfItems : List Json → List Binary64
  | [] => []
  | v :: rest => reals v ++ realsOfItems rest
termination_by structural vs => vs

def realsOfMembers : List (String × Json) → List Binary64
  | [] => []
  | (_, v) :: rest => reals v ++ realsOfMembers rest
termination_by structural ms => ms

end

theorem mapRealsOfItems_eq (items : List Json) :
    mapRealsOfItems f items = items.map (mapReals f) := by
  induction items with
  | nil => rfl
  | cons v rest ih => rw [mapRealsOfItems, ih, List.map_cons]

theorem mapRealsOfMembers_eq (members : List (String × Json)) :
    mapRealsOfMembers f members = members.map fun member => (member.1, mapReals f member.2) := by
  induction members with
  | nil => rfl
  | cons member rest ih => rw [mapRealsOfMembers, ih, List.map_cons]

variable {f}

mutual

/-- A value stays as it is exactly if each of its floating-point numbers does. -/
theorem mapReals_eq_self_iff : ∀ v : Json, v.mapReals f = v ↔ ∀ x ∈ v.reals, f x = x
  | .null | .bool _ | .string _ | .number (.int _) => by simp [mapReals, reals]
  | .number (.real x) => by simp [mapReals, reals]
  | .array items => by simp [mapReals, reals, mapRealsOfItems_eq_self_iff items]
  | .object members => by simp [mapReals, reals, mapRealsOfMembers_eq_self_iff members]

theorem mapRealsOfItems_eq_self_iff :
    ∀ items : List Json, mapRealsOfItems f items = items ↔ ∀ x ∈ realsOfItems items, f x = x
  | [] => by simp [mapRealsOfItems, realsOfItems]
  | v :: rest => by
      simp [mapRealsOfItems, realsOfItems, mapReals_eq_self_iff v,
        mapRealsOfItems_eq_self_iff rest, or_imp, forall_and]

theorem mapRealsOfMembers_eq_self_iff : ∀ members : List (String × Json),
    mapRealsOfMembers f members = members ↔ ∀ x ∈ realsOfMembers members, f x = x
  | [] => by simp [mapRealsOfMembers, realsOfMembers]
  | (name, v) :: rest => by
      simp [mapRealsOfMembers, realsOfMembers, mapReals_eq_self_iff v,
        mapRealsOfMembers_eq_self_iff rest, or_imp, forall_and]

end

end PageHarvest.Json
