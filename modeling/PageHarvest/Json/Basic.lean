import PageHarvest.Binary64
import PageHarvest.Table

/-!
JSON values. A number is a whole number that fits in 64 bits, signed or
unsigned, or a floating-point number; the two kinds are never mixed up. The
members of an object stand in strictly increasing order of their names, and a
name that is given twice keeps the last of its values.
-/

namespace PageHarvest

inductive Json.Number where
  | int (value : Int)
  | real (value : Binary64)
deriving DecidableEq, Repr

inductive Json where
  | null
  | bool (value : Bool)
  | number (value : Json.Number)
  | string (value : String)
  | array (items : List Json)
  | object (members : List (String × Json))

namespace Json

instance : Inhabited Json := ⟨.null⟩

/-- The whole numbers that are kept exactly: those of 64 bits, signed or
unsigned. -/
def Number.fits (n : Int) : Bool := -9223372036854775808 ≤ n && n ≤ 18446744073709551615

/-- The whole number that is not negative, if a number is one. -/
def Number.nat? : Number → Option Nat
  | .int n => if 0 ≤ n then some n.toNat else none
  | .real _ => none

mutual

def same : Json → Json → Bool
  | .null, .null => true
  | .bool a, .bool b => a == b
  | .number a, .number b => decide (a = b)
  | .string a, .string b => a == b
  | .array as, .array bs => sameItems as bs
  | .object as, .object bs => sameMembers as bs
  | _, _ => false
termination_by structural a => a

def sameItems : List Json → List Json → Bool
  | [], [] => true
  | a :: as, b :: bs => same a b && sameItems as bs
  | _, _ => false
termination_by structural as => as

def sameMembers : List (String × Json) → List (String × Json) → Bool
  | [], [] => true
  | (k, a) :: as, (l, b) :: bs => k == l && same a b && sameMembers as bs
  | _, _ => false
termination_by structural as => as

end

mutual

theorem same_iff : ∀ a b : Json, same a b = true ↔ a = b
  | .null, b | .bool _, b | .number _, b | .string _, b => by
      cases b <;> simp [same]
  | .array as, b => by
      cases b <;> simp [same]
      exact sameItems_iff as _
  | .object as, b => by
      cases b <;> simp [same]
      exact sameMembers_iff as _

theorem sameItems_iff : ∀ as bs : List Json, sameItems as bs = true ↔ as = bs
  | [], bs => by cases bs <;> simp [sameItems]
  | a :: as, bs => by
      cases bs with
      | nil => simp [sameItems]
      | cons b bs => simp [sameItems, same_iff a b, sameItems_iff as bs]

theorem sameMembers_iff : ∀ as bs : List (String × Json), sameMembers as bs = true ↔ as = bs
  | [], bs => by cases bs <;> simp [sameMembers]
  | (k, a) :: as, bs => by
      cases bs with
      | nil => simp [sameMembers]
      | cons b bs =>
          obtain ⟨l, b⟩ := b
          simp [sameMembers, same_iff a b, sameMembers_iff as bs]

end

instance : DecidableEq Json := fun a b =>
  if h : same a b = true then isTrue ((same_iff a b).mp h)
  else isFalse fun hab => h ((same_iff a b).mpr hab)

def ofMembers (members : List (String × Json)) : Json := .object (Entries.ofList members)

def get? : Json → String → Option Json
  | .object members, name => Entries.get? members name
  | _, _ => none

def members? : Json → Option (List (String × Json))
  | .object members => some members
  | _ => none

def items? : Json → Option (List Json)
  | .array items => some items
  | _ => none

def string? : Json → Option String
  | .string s => some s
  | _ => none

def isObject : Json → Bool
  | .object _ => true
  | _ => false

def nat (n : Nat) : Json := .number (.int n)

def ofOption : Option String → Json
  | some s => .string s
  | none => .null

def kind : Json → String
  | .null => "null"
  | .bool _ => "boolean"
  | .number _ => "number"
  | .string _ => "string"
  | .array _ => "array"
  | .object _ => "object"

end Json

end PageHarvest
