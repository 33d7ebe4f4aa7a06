import PageHarvest.Json.Shape
import PageHarvest.Text.Blank

/-!
The description of one setting: what an operator is shown, what may be entered
and what was entered. The value in effect is the entered one, or else the
default; null and blank strings count as not entered.
-/

namespace PageHarvest.Settings

inductive ValueType where
  | str
  | int
deriving DecidableEq, Repr

def ValueType.names : List (String × ValueType) := [("str", .str), ("int", .int)]

def ValueType.name : ValueType → String
  | .str => "str"
  | .int => "int"

/-- One choice of a dropdown: the text that is shown and the value it stands for. -/
structure Choice where
  label : String
  value : String
deriving DecidableEq, Repr

structure Condition where
  field : String
  value : Json
deriving DecidableEq

def Choice.toJson (c : Choice) : Json :=
  .object [("label", .string c.label), ("value", .string c.value)]

def Condition.toJson (c : Condition) : Json :=
  .object [("field", .string c.field), ("value", c.value)]

def Choice.ofJson? (v : Json) : Option Choice := do
  match ← v.slots? ["label", "value"] with
  | [some label, some value] => return ⟨← label.string?, ← value.string?⟩
  | _ => none

def Condition.ofJson? (v : Json) : Option Condition := do
  match ← v.slots? ["field", "value"] with
  | [some field, some value] => return ⟨← field.string?, value⟩
  | _ => none

structure Descriptor where
  label : String
  /-- The position in which the setting is shown. -/
  order : Fin UInt32.size
  type : ValueType := .str
  /-- What the operator entered. -/
  value : Option Json := none
  options : Option (List Choice) := none
  dependsOn : Option (List Condition) := none
  display : Option String := none
  sensitive : Option Bool := none
  required : Option Bool := none
  tooltip : Option String := none
  default : Option Json := none
  uiRestrictions : Option (List String) := none
deriving DecidableEq

/-- A value, unless it is null or a blank string. -/
def present? : Json → Option Json
  | .null => none
  | .string s => if Text.isBlank s then none else some (.string s)
  | v => some v

namespace Descriptor

def effective? (d : Descriptor) : Option Json :=
  (d.value.bind present?).or (d.default.bind present?)

def fieldNames : List String :=
  ["label", "order", "type", "value", "options", "depends_on", "display", "sensitive", "required",
    "tooltip", "default_value", "ui_restrictions"]

/-- The fields that are there, in the order in which they are written. -/
def members (d : Descriptor) : List (String × Json) :=
  let optional (name : String) (value : Option Json) : List (String × Json) :=
    value.elim [] fun v => [(name, v)]
  [("label", .string d.label), ("order", .nat d.order), ("type", .string d.type.name)] ++
    optional "value" d.value ++
    optional "options" (d.options.map fun cs => .array (cs.map Choice.toJson)) ++
    optional "depends_on" (d.dependsOn.map fun cs => .array (cs.map Condition.toJson)) ++
    optional "display" (d.display.map .string) ++
    optional "sensitive" (d.sensitive.map .bool) ++
    optional "required" (d.required.map .bool) ++
    optional "tooltip" (d.tooltip.map .string) ++
    optional "default_value" d.default ++
    optional "ui_restrictions" (d.uiRestrictions.map fun rs => .array (rs.map .string))

def toJson (d : Descriptor) : Json := Json.ofMembers d.members

/-- The descriptor that a value describes. Label and order must be there. -/
def ofJson? (v : Json) : Option Descriptor := do
  match ← v.slots? fieldNames with
  | [some label, some order, type, value, options, dependsOn, display, sensitive, required, tooltip,
      default, uiRestrictions] =>
      return {
        label := ← label.string?
        order := ← order.nat32?
        type := ← (type.elim (some .str) (Json.choice? ValueType.names))
        value := ← Json.optional? some value
        options := ← Json.optional? (Json.list? Choice.ofJson?) options
        dependsOn := ← Json.optional? (Json.list? Condition.ofJson?) dependsOn
        display := ← Json.optional? Json.string? display
        sensitive := ← Json.optional? Json.bool? sensitive
        required := ← Json.optional? Json.bool? required
        tooltip := ← Json.optional? Json.string? tooltip
        default := ← Json.optional? some default
        uiRestrictions := ← Json.optional? (Json.list? Json.string?) uiRestrictions }
  | _ => none

end Descriptor

end PageHarvest.Settings
