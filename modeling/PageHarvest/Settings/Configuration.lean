import PageHarvest.Error
import PageHarvest.Json.Document
import PageHarvest.Settings.Schema
import PageHarvest.Yaml.Document

/-!
A configuration: descriptors by name, some of them with a value entered. It is
read from a table of descriptors, as it is published and handed back, or from a
plain map of names to values, which are entered into the published table.
-/

namespace PageHarvest.Settings

/-- Descriptors by name. -/
structure Configuration where
  fields : Table String Descriptor
deriving DecidableEq

namespace Configuration

def empty : Configuration := ⟨Table.empty⟩

instance : Inhabited Configuration := ⟨empty⟩

def get? (c : Configuration) (name : String) : Option Descriptor := c.fields.get? name

def valueOf? (c : Configuration) (name : String) : Option Json :=
  (c.get? name).bind Descriptor.effective?

/-- Puts a descriptor in place of the one a field may have. -/
def insert (c : Configuration) (name : String) (d : Descriptor) : Configuration :=
  ⟨c.fields.insert name d⟩

/-- The descriptor of a field that was not known before a value was entered. -/
def bareDescriptor (name : String) (order : Fin UInt32.size) (value : Json) : Descriptor where
  label := name
  order := order
  type :=
    match value with
    | .number _ => .int
    | _ => .str
  value := some value

/-- Enters a value. A field that is not known is shown last. -/
def setValue (c : Configuration) (name : String) (value : Json) : Configuration :=
  match c.get? name with
  | some d => c.insert name { d with value := some value }
  | none => c.insert name (bareDescriptor name (.ofNat _ (c.fields.size + 1)) value)

def toList (c : Configuration) : List (String × Descriptor) := c.fields.toList

def size (c : Configuration) : Nat := c.fields.size

/-- The published configuration: every setting, and no values. -/
def default : Configuration :=
  ⟨Table.ofList (rows.zipIdx.map fun (r, i) => (r.name, r.describe (.ofNat _ (i + 1))))⟩

def toJson (c : Configuration) : Json :=
  .object (c.toList.map fun (name, d) => (name, d.toJson))

/-- The configuration as it is printed, the fields of each descriptor in their
usual order. -/
def printed (c : Configuration) : Json :=
  .object (c.toList.map fun (name, d) => (name, .object d.members))

/-- True of the members of a table of descriptors: there are some, and each is
an object with a label. -/
def isFieldTable (members : List (String × Json)) : Bool :=
  !members.isEmpty && members.all fun m => m.2.isObject && (m.2.get? "label").isSome

def ofFieldTable? : List (String × Json) → Option (List (String × Descriptor))
  | [] => some []
  | (name, v) :: rest => do
      let d ← Descriptor.ofJson? v
      let ds ← ofFieldTable? rest
      return (name, d) :: ds

/-- Reads a configuration in either of its forms. -/
def ofJson (v : Json) : Except Error Configuration :=
  match v with
  | .object members =>
      if isFieldTable members then
        match ofFieldTable? members with
        | some ds => .ok ⟨Table.ofList ds⟩
        | none => .error .invalidJson
      else .ok (members.foldl (fun c m => c.setValue m.1 m.2) default)
  | _ => .error (.config "configuration must be a JSON object")

def ofJsonText (text : String) : Except Error Configuration :=
  match Json.parse? text with
  | some v => ofJson v
  | none => .error .invalidJson

def ofYamlText (text : String) : Except Error Configuration :=
  match Yaml.parse? text with
  | some v => ofJson v
  | none => .error .invalidYaml

end Configuration

end PageHarvest.Settings
