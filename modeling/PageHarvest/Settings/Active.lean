import PageHarvest.Json.Printer
import PageHarvest.Settings.Configuration

/-!
Which settings count and with what value. The rows of the schema are gone
through in order; a row whose conditions hold for the values found so far adds
its own value, from the configuration or else the default of the schema. A
required value that is absent, or a choice that is not offered, ends the pass.
-/

namespace PageHarvest.Settings

/-- A value as text: strings without the white space at their ends, other values
as JSON. -/
def valueText : Json → String
  | .string s => Text.trim s
  | v => v.compact

/-- The settings that count, with their values, in the order of the schema. -/
abbrev ActiveValues := List (String × Json)

namespace ActiveValues

def get? (active : ActiveValues) (name : String) : Option Json := active.lookup name

def getText? (active : ActiveValues) (name : String) : Option String :=
  (get? active name).map valueText

def satisfies (active : ActiveValues) (row : Row) : Bool :=
  row.dependsOn.all fun d => getText? active d.1 == some d.2

end ActiveValues

/-- The error for a required setting without value: it names the conditions
that make the setting count, if there are any. -/
def missingError (row : Row) : Error :=
  if row.dependsOn.isEmpty then .missingField row.name
  else
    .missingDependency row.name
      (" and ".intercalate (row.dependsOn.map fun d => d.1 ++ "=" ++ d.2))

/-- Whether a value may be chosen: any value may where no choices are offered. -/
def offers (row : Row) (value : Json) : Bool :=
  row.options.isEmpty || row.options.any fun o => o.value == valueText value

def optionError (row : Row) (value : Json) : Error :=
  .invalidOption row.name (valueText value) (", ".intercalate (row.options.map Choice.value))

def withRow (c : Configuration) (active : ActiveValues) (row : Row) : Except Error ActiveValues :=
  if !active.satisfies row then .ok active
  else
    match (c.valueOf? row.name).or row.default with
    | none => if row.required then .error (missingError row) else .ok active
    | some value =>
        if offers row value then .ok (active ++ [(row.name, value)])
        else .error (optionError row value)

def withRows (c : Configuration) (active : ActiveValues) : List Row → Except Error ActiveValues
  | [] => .ok active
  | row :: rest => do withRows c (← withRow c active row) rest

def Configuration.activeValues (c : Configuration) : Except Error ActiveValues :=
  withRows c [] rows

end PageHarvest.Settings
