import PageHarvest.Files.Path
import PageHarvest.Files.Script
import PageHarvest.Settings.Configuration
import PageHarvest.Text.Utf8

/-!
Configuration files. The last part of a file's name says whether it holds YAML;
every other file is read as JSON.
-/

namespace PageHarvest.Settings

open Files (Script)

/-- Whether a file holds YAML, by its name. -/
def isYamlFile (path : String) : Bool :=
  match Files.extension? path with
  | some e => e == "yaml" || e == "yml"
  | none => false

def unreadable (path cause : String) : Error :=
  (Error.io cause).withContext ("Failed to read " ++ path)

def Configuration.ofBytes (path : String) (bytes : List UInt8) : Except Error Configuration :=
  match Text.utf8Chars? bytes with
  | none => .error (unreadable path "stream did not contain valid UTF-8")
  | some cs =>
      let text := String.ofList cs
      if isYamlFile path then ofYamlText text else ofJsonText text

def Configuration.load (path : String) : Script (Except Error Configuration) :=
  .probe path fun found =>
    if !found then .done (.error (.fileNotFound path))
    else
      .read path fun
        | .ok bytes => .done (ofBytes path bytes)
        | .error f => .done (.error (unreadable path f.message))

end PageHarvest.Settings
