import PageHarvest.Text.Split

/-!
Paths of files as texts. Slashes part the names; empty names and single dots do
not count, and two dots stand for the directory above.
-/

namespace PageHarvest.Files

def names (path : String) : List String :=
  let parts := (Text.split '/' path.toList).map String.ofList
  parts.filter fun name => name != "" && name != "."

def isAbsolute (path : String) : Bool := path.toList.head? == some '/'

def ofNames (absolute : Bool) (ns : List String) : String :=
  (if absolute then "/" else "") ++ "/".intercalate ns

def fileName? (path : String) : Option String :=
  (names path).getLast?.filter (· != "..")

/-- The path of the directory in which a path lies; empty for the directory in
which the program runs. -/
def parent? (path : String) : Option String :=
  if (names path).isEmpty then none
  else some (ofNames (isAbsolute path) (names path).dropLast)

def sibling (path name : String) : String :=
  let above := if (fileName? path).isSome then (names path).dropLast else names path
  ofNames (isAbsolute path) (above ++ [name])

/-- The last part of a file's name, after a dot that does not begin it. -/
def extension? (path : String) : Option String := do
  let name ← fileName? path
  match (Text.split '.' name.toList).reverse with
  | last :: before :: more =>
      if before.isEmpty && more.isEmpty then none else some (String.ofList last)
  | _ => none

end PageHarvest.Files
