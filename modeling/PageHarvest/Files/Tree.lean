import PageHarvest.Files.Path
import PageHarvest.Files.Script
import PageHarvest.Table

/-!
Files in memory. Directories and files are told apart, a name is at most 255
bytes long, and a path is followed name by name, so that it can fail on the way.
Paths that do not begin at the root are followed from there all the same.
-/

namespace PageHarvest.Files

inductive Entry where
  | directory
  | file (bytes : List UInt8)
deriving DecidableEq, Repr

/-- The names on the way from the root. -/
abbrev Location := List String

def Location.path (l : Location) : String := ofNames true l

/-- Files and directories by their paths. The root is there always. -/
structure FileTree where
  entries : Table String Entry
deriving DecidableEq

namespace FileTree

def empty : FileTree := ⟨Table.empty⟩

def entry? (t : FileTree) (l : Location) : Option Entry :=
  if l.isEmpty then some .directory else t.entries.get? l.path

def put (t : FileTree) (l : Location) (e : Entry) : FileTree := ⟨t.entries.insert l.path e⟩

def take (t : FileTree) (l : Location) : FileTree := ⟨t.entries.erase l.path⟩

def toList (t : FileTree) : List (String × Entry) := t.entries.toList

def isTooLong (name : String) : Bool := 255 < name.utf8ByteSize

def follow (t : FileTree) (l : Location) : List String → Except Fault Location
  | [] => .ok l
  | name :: rest =>
      if name = ".." then follow t l.dropLast rest
      else if isTooLong name then .error .nameTooLong
      else
        match t.entry? (l ++ [name]) with
        | some .directory => follow t (l ++ [name]) rest
        | some (.file _) => .error .notDirectory
        | none => .error .notFound

/-- Where a path leads: a directory that is there, and the location in it. -/
structure Target where
  location : Location
  entry : Option Entry
  /-- Whether the path asks for a directory, by a slash or dot at its end. -/
  asDirectory : Bool
deriving DecidableEq

/-- Follows a path up to its last name. -/
def target (t : FileTree) (path : String) : Except Fault Target :=
  let cs := path.toList
  if cs.contains (Char.ofNat 0) then .error .invalidName
  else if cs.isEmpty then .error .notFound
  else do
    let ns := names path
    let above ← t.follow [] ns.dropLast
    match ns.getLast? with
    | none => return ⟨[], some .directory, true⟩
    | some ".." => return ⟨above.dropLast, some .directory, true⟩
    | some name =>
        if isTooLong name then throw .nameTooLong
        else
          let last := (Text.split '/' cs).getLast?.getD []
          return ⟨above ++ [name], t.entry? (above ++ [name]), last = [] ∨ last = ['.']⟩

def read (t : FileTree) (path : String) : Except Fault (List UInt8) := do
  let target ← t.target path
  match target.entry with
  | none => throw .notFound
  | some .directory => throw .isDirectory
  | some (.file bytes) => if target.asDirectory then throw .notDirectory else return bytes

def probe (t : FileTree) (path : String) : Bool :=
  match t.target path with
  | .ok ⟨_, some .directory, _⟩ => true
  | .ok ⟨_, some (.file _), asDirectory⟩ => !asDirectory
  | _ => false

/-- Makes the directories of names that are missing. -/
def makeFrom (t : FileTree) (l : Location) : List String → Except Fault Unit × FileTree
  | [] => (.ok (), t)
  | name :: rest =>
      if name = ".." then makeFrom t l.dropLast rest
      else if isTooLong name then (.error .nameTooLong, t)
      else
        match t.entry? (l ++ [name]) with
        | some .directory => makeFrom t (l ++ [name]) rest
        | some (.file _) =>
            (.error (if rest.isEmpty then .alreadyExists else .notDirectory), t)
        | none => makeFrom (t.put (l ++ [name]) .directory) (l ++ [name]) rest

/-- Makes a directory and those above it, as far as they are missing. -/
def makeDirectories (t : FileTree) (path : String) : Except Fault Unit × FileTree :=
  if path.toList.contains (Char.ofNat 0) then (.error .invalidName, t)
  else t.makeFrom [] (names path)

/-- Whether a file may be put where a path leads. -/
def fileLocation (target : Target) : Except Fault Location :=
  match target with
  | ⟨_, some .directory, _⟩ => .error .isDirectory
  | ⟨l, _, asDirectory⟩ => if asDirectory then .error .isDirectory else .ok l

def write (t : FileTree) (path : String) (bytes : List UInt8) : Except Fault Unit × FileTree :=
  match t.target path >>= fileLocation with
  | .ok l => (.ok (), t.put l (.file bytes))
  | .error f => (.error f, t)

def rename (t : FileTree) (source destination : String) : Except Fault Unit × FileTree :=
  let moved : Except Fault FileTree := do
    let bytes ← t.read source
    let origin ← t.target source
    let l ← t.target destination >>= fileLocation
    return (t.take origin.location).put l (.file bytes)
  match moved with
  | .ok t => (.ok (), t)
  | .error f => (.error f, t)

def remove (t : FileTree) (path : String) : Except Fault Unit × FileTree :=
  match t.target path with
  | .error f => (.error f, t)
  | .ok ⟨_, none, _⟩ => (.error .notFound, t)
  | .ok ⟨_, some .directory, _⟩ => (.error .isDirectory, t)
  | .ok ⟨l, some (.file _), asDirectory⟩ =>
      if asDirectory then (.error .notDirectory, t) else (.ok (), t.take l)

def carryOut {α : Type} (t : FileTree) : Script α → α × FileTree
  | .done value => (value, t)
  | .read path next => carryOut t (next (t.read path))
  | .probe path next => carryOut t (next (t.probe path))
  | .makeDirectories path next =>
      let (r, t) := t.makeDirectories path
      carryOut t (next r)
  | .write path bytes next =>
      let (r, t) := t.write path bytes
      carryOut t (next r)
  | .rename source destination next =>
      let (r, t) := t.rename source destination
      carryOut t (next r)
  | .remove path next =>
      let (r, t) := t.remove path
      carryOut t (next r)

end FileTree

end PageHarvest.Files
