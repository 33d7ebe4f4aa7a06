import PageHarvest.Error
import PageHarvest.Files.Path
import PageHarvest.Files.Script
import PageHarvest.SyncRecord
import PageHarvest.Text.Utf8

/-!
Where the committed cursor is kept: in memory, or in a file that holds one
record. The file is written beside its place and then moved there in one step,
so that whoever reads it finds the old record or the new one, and never a part.
-/

namespace PageHarvest

open Files (Script Fault)

/-- A place for the record of a sync. -/
inductive Store where
  | memory (record : Option SyncRecord)
  | file (path : String)
deriving DecidableEq

namespace Store

def textOf (bytes : List UInt8) : Except String String :=
  match Text.utf8Chars? bytes with
  | some cs => .ok (String.ofList cs)
  | none => .error "stream did not contain valid UTF-8"

def fault (action : String) (cause : String) : Error :=
  .state ("Failed to " ++ action ++ ": " ++ cause)

def recordOf (path : String) (bytes : List UInt8) : Except Error SyncRecord :=
  match textOf bytes with
  | .error cause => .error (fault ("read state file " ++ path) cause)
  | .ok text =>
      match SyncRecord.parse? text with
      | some record => .ok record
      | none => .error (fault ("parse state file " ++ path) "it holds no record")

/-- The file that is written before it is moved to its place. -/
def temporary (path : String) : String :=
  Files.sibling path ((Files.fileName? path).getD "" ++ ".tmp")

def load : Store → Script (Except Error (Option SyncRecord))
  | .memory record => .done (.ok record)
  | .file path =>
      .read path fun
        | .ok bytes => .done ((recordOf path bytes).map some)
        | .error .notFound => .done (.ok none)
        | .error f => .done (.error (fault ("read state file " ++ path) f.message))

/-- Writes a record beside its place and moves it there. -/
def replaceFile (path : String) (record : SyncRecord) : Script (Except Error SyncRecord) :=
  .write (temporary path) (Text.utf8Bytes record.render.toList) fun
    | .error f => .done (.error (fault "write state file" f.message))
    | .ok () =>
        .rename (temporary path) path fun
          | .error f => .done (.error (fault "rename state file" f.message))
          | .ok () => .done (.ok record)

/-- Writes a record into a file, the directory of which is made if need be. -/
def saveFile (path : String) (record : SyncRecord) : Script (Except Error SyncRecord) :=
  match (Files.parent? path).filter (· != "") with
  | none => replaceFile path record
  | some directory =>
      .makeDirectories directory fun
        | .error f => .done (.error (fault "create state directory" f.message))
        | .ok () => replaceFile path record

def save (store : Store) (cursor : Option String) (now : Instant) :
    Script (Except Error SyncRecord × Store) :=
  let record : SyncRecord := ⟨cursor, now⟩
  match store with
  | .memory _ => .done (.ok record, .memory (some record))
  | .file path => (saveFile path record).bind fun r => .done (r, .file path)

def reset : Store → Script (Except Error Unit × Store)
  | .memory _ => .done (.ok (), .memory none)
  | .file path =>
      .remove path fun
        | .ok () | .error .notFound => .done (.ok (), .file path)
        | .error f => .done (.error (fault "remove state file" f.message), .file path)

end Store

end PageHarvest
