import PageHarvest.Cli.Arguments
import PageHarvest.RateLimit
import PageHarvest.Settings.File
import PageHarvest.Store
import PageHarvest.Sync.Check
import PageHarvest.Sync.Run

/-!
What the commands do. Files are read first; then a command is over, or it goes
on with a check or a sync, whose end gives the rest of its output.
-/

namespace PageHarvest.Cli

open Files (Script)
open Sync

/-- What a command has printed, and how it ended. -/
structure Ending where
  output : String
  result : Except Error Unit
  /-- What is printed besides the output. -/
  report : Option Report := none

/-- A command after its files were read. -/
inductive Session where
  | ended (ending : Ending)
  | checking (plan : Plan)
  | syncing (plan : Plan) (store : Store) (rateLimit : Option RateLimit)

def printed (v : Json) : String := v.pretty ++ "\n"

namespace Session

def failed (e : Error) : Session := .ended ⟨"", .error e, none⟩

def succeeded (v : Json) : Session := .ended ⟨printed v, .ok (), none⟩

end Session

/-- What is printed of a connector without faults. -/
def summary (c : Connector) : Json :=
  Json.ofMembers [
    ("status", .string "valid"),
    ("endpoint", .string c.endpoint.text),
    ("http_method", .string c.method.name),
    ("authentication_method", .string c.credentials.method.name),
    ("pagination_model", .string c.pagination.model.name),
    ("paths", .array (c.idMap.toList.map fun e => .string e.1.text))]

def checkEnding (result : Except Error Unit) : Ending :=
  let (status, message) :=
    match result with
    | .ok () => ("succeeded", "Connection successful")
    | .error e => ("failed", e.message)
  ⟨printed (Json.ofMembers [("status", .string status), ("message", .string message)]), result, none⟩

def syncEnding (records : String) : Except Error Report → Ending
  | .ok report => ⟨records, .ok (), some report⟩
  | .error e => ⟨records, .error e, none⟩

namespace Arguments

def loadConnector (a : Arguments) : Script (Except Error Connector) :=
  match a.config with
  | none => .done (.error (.config "Configuration file not specified (use -C flag)"))
  | some path =>
      (Settings.Configuration.load path).bind fun c => .done (c >>= Connector.ofConfiguration)

def withConnector (a : Arguments) (f : Connector → Session) : Script Session :=
  a.loadConnector.bind fun
    | .ok c => .done (f c)
    | .error e => .done (.failed e)

/-- The store for the record: the file that is named, or memory. -/
def store (a : Arguments) : Store :=
  match a.state with
  | some path => .file path
  | none => .memory none

def manageState (a : Arguments) (action : StateAction) : Script Session :=
  match a.state, action with
  | none, _ => .done (.failed (.config "State file not specified (use -s flag)"))
  | some path, .show =>
      (Store.file path).load.bind fun
        | .ok (some record) => .done (.succeeded (.object record.members))
        | .ok none => .done (.succeeded (.object [("last_cursor", .null)]))
        | .error e => .done (.failed e)
  | some path, .reset =>
      (Store.file path).reset.bind fun
        | (.ok (), _) => .done (.succeeded (.object [("status", .string "reset")]))
        | (.error e, _) => .done (.failed e)

def syncPlan (connector : Connector) (maxPages : Option Nat) (skipMalformed : Bool) : Plan := {
  connector
  maxPages
  policy := if skipMalformed then .skipMalformed else .strict }

def begin (a : Arguments) : Script Session :=
  match a.command with
  | .spec => .done (.succeeded Settings.Configuration.default.printed)
  | .validate => a.withConnector fun c => .succeeded (summary c)
  | .check => a.withConnector fun c => .checking { connector := c }
  | .read maxPages skipMalformed rateLimit =>
      a.withConnector fun c =>
        .syncing (syncPlan c maxPages skipMalformed) a.store
          (rateLimit.map fun n => { perSecond := n })
  | .state action => a.manageState action

end Arguments

end PageHarvest.Cli
