import PageHarvest.Cli.Session
import PageHarvest.Http.Client
import PageHarvest.Http.Wire
import Std.Async.DNS
import Std.Async.Select
import Std.Async.TCP
import Std.Async.Timer
import Std.Time.DateTime.Timestamp

/-!
The program: its arguments, real files, a real clock and real connections. What
is to be done is decided elsewhere; here it is only carried out. Connections are
plain, so that a server that wants encryption counts as one that refuses them.
-/

namespace PageHarvest.Program

open Cli Files Sync

def faultOf : IO.Error → Fault
  | .noFileOrDirectory _ _ _ => .notFound
  | .alreadyExists _ _ _ => .alreadyExists
  | e => .other e.toString

def attempt {α : Type} (step : IO α) : IO (Except Fault α) := do
  try return .ok (← step)
  catch e => return .error (faultOf e)

def carryOut {α : Type} : Script α → IO α
  | .done value => return value
  | .read path next => do
      carryOut (next (← attempt do return (← IO.FS.readBinFile path).toList))
  | .probe path next => do
      carryOut (next (← attempt (IO.FS.realPath path)).isOk)
  | .makeDirectories path next => do carryOut (next (← attempt (IO.FS.createDirAll path)))
  | .write path bytes next => do
      carryOut (next (← attempt (IO.FS.writeBinFile path bytes.toByteArray)))
  | .rename source target next => do carryOut (next (← attempt (IO.FS.rename source target)))
  | .remove path next => do carryOut (next (← attempt (IO.FS.removeFile path)))

def now : IO Instant := do
  let d := (← Std.Time.Timestamp.now).val
  return Instant.ofUnix d.second.val.toNat d.nano.val.toNat

/-- Waits, to the millisecond. -/
def pause (d : Duration) : IO Unit := IO.sleep (UInt32.ofNat (min d.millis 4294967295))

def resolve (host : String) : Std.Async.Async (List Std.Net.IPAddr) := do
  match Std.Net.IPv4Addr.ofString host with
  | some a => return [.v4 a]
  | none => return (← Std.Async.DNS.getAddrInfo host "").toList

def endpoint (port : Nat) : Std.Net.IPAddr → Std.Net.SocketAddress
  | .v4 a => .v4 ⟨a, UInt16.ofNat port⟩
  | .v6 a => .v6 ⟨a, UInt16.ofNat port⟩

/-- A connection to the first place that takes one. -/
def connect : List Std.Net.SocketAddress →
    Std.Async.Async (Option Std.Async.TCP.Socket.Client)
  | [] => return none
  | place :: rest => do
      let socket ← Std.Async.TCP.Socket.Client.mk
      let taken ←
        try
          socket.connect place
          pure true
        catch _ => pure false
      if taken then return some socket else connect rest

partial def receiveAll (socket : Std.Async.TCP.Socket.Client) (bytes : ByteArray) :
    Std.Async.Async ByteArray := do
  let more ← try socket.recv? 65536 catch _ => pure none
  match more with
  | some chunk => if chunk.isEmpty then return bytes else receiveAll socket (bytes ++ chunk)
  | none => return bytes

def exchange (userAgent : String) (request : Request) : Std.Async.Async Http.Outcome := do
  let url := request.url
  match url.authority with
  | none => return .refused
  | some authority =>
      if url.scheme != "http" then return .refused
      let host := String.ofList (authority.host.toList.filter fun c => c != '[' && c != ']')
      let port := authority.port.getD ((Url.defaultPort? url.scheme).getD 80)
      let addresses ← try resolve host catch _ => pure []
      match ← connect (addresses.map (endpoint port)) with
      | none => return .refused
      | some socket =>
          let sent ←
            try
              socket.send (Http.requestBytes userAgent request).toByteArray
              pure true
            catch _ => pure false
          if sent then return .ofBytes (← receiveAll socket ByteArray.empty).toList
          else return .broken

/-- The outcome of a request, or silence when the time is over. -/
def send (userAgent : String) (request : Request) (seconds : Nat) : IO Http.Outcome :=
  let late : Std.Async.Async Http.Outcome := do
    Std.Async.sleep (.ofNat (seconds * 1000))
    return .silent
  (Std.Async.Async.race (exchange userAgent request) late).block

/-- What changes while a sync runs. -/
structure Surroundings where
  store : Store
  client : Http.Client

def reply (s : Surroundings) : Demand → IO (Reply × Surroundings)
  | .load => do
      let r ← carryOut s.store.load
      return (.loaded (r.map fun record => record.bind SyncRecord.lastCursor), s)
  | .proceed => return (.granted, s)
  | .send request timeout => do
      let time ← IO.monoNanosNow
      let (due, client) := s.client.admission time
      pause (due - time)
      let outcome ← send client.settings.userAgent request timeout
      let result := outcome.judge request.fullUrl.text (Duration.ofSeconds timeout)
      return (.answered result, { s with client })
  | .wait delay => do
      pause delay
      return (.elapsed, s)
  | .accept records => do
      let stdout ← IO.getStdout
      stdout.putStr (String.ofList (Record.lines records))
      stdout.flush
      return (.accepted (.ok ()), s)
  | .save cursor => do
      let (r, store) ← carryOut (s.store.save cursor (← now))
      return (.saved (r.map fun _ => ()), { s with store })

partial def serve {σ : Type} (demand : σ → Option Demand) (step? : σ → Reply → Option σ)
    (state : σ) (s : Surroundings) : IO σ := do
  match demand state with
  | none => return state
  | some d =>
      let (r, s) ← reply s d
      match step? state r with
      | none => return state
      | some next => serve demand step? next s

/-- The rest of a command that failed before its first request. -/
def broken (e : Error) : Ending := ⟨"", .error e, none⟩

def finish : Session → IO Ending
  | .ended ending => return ending
  | .checking plan => do
      match Http.Client.start {} (← IO.monoNanosNow) with
      | .error e => return broken e
      | .ok client =>
          let check ← serve (Check.demand plan) (Check.step? plan) (.start plan)
            ⟨.memory none, client⟩
          return checkEnding (check.result?.getD (.error (.other "unfinished")))
  | .syncing plan store rateLimit => do
      match Http.Client.start { rateLimit } (← IO.monoNanosNow) with
      | .error e => return broken e
      | .ok client =>
          let run ← serve (Run.demand plan) (Run.step? plan) .loading ⟨store, client⟩
          return syncEnding "" (run.result?.getD (.error (.other "unfinished")))

def usage : String :=
  "Usage: graphql-sync [OPTIONS] <COMMAND>\n\n" ++
  "Commands:\n" ++
  "  spec      Print the default configuration field table\n" ++
  "  validate  Validate the configuration file\n" ++
  "  check     Send the first page request and report whether it succeeded\n" ++
  "  read      Run a sync, writing records to stdout as JSON lines\n" ++
  "  state     Inspect or clear the sync state\n\n" ++
  "Options:\n" ++
  "  -C, --config <CONFIG>  Configuration file\n" ++
  "  -s, --state <STATE>    State file holding the last committed cursor\n" ++
  "  -v, --verbose          Verbose output\n" ++
  "  -h, --help             Print help\n" ++
  "  -V, --version          Print version"

def execute (a : Arguments) : IO UInt32 := do
  let start ← IO.monoMsNow
  let ending ← finish (← carryOut a.begin)
  IO.print ending.output
  match ending.report with
  | some report =>
      IO.eprintln (Json.object (report.members (some ((← IO.monoMsNow) - start)))).compact
  | none => pure ()
  match ending.result with
  | .ok () => return 0
  | .error e =>
      IO.eprintln ("Error: " ++ e.message)
      return 1

end PageHarvest.Program

def main (args : List String) : IO UInt32 := do
  match PageHarvest.Cli.Arguments.parse args with
  | .ok a => PageHarvest.Program.execute a
  | .error .help =>
      IO.println PageHarvest.Program.usage
      return 0
  | .error .version =>
      IO.println "graphql-sync 0.1.0"
      return 0
  | .error .usage =>
      IO.eprintln PageHarvest.Program.usage
      return 2
