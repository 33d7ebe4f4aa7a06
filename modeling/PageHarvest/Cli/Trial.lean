import PageHarvest.Cli.Session
import PageHarvest.Files.Tree
import PageHarvest.Http.Answer

/-!
Commands carried out in memory: on a tree of files, with the outcome of every
request given in advance, and with waits that take no time. After the last of
the given outcomes no connection can be made.
-/

namespace PageHarvest.Cli

open Files (FileTree)
open Sync

/-- The surroundings of a command in memory. -/
structure Trial where
  tree : FileTree
  outcomes : List Http.Outcome := []
  /-- The time at which records are written. -/
  now : Instant
  store : Store := .memory none
  /-- The records printed so far. -/
  output : List Char := []
  /-- The requests that reached the server. -/
  sent : List Request := []

namespace Trial

def send (t : Trial) (request : Request) (timeout : Nat) : Except Error Json × Trial :=
  let outcome := t.outcomes.headD .refused
  let sent := if outcome = .refused then t.sent else t.sent ++ [request]
  (outcome.judge request.fullUrl.text (Duration.ofSeconds timeout),
    { t with outcomes := t.outcomes.tail, sent })

def reply (t : Trial) : Demand → Reply × Trial
  | .load =>
      let (r, tree) := t.tree.carryOut t.store.load
      (.loaded (r.map fun record => record.bind SyncRecord.lastCursor), { t with tree })
  | .proceed => (.granted, t)
  | .send request timeout =>
      let (r, t) := t.send request timeout
      (.answered r, t)
  | .wait _ => (.elapsed, t)
  | .accept records => (.accepted (.ok ()), { t with output := t.output ++ Record.lines records })
  | .save cursor =>
      let ((r, store), tree) := t.tree.carryOut (t.store.save cursor t.now)
      (.saved (r.map fun _ => ()), { t with store, tree })

/-- Enough replies: four for each outcome that is given, and the attempts at a
page after them. -/
def replies (t : Trial) (plan : Plan) : Nat :=
  4 * t.outcomes.length + 2 * plan.retry.maxAttempts.toNat + 8

/-- What is said of a command that the replies did not bring to its end. -/
def unfinished : Error := .other "unfinished"

def finish (t : Trial) : Session → Ending × Trial
  | .ended ending => (ending, t)
  | .checking plan =>
      let (check, t) := converse (Check.demand plan) (Check.step? plan)
        (fun t d => some (reply t d)) (t.replies plan) (.start plan) t
      (checkEnding (check.result?.getD (.error unfinished)), t)
  | .syncing plan store _ =>
      let (run, t) := converse (Run.demand plan) (Run.step? plan)
        (fun t d => some (reply t d)) (t.replies plan) .loading { t with store }
      (syncEnding (String.ofList t.output) (run.result?.getD (.error unfinished)), t)

def run (t : Trial) (a : Arguments) : Ending × Trial :=
  let (session, tree) := t.tree.carryOut a.begin
  { t with tree }.finish session

end Trial

end PageHarvest.Cli
