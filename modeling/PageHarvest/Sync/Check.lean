import PageHarvest.Paging
import PageHarvest.Response
import PageHarvest.Sync.Fetch
import PageHarvest.Sync.Plan

/-!
Checking that a sync can work: the first page is fetched and looked into, but
nothing is handed over and nothing committed.
-/

namespace PageHarvest.Sync

inductive Check where
  | fetching (fetch : Fetch)
  | passed
  | failed (cause : Error)
deriving DecidableEq

namespace Check

def progress : Progress := .startingAt none

def start (plan : Plan) : Check :=
  match plan.request progress with
  | .ok request => .fetching (.start request)
  | .error e => .failed e

def demand (plan : Plan) : Check → Option Demand
  | .fetching fetch => some (fetch.demand plan.connector.timeout)
  | .passed | .failed _ => none

def judge (plan : Plan) (body : Json) : Except Error Unit := do
  Response.checkErrors body
  let data := Response.dataRoot body
  let _ ← plan.connector.pagination.next data progress
  let _ ← (plan.extract data).toResult

def ofResult : Except Error Unit → Check
  | .ok () => .passed
  | .error e => .failed e

def fetched (plan : Plan) : FetchStep → Check
  | .ongoing next => .fetching next
  | .body body => ofResult (judge plan body)
  | .failed e => .failed e
  | .cancelled => .failed (.other "check cancelled")

/-- What follows a reply, if it is one that fits. -/
def step? (plan : Plan) : Check → Reply → Option Check
  | .fetching fetch, reply => (fetch.step? plan.retry reply).map (fetched plan)
  | _, _ => none

def feed? (plan : Plan) (check : Check) : List Reply → Option Check
  | [] => some check
  | reply :: rest => do feed? plan (← check.step? plan reply) rest

/-- The demands and replies of a check that hears replies one after the other,
up to the first that does not fit. -/
def events (plan : Plan) (check : Check) : List Reply → List Event
  | [] => []
  | reply :: rest =>
      match check.demand plan, check.step? plan reply with
      | some demand, some next => ⟨demand, reply⟩ :: events plan next rest
      | _, _ => []

def result? : Check → Option (Except Error Unit)
  | .passed => some (.ok ())
  | .failed e => some (.error e)
  | .fetching _ => none

end Check

end PageHarvest.Sync
