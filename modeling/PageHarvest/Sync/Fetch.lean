import PageHarvest.Sync.Exchange

/-!
Getting the body of one page. A request is sent; if that fails in a way that may
pass, and attempts are left, it is sent again after a delay. Attempts count from
one.
-/

namespace PageHarvest.Sync

inductive Fetch where
  /-- An attempt waits for its answer. -/
  | sending (request : Request) (attempt : Nat)
  /-- An attempt failed, and the next one waits for its time. -/
  | waiting (request : Request) (attempt : Nat) (delay : Duration)
deriving DecidableEq

/-- What a reply makes of a page that is being fetched. -/
inductive FetchStep where
  | ongoing (fetch : Fetch)
  | body (body : Json)
  | failed (error : Error)
  | cancelled
deriving DecidableEq

namespace Fetch

def start (request : Request) : Fetch := .sending request 1

/-- What is asked for, given the seconds after which an attempt is given up. -/
def demand (timeout : Nat) : Fetch → Demand
  | .sending request _ => .send request timeout
  | .waiting _ _ delay => .wait delay

def attempts : Fetch → Nat
  | .sending _ attempt => attempt
  | .waiting _ attempt _ => attempt

/-- The attempts that were followed by another one or are going to be. -/
def retries : Fetch → Nat
  | .sending _ attempt => attempt - 1
  | .waiting _ attempt _ => attempt

def afterFailure (policy : RetryPolicy) (request : Request) (attempt : Nat) (e : Error) :
    FetchStep :=
  if policy.shouldRetry e attempt then
    .ongoing (.waiting request attempt (policy.delayFor e attempt))
  else .failed e

/-- What follows a reply, if it is one that fits. -/
def step? (policy : RetryPolicy) : Fetch → Reply → Option FetchStep
  | _, .cancelled => some .cancelled
  | .sending _ _, .answered (.ok body) => some (.body body)
  | .sending request attempt, .answered (.error e) =>
      some (afterFailure policy request attempt e)
  | .waiting request attempt _, .elapsed => some (.ongoing (.sending request (attempt + 1)))
  | _, _ => none

end Fetch

end PageHarvest.Sync
