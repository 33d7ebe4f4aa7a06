import PageHarvest.Http.Request
import PageHarvest.Extraction
import PageHarvest.Paging
import PageHarvest.Retry

/-!
What a sync is to do: the connector that it reads, how many pages at most, what
becomes of elements without identity, and how often a request is repeated. The
phase says how far a sync is, for those who look on.
-/

namespace PageHarvest.Sync

structure Plan where
  connector : Connector
  /-- The number of pages after which to stop; without it, all pages. -/
  maxPages : Option Nat := none
  policy : ExtractPolicy := .strict
  retry : RetryPolicy := {}
deriving DecidableEq

namespace Plan

/-- Whether a number of pages is all that is wanted. -/
def isEnough (plan : Plan) (pages : Nat) : Bool :=
  match plan.maxPages with
  | some cap => cap ≤ pages
  | none => false

def requestCursor (plan : Plan) (progress : Progress) : Option String :=
  plan.connector.pagination.requestCursor progress

def request (plan : Plan) (progress : Progress) : Except Error Request :=
  plan.connector.request (plan.connector.variablesAfter (plan.requestCursor progress))

def extract (plan : Plan) (data : Json) : Extraction :=
  extractPage plan.connector.idMap plan.policy data

end Plan

inductive Phase where
  /-- Finding out where to begin. -/
  | start
  /-- Asking for a page, as often as it takes. -/
  | fetching
  /-- Finding the records of a page and handing them over. -/
  | extracting
  /-- Reading how to go on and committing the cursor. -/
  | advancing
  /-- Over, without an error. -/
  | done
  /-- Over, with an error. -/
  | failed
deriving DecidableEq, Repr

namespace Phase

instance : Inhabited Phase := ⟨.start⟩

def name : Phase → String
  | .start => "start"
  | .fetching => "fetching"
  | .extracting => "extracting"
  | .advancing => "advancing"
  | .done => "done"
  | .failed => "failed"

/-- The name of a phase in descriptions. -/
def label : Phase → String
  | .start => "Start"
  | .fetching => "Fetching"
  | .extracting => "Extracting"
  | .advancing => "Advancing"
  | .done => "Done"
  | .failed => "Failed"

def isTerminal : Phase → Bool
  | .done | .failed => true
  | _ => false

end Phase

def Plan.describe (plan : Plan) (phase : Phase) : String :=
  "SyncEngine \x7b endpoint: " ++ Text.quoted plan.connector.endpoint.text ++ ", pagination: " ++
    plan.connector.pagination.model.label ++ ", phase: " ++ phase.label ++ ", .. \x7d"

end PageHarvest.Sync
