import PageHarvest.Json.Basic
import PageHarvest.Sync.Fetch

/-!
What is known of a sync when it is over without an error: how it ended, the
cursor that was committed last, and how much was done.
-/

namespace PageHarvest.Sync

/-- How much was done. -/
structure Tally where
  /-- Pages of which the body was received. -/
  pages : Nat := 0
  /-- Records that were taken over. -/
  records : Nat := 0
  /-- Requests sent, the repeated ones included. -/
  attempts : Nat := 0
  /-- Requests that were repeated. -/
  retries : Nat := 0
deriving DecidableEq, Repr

namespace Tally

instance : Inhabited Tally := ⟨{}⟩

def addFetch (t : Tally) (fetch : Fetch) : Tally :=
  { t with attempts := t.attempts + fetch.attempts, retries := t.retries + fetch.retries }

def addPage (t : Tally) : Tally := { t with pages := t.pages + 1 }

def addRecords (t : Tally) (n : Nat) : Tally := { t with records := t.records + n }

def members (t : Tally) : List (String × Json) :=
  [("pages_fetched", .nat t.pages), ("records_emitted", .nat t.records),
    ("request_attempts", .nat t.attempts), ("retries", .nat t.retries)]

end Tally

inductive Status where
  /-- There are no more pages, or enough were read. -/
  | completed
  /-- It was told to stop. -/
  | cancelled
deriving DecidableEq, Repr

namespace Status

instance : Inhabited Status := ⟨.completed⟩

def name : Status → String
  | .completed => "completed"
  | .cancelled => "cancelled"

end Status

/-- What is known of a sync that ended without an error. -/
structure Report where
  status : Status
  /-- The cursor that was committed last. -/
  lastCursor : Option String
  tally : Tally
deriving DecidableEq, Repr

namespace Report

/-- Whether the sync did all that was wanted. -/
def isCompleted (r : Report) : Bool := r.status == .completed

/-- The members of the report, in the order in which they are written. The time
that the sync took is known only outside. -/
def members (r : Report) (milliseconds : Option Nat) : List (String × Json) :=
  [("status", .string r.status.name), ("last_cursor", Json.ofOption r.lastCursor),
    ("stats", .object (r.tally.members ++
      (milliseconds.map fun ms => ("duration_ms", Json.nat ms)).toList))]

end Report

end PageHarvest.Sync
