import PageHarvest.Paging
import PageHarvest.Response
import PageHarvest.Sync.Plan
import PageHarvest.Sync.Report

/-!
Running a sync, page after page. A page is fetched, its records are handed over,
and only then is the cursor after it committed; the progress changes together
with that commit and never else. So whatever goes wrong, the committed cursor
leads to the first page that was not taken over, or at worst to the one that was
taken over last.
-/

namespace PageHarvest.Sync

inductive Run where
  /-- The cursor to begin after is not known yet. -/
  | loading
  /-- Between two pages. -/
  | turning (progress : Progress) (tally : Tally)
  /-- A page is being fetched. -/
  | fetching (progress : Progress) (tally : Tally) (fetch : Fetch)
  /-- What was found in the data of a page is being handed over. -/
  | delivering (progress : Progress) (tally : Tally) (data : Json) (found : Extraction)
  /-- The cursor of the next progress is being committed. -/
  | committing (progress next : Progress) (tally : Tally)
  | finished (report : Report)
  | aborted (lastCursor : Option String) (cause : Error)
deriving DecidableEq

namespace Run

/-- What the sync asks for, unless it is over. -/
def demand (plan : Plan) : Run → Option Demand
  | .loading => some .load
  | .turning _ _ => some .proceed
  | .fetching _ _ fetch => some (fetch.demand plan.connector.timeout)
  | .delivering _ _ _ found => some (.accept found.records)
  | .committing _ next _ => some (.save next.cursor)
  | .finished _ | .aborted _ _ => none

def phase : Run → Phase
  | .loading => .start
  | .turning _ tally => if tally.pages = 0 then .start else .advancing
  | .fetching _ _ _ => .fetching
  | .delivering _ _ _ _ => .extracting
  | .committing _ _ _ => .advancing
  | .finished _ => .done
  | .aborted _ _ => .failed

/-- Begins a page, unless enough were read. -/
def beginPage (plan : Plan) (progress : Progress) (tally : Tally) : Run :=
  if plan.isEnough tally.pages then .finished ⟨.completed, progress.cursor, tally⟩
  else
    match plan.request progress with
    | .ok request => .fetching progress tally (.start request)
    | .error e => .aborted progress.cursor e

def receive (plan : Plan) (progress : Progress) (tally : Tally) (body : Json) : Run :=
  match Response.checkErrors body with
  | .ok () =>
      let data := Response.dataRoot body
      .delivering progress tally data (plan.extract data)
  | .error e => .aborted progress.cursor e

def fetched (plan : Plan) (progress : Progress) (tally : Tally) (fetch : Fetch) : FetchStep → Run
  | .ongoing next => .fetching progress tally next
  | .body body => receive plan progress (tally.addFetch fetch).addPage body
  | .failed e => .aborted progress.cursor e
  | .cancelled => .finished ⟨.cancelled, progress.cursor, tally.addFetch fetch⟩

/-- Goes on after the records of a page were taken over. A path that failed
fails the page, which is then not committed. -/
def delivered (plan : Plan) (progress : Progress) (tally : Tally) (data : Json)
    (found : Extraction) : Run :=
  match found.failures with
  | failure :: _ => .aborted progress.cursor failure
  | [] =>
      match plan.connector.pagination.next data progress with
      | .ok (_, next) => .committing progress next (tally.addRecords found.records.length)
      | .error e => .aborted progress.cursor e

def committed (next : Progress) (tally : Tally) : Run :=
  if next.hasMore then .turning next tally
  else .finished ⟨.completed, next.cursor, tally⟩

/-- What follows a reply, if it is one that fits. -/
def step? (plan : Plan) : Run → Reply → Option Run
  | .loading, .loaded (.ok cursor) => some (.turning (.startingAt cursor) {})
  | .loading, .loaded (.error e) => some (.aborted none e)
  | .turning progress tally, .granted => some (beginPage plan progress tally)
  | .turning progress tally, .cancelled =>
      some (.finished ⟨.cancelled, progress.cursor, tally⟩)
  | .fetching progress tally fetch, reply =>
      (fetch.step? plan.retry reply).map (fetched plan progress tally fetch)
  | .delivering progress tally data found, .accepted (.ok ()) =>
      some (delivered plan progress tally data found)
  | .delivering progress _ _ _, .accepted (.error e) => some (.aborted progress.cursor e)
  | .committing _ next tally, .saved (.ok ()) => some (committed next tally)
  | .committing progress _ _, .saved (.error e) => some (.aborted progress.cursor e)
  | _, _ => none

def feed? (plan : Plan) (run : Run) : List Reply → Option Run
  | [] => some run
  | reply :: rest => do feed? plan (← run.step? plan reply) rest

/-- The demands and replies of a sync that hears replies one after the other, up
to the first that does not fit. -/
def events (plan : Plan) (run : Run) : List Reply → List Event
  | [] => []
  | reply :: rest =>
      match run.demand plan, run.step? plan reply with
      | some demand, some next => ⟨demand, reply⟩ :: events plan next rest
      | _, _ => []

def result? : Run → Option (Except Error Report)
  | .finished report => some (.ok report)
  | .aborted lastCursor cause => some (.error (.aborted lastCursor cause))
  | _ => none

theorem feed?_append (plan : Plan) (run : Run) (front back : List Reply) :
    run.feed? plan (front ++ back) = (run.feed? plan front).bind (feed? plan · back) := by
  induction front generalizing run with
  | nil => rfl
  | cons reply rest ih =>
    simp only [List.cons_append, feed?, bind]
    cases run.step? plan reply with
    | none => rfl
    | some next => simpa using ih next

end Run

end PageHarvest.Sync
