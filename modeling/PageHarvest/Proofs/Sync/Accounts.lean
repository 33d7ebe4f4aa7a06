import PageHarvest.Proofs.Sync.Moves
import PageHarvest.Proofs.Sync.Trace

/-!
What a report says about the sync that it ends. The counters are raised at
different moments: a page and the attempts at it count when its body is there or
the sync stops, the records when they were taken over. In between the tally lags
behind the trace or is ahead of it by a known amount, and a report is given only
where nothing is open but one attempt that was cut short.
-/

namespace PageHarvest.Sync

namespace Event

/-- An attempt that came to an outcome, be it a body or an error. -/
def isOutcome : Event → Bool
  | ⟨.send _ _, .answered _⟩ => true
  | _ => false

/-- An attempt that was given up while it waited for its outcome. -/
def isCutShort : Event → Bool
  | ⟨.send _ _, .cancelled⟩ => true
  | _ => false

theorem isOutcome_cancelled (demand : Demand) : isOutcome ⟨demand, .cancelled⟩ = false := by
  cases demand <;> rfl

end Event

def outcomes (trace : List Event) : Nat := trace.countP Event.isOutcome

/-- Whether the last thing that happened is that an attempt was cut short. -/
def endsCutShort (trace : List Event) : Bool := trace.getLast?.any Event.isCutShort

@[simp] theorem outcomes_concat (trace : List Event) (event : Event) :
    outcomes (trace ++ [event]) = outcomes trace + event.isOutcome.toNat := by
  cases h : event.isOutcome <;> simp [outcomes, h]

@[simp] theorem endsCutShort_concat (trace : List Event) (event : Event) :
    endsCutShort (trace ++ [event]) = event.isCutShort := by
  simp [endsCutShort]

/-- The report counts the pages that were taken over and committed, their
records, and the attempts; one attempt more than there are outcomes if the sync
was told to stop during it. -/
structure Report.AccountsFor (report : Report) (trace : List Event) : Prop where
  taken : report.tally.pages = (takenPages trace).length
  committed : report.tally.pages = (commits trace).length
  records : report.tally.records = (takenPages trace).flatten.length
  outcomes : outcomes trace = report.tally.pages + report.tally.retries
  attempts : report.tally.attempts = Sync.outcomes trace + (endsCutShort trace).toNat
  cancelled : endsCutShort trace = true → report.status = .cancelled

/-- The tally accounts for the trace but for the page that is open: that it
counts already, that it was taken over and not committed, and the attempts at it
that failed. -/
structure Tally.Accounts (tally : Tally) (trace : List Event)
    (undelivered uncommitted failed : Nat) : Prop where
  taken : tally.pages = (takenPages trace).length + undelivered
  committed : (takenPages trace).length = (commits trace).length + uncommitted
  records : tally.records = (takenPages trace).flatten.length
  outcomes : outcomes trace = tally.pages + tally.retries + failed
  attempts : tally.attempts = tally.pages + tally.retries

namespace Tally.Accounts

variable {tally : Tally} {trace : List Event} {event : Event}
  {undelivered uncommitted failed : Nat}

theorem concat (h : tally.Accounts trace undelivered uncommitted failed)
    (htaken : event.taken? = none) (hcommitted : event.committed? = none)
    (houtcome : event.isOutcome = false) :
    tally.Accounts (trace ++ [event]) undelivered uncommitted failed where
  taken := by simpa [htaken] using h.taken
  committed := by simpa [htaken, hcommitted] using h.committed
  records := by simpa [htaken] using h.records
  outcomes := by simpa [houtcome] using h.outcomes
  attempts := h.attempts

/-- Another attempt at the open page failed. -/
theorem failure (h : tally.Accounts trace 0 0 failed) (request : Request) (timeout : Nat)
    (e : Error) :
    tally.Accounts (trace ++ [⟨.send request timeout, .answered (.error e)⟩]) 0 0
      (failed + 1) where
  taken := by simpa [Event.taken?] using h.taken
  committed := by simpa [Event.taken?, Event.committed?] using h.committed
  records := by simpa [Event.taken?] using h.records
  outcomes := by
    have houtcomes := h.outcomes
    simp only [outcomes_concat, Event.isOutcome, Bool.toNat_true]
    omega
  attempts := h.attempts

/-- The body of the open page came with the attempt after those that failed. -/
theorem body (h : tally.Accounts trace 0 0 failed) (request : Request) (timeout : Nat)
    (body : Json) :
    (tally.addFetch (.sending request (failed + 1))).addPage.Accounts
      (trace ++ [⟨.send request timeout, .answered (.ok body)⟩]) 1 0 0 where
  taken := by simpa [Event.taken?, addPage, addFetch] using h.taken
  committed := by simpa [Event.taken?, Event.committed?] using h.committed
  records := by simpa [Event.taken?, addPage, addFetch] using h.records
  outcomes := by
    have houtcomes := h.outcomes
    simp only [outcomes_concat, Event.isOutcome, Bool.toNat_true, addPage, addFetch,
      Fetch.retries]
    omega
  attempts := by
    have hattempts := h.attempts
    simp only [addPage, addFetch, Fetch.attempts, Fetch.retries]
    omega

theorem accept (h : tally.Accounts trace 1 0 0) (records : List Record) :
    (tally.addRecords records.length).Accounts
      (trace ++ [⟨.accept records, .accepted (.ok ())⟩]) 0 1 0 where
  taken := by simpa [Event.taken?, addRecords] using h.taken
  committed := by simpa [Event.taken?, Event.committed?] using h.committed
  records := by simpa [Event.taken?, addRecords] using h.records
  outcomes := by simpa [Event.isOutcome, addRecords] using h.outcomes
  attempts := h.attempts

theorem commit (h : tally.Accounts trace 0 1 0) (cursor : Option String) :
    tally.Accounts (trace ++ [⟨.save cursor, .saved (.ok ())⟩]) 0 0 0 where
  taken := by simpa [Event.taken?] using h.taken
  committed := by simpa [Event.taken?, Event.committed?] using h.committed
  records := by simpa [Event.taken?] using h.records
  outcomes := by simpa [Event.isOutcome] using h.outcomes
  attempts := h.attempts

/-- Where no page is open, a tally can be reported as it is. -/
theorem report (h : tally.Accounts trace 0 0 0) (hcut : endsCutShort trace = false)
    (status : Status) (cursor : Option String) :
    Report.AccountsFor ⟨status, cursor, tally⟩ trace where
  taken := h.taken
  committed := h.taken.trans h.committed
  records := h.records
  outcomes := h.outcomes
  attempts := by
    have hattempts := h.attempts
    have houtcomes := h.outcomes
    simp only [hcut, Bool.toNat_false]
    omega
  cancelled := by simp [hcut]

/-- A sync that stops while it fetches a page reports the attempts at it, and
the one that was cut short has no outcome. -/
theorem report_interrupted {fetch : Fetch} (h : tally.Accounts trace 0 0 fetch.retries)
    (hattempt : 0 < fetch.attempts) (timeout : Nat) (cursor : Option String) :
    Report.AccountsFor ⟨.cancelled, cursor, tally.addFetch fetch⟩
      (trace ++ [⟨fetch.demand timeout, .cancelled⟩]) where
  taken := by simpa [Event.taken?_cancelled, addFetch] using h.taken
  committed := by
    have hcommitted := h.taken.trans h.committed
    simpa [Event.committed?_cancelled, addFetch] using hcommitted
  records := by simpa [Event.taken?_cancelled, addFetch] using h.records
  outcomes := by
    have houtcomes := h.outcomes
    simp only [outcomes_concat, Event.isOutcome_cancelled, Bool.toNat_false, addFetch]
    omega
  attempts := by
    have houtcomes := h.outcomes
    have hattempts := h.attempts
    simp only [outcomes_concat, Event.isOutcome_cancelled, Bool.toNat_false, endsCutShort_concat,
      addFetch]
    cases fetch with
    | sending request attempt =>
        simp only [Fetch.attempts, Fetch.retries, Fetch.demand, Event.isCutShort,
          Bool.toNat_true] at *
        omega
    | waiting request attempt delay =>
        simp only [Fetch.attempts, Fetch.retries, Fetch.demand, Event.isCutShort,
          Bool.toNat_false] at *
        omega
  cancelled := fun _ => rfl

end Tally.Accounts

namespace Run

variable {plan : Plan} {run next : Run} {trace : List Event} {event : Event}

/-- How the tally of a sync and its trace agree, by the state of the sync. -/
def Accounted (trace : List Event) : Run → Prop
  | .loading => trace = []
  | .turning _ tally => tally.Accounts trace 0 0 0
  | .fetching _ tally fetch => 0 < fetch.attempts ∧ tally.Accounts trace 0 0 fetch.retries
  | .delivering _ tally _ _ => tally.Accounts trace 1 0 0
  | .committing _ _ tally => tally.Accounts trace 0 1 0
  | .finished report => report.AccountsFor trace
  | .aborted _ _ => True

theorem Accounted.move (h : run.Accounted trace) (hmove : Move plan run event next) :
    next.Accounted (trace ++ [event]) := by
  cases hmove with
  | loaded cursor =>
      subst h
      constructor <;> rfl
  | stopped progress tally => exact (h.concat rfl rfl rfl).report (by simp [Event.isCutShort]) _ _
  | capped progress tally henough =>
      exact (h.concat rfl rfl rfl).report (by simp [Event.isCutShort]) _ _
  | asked progress tally request hmore hrequest => exact ⟨Nat.one_pos, h.concat rfl rfl rfl⟩
  | interrupted progress tally fetch =>
      obtain ⟨hattempt, haccounts⟩ := h
      exact haccounts.report_interrupted hattempt _ _
  | retrying progress tally request attempt e hretry =>
      obtain ⟨hattempt, haccounts⟩ := h
      -- The attempt that failed counts as a retry before the next one is made.
      have hfailed : attempt - 1 + 1 = attempt := Nat.sub_add_cancel hattempt
      refine ⟨hattempt, ?_⟩
      simpa [Fetch.retries, hfailed] using
        haccounts.failure request plan.connector.timeout e
  | retried progress tally request attempt delay =>
      obtain ⟨hattempt, haccounts⟩ := h
      exact ⟨Nat.succ_pos attempt, haccounts.concat rfl rfl rfl⟩
  | received progress tally request attempt body hbody =>
      obtain ⟨hattempt, haccounts⟩ := h
      have hfailed : attempt - 1 + 1 = attempt := Nat.sub_add_cancel hattempt
      simpa [Accounted, Fetch.retries, hfailed] using
        haccounts.body request plan.connector.timeout body
  | delivered progress tally data found verdict next hfound hnext => exact h.accept _
  | turned progress next tally hmore => exact h.commit _
  | completed progress next tally hmore =>
      exact (h.commit _).report (by simp [Event.isCutShort]) _ _
  | _ => trivial

theorem Reaches.accounted (h : Reaches plan trace run) : run.Accounted trace := by
  induction h with
  | start => rfl
  | move _ hmove ih => exact ih.move hmove

/-- A sync that ends without an error reports all that it did, whatever it heard
and whenever it was told to stop. -/
theorem report_accounts_for_sync {replies : List Reply} {report : Report}
    (hfeed : Run.loading.feed? plan replies = some run)
    (hresult : run.result? = some (.ok report)) :
    report.AccountsFor (Run.loading.events plan replies) := by
  have haccounted : run.Accounted (Run.loading.events plan replies) :=
    (reaches_of_feed? hfeed).accounted
  cases run with
  | finished other =>
      cases hresult
      exact haccounted
  | _ => cases hresult

end Run

/-- The first page is committed after a retry, and the sync is told to stop while
the second one is being asked for. -/
def Sample.stoppedInSecondPage : List Reply :=
  [.loaded (.ok none), .granted, .answered (.error (.timeout 3)), .elapsed,
    .answered (.ok (page "1" "a" true)), .accepted (.ok ()), .saved (.ok ()), .granted, .cancelled]

theorem Run.stopped_sync_reports_open_attempt :
    ∃ report,
      Run.loading.feed? { connector := Sample.connector } Sample.stoppedInSecondPage =
          some (.finished report) ∧
        report.AccountsFor (Run.loading.events { connector := Sample.connector }
          Sample.stoppedInSecondPage) ∧
        report.status = .cancelled ∧
        report.tally = { pages := 1, records := 1, attempts := 3, retries := 1 } := by
  have hfeed : Run.loading.feed? { connector := Sample.connector } Sample.stoppedInSecondPage =
      some (.finished ⟨.cancelled, some "a",
        { pages := 1, records := 1, attempts := 3, retries := 1 }⟩) := by rfl
  exact ⟨_, hfeed, Run.report_accounts_for_sync hfeed rfl, rfl, rfl⟩

end PageHarvest.Sync
