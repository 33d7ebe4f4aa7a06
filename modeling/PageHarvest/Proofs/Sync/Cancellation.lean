import PageHarvest.Proofs.Paging
import PageHarvest.Proofs.Sync.Commitment
import PageHarvest.Proofs.Sync.Source
import PageHarvest.Proofs.Sync.World

/-!
What a sync still does when it is told to stop. It is told at the next page, or
earlier if it is waiting for an answer or for the time of a retry and happens to
look; until then it goes on as if nothing had happened. So the page in progress
may still be handed over and committed, but no other page begins.
-/

namespace PageHarvest.Sync

namespace Event

def isAccept : Event → Bool
  | ⟨.accept _, _⟩ => true
  | _ => false

def isSave : Event → Bool
  | ⟨.save _, _⟩ => true
  | _ => false

def isOfPage : Event → Bool
  | ⟨.send _ _, _⟩ | ⟨.wait _, _⟩ | ⟨.accept _, _⟩ | ⟨.save _, _⟩ => true
  | _ => false

end Event

/-- A page was begun, and it is not committed yet. -/
def PageOpen (trace : List Event) : Prop :=
  ∃ front rest, trace = front ++ ⟨.proceed, .granted⟩ :: rest ∧
    ∀ event ∈ rest, event.demand ≠ .proceed ∧ event.committed? = none

/-- The trace ends with the commit of a page that says that no other follows. -/
def EndsWithLastPage (plan : Plan) (trace : List Event) : Prop :=
  ∃ front request timeout body records cursor next,
    trace = front ++ Source.pageEvents request timeout body records cursor ∧
      plan.connector.pagination.next (Response.dataRoot body)
        (.startingAt (lastCommitted front)) = .ok (.done, next)

/-- After some events only the page in progress is gone on with: at most one
delivery and one commit, both of that page, and no request but its own. -/
structure WindsDown (plan : Plan) (early late : List Event) : Prop where
  accepts : late.countP Event.isAccept ≤ 1
  saves : late.countP Event.isSave ≤ 1
  begins : ∀ event ∈ late, event.demand = .proceed → event.reply = .cancelled
  inPage : ∀ event ∈ late, event.isOfPage = true → PageOpen early
  asks : ∀ request timeout reply, ⟨.send request timeout, reply⟩ ∈ late →
    plan.request (.startingAt (lastCommitted early)) = .ok request

/-- How a sync ends that was told to stop after some events. -/
def StopsAfter (plan : Plan) (early late : List Event) : Except Error Report → Prop
  | .ok report =>
      report.status = .cancelled ∨
        report.status = .completed ∧ PageOpen early ∧ EndsWithLastPage plan (early ++ late)
  | .error e =>
      ∃ cause, e = .aborted (lastCommitted (early ++ late)) cause ∧
        Stops plan (early ++ late) cause ∧
        (late = [⟨.load, .loaded (.error cause)⟩] ∨ PageOpen early)

theorem PageOpen.concat {trace : List Event} {event : Event} (h : PageOpen trace)
    (hbegin : event.demand ≠ .proceed) (hsave : event.committed? = none) :
    PageOpen (trace ++ [event]) := by
  obtain ⟨front, rest, rfl, hrest⟩ := h
  refine ⟨front, rest ++ [event], by simp, ?_⟩
  intro other hother
  rcases List.mem_append.mp hother with hother | hother
  · exact hrest other hother
  · rw [List.mem_singleton.mp hother]
    exact ⟨hbegin, hsave⟩

namespace Run

variable {plan : Plan} {run next last : Run} {trace early late : List Event} {event : Event}

/-- A page was begun and neither committed nor given up. -/
def InPage : Run → Prop
  | .fetching _ _ _ | .delivering _ _ _ _ | .committing _ _ _ => True
  | _ => False

/-- The deliveries that are still to come without another page. -/
def acceptsDue : Run → Nat
  | .fetching _ _ _ | .delivering _ _ _ _ => 1
  | _ => 0

/-- The commits that are still to come without another page. -/
def savesDue : Run → Nat
  | .fetching _ _ _ | .delivering _ _ _ _ | .committing _ _ _ => 1
  | _ => 0

theorem acceptsDue_le (run : Run) : run.acceptsDue ≤ 1 := by
  cases run <;> simp [acceptsDue]

theorem savesDue_le (run : Run) : run.savesDue ≤ 1 := by
  cases run <;> simp [savesDue]

theorem Reaches.pageOpen (h : Reaches plan trace run) (hpage : run.InPage) : PageOpen trace := by
  induction h with
  | start => cases hpage
  | @move trace run next event _ hmove ih =>
      cases hmove with
      | asked => exact ⟨trace, [], rfl, by simp⟩
      | retrying | retried | received | delivered =>
          exact (ih trivial).concat (by simp) rfl
      | _ => cases hpage

/-- A delivery that is done is no longer due, and none becomes due without a page
that begins. -/
theorem Move.acceptsDue_le (h : Move plan run event next)
    (hbegin : event.demand = .proceed → event.reply = .cancelled) :
    [event].countP Event.isAccept + next.acceptsDue ≤ run.acceptsDue := by
  cases h with
  | asked => cases hbegin rfl
  | interrupted progress tally fetch =>
      cases fetch <;> simp [acceptsDue, Event.isAccept, Fetch.demand]
  | _ => simp [acceptsDue, Event.isAccept]

theorem Move.savesDue_le (h : Move plan run event next)
    (hbegin : event.demand = .proceed → event.reply = .cancelled) :
    [event].countP Event.isSave + next.savesDue ≤ run.savesDue := by
  cases h with
  | asked => cases hbegin rfl
  | interrupted progress tally fetch => cases fetch <;> simp [savesDue, Event.isSave, Fetch.demand]
  | _ => simp [savesDue, Event.isSave]

theorem Move.inPage_of_isOfPage (h : Move plan run event next) (hpart : event.isOfPage = true) :
    run.InPage := by
  cases h with
  | loaded | loadFailed | stopped | capped | unasked | asked => cases hpart
  | _ => trivial

/-- A page goes on without another beginning or a commit. -/
theorem Move.still_inPage (h : Move plan run event next)
    (hbegin : event.demand = .proceed → event.reply = .cancelled) (hpage : next.InPage) :
    run.InPage ∧ event.loaded? = none ∧ event.committed? = none := by
  cases h with
  | asked => cases hbegin rfl
  | retrying | retried | received | delivered => exact ⟨trivial, rfl, rfl⟩
  | _ => cases hpage

/-- Where a commit is due, the body of the page came and was taken over, and it
leads to the next progress. -/
theorem Reaches.committing {progress next : Progress} {tally : Tally}
    (h : Reaches plan trace (.committing progress next tally)) :
    ∃ front request timeout body records verdict,
      trace = front ++ [⟨.send request timeout, .answered (.ok body)⟩] ++
          [⟨.accept records, .accepted (.ok ())⟩] ∧
        plan.connector.pagination.next (Response.dataRoot body)
          (.startingAt (lastCommitted front)) = .ok (verdict, next) := by
  cases h with
  | move hreaches hmove =>
      cases hmove with
      | delivered progress tally data found verdict next hfound hnext =>
          obtain ⟨hprogress, front, request, timeout, body, rfl, rfl, rfl⟩ := hreaches.agrees
          rw [lastCommitted_concat front rfl rfl] at hprogress
          subst hprogress
          exact ⟨front, request, timeout, body, _, verdict, rfl, hnext⟩

theorem Reaches.endsWithLastPage {progress next : Progress} {tally : Tally}
    (h : Reaches plan trace (.committing progress next tally)) (hmore : next.hasMore = false) :
    EndsWithLastPage plan (trace ++ [⟨.save next.cursor, .saved (.ok ())⟩]) := by
  obtain ⟨front, request, timeout, body, records, verdict, rfl, hnext⟩ := h.committing
  have hdone : verdict = .done := by
    by_contra hverdict
    have hopen := (Pagination.next_hasMore rfl hnext).mpr hverdict
    simp [hmore] at hopen
  subst hdone
  exact ⟨front, request, timeout, body, records, next.cursor, next,
    (Source.append_pageEvents front request timeout body records next.cursor).symm, hnext⟩

/-- An end without another page: the sync was stopped, or could not even be
loaded, or the page that was open failed or was the last one. -/
def Closes (plan : Plan) (early : List Event) (run : Run) (late : List Event) : Run → Prop
  | .finished report =>
      report.status = .cancelled ∨
        report.status = .completed ∧ run.InPage ∧ EndsWithLastPage plan (early ++ late)
  | .aborted _ cause => late = [⟨.load, .loaded (.error cause)⟩] ∨ run.InPage
  | _ => True

/-- What a sync did since some point without beginning a page. What was due then
is due now or done. -/
structure Winding (plan : Plan) (early : List Event) (run : Run) (late : List Event)
    (last : Run) : Prop where
  accepts : late.countP Event.isAccept + last.acceptsDue ≤ run.acceptsDue
  saves : late.countP Event.isSave + last.savesDue ≤ run.savesDue
  begins : ∀ event ∈ late, event.demand = .proceed → event.reply = .cancelled
  inPage : ∀ event ∈ late, event.isOfPage = true → run.InPage
  asks : ∀ request timeout reply, ⟨.send request timeout, reply⟩ ∈ late →
    plan.request (.startingAt (lastCommitted early)) = .ok request
  still : last.InPage → run.InPage ∧ lastCommitted (early ++ late) = lastCommitted early
  closes : Closes plan early run late last

theorem winding_nil (plan : Plan) (early : List Event) (hover : run.result? = none) :
    Winding plan early run [] run where
  accepts := by simp
  saves := by simp
  begins := by simp
  inPage := by simp
  asks := by simp
  still := by simp
  closes := by
    cases run with
    | finished report => cases hover
    | aborted lastCursor cause => cases hover
    | _ => trivial

theorem Winding.closes_move (h : Winding plan early run late last)
    (hreaches : Reaches plan (early ++ late) last) (hmove : Move plan last event next)
    (hbegin : event.demand = .proceed → event.reply = .cancelled) :
    Closes plan early run (late ++ [event]) next := by
  cases hmove with
  | loadFailed e =>
      have hnil : early ++ late = [] := hreaches.agrees
      obtain ⟨-, rfl⟩ := List.append_eq_nil_iff.mp hnil
      exact .inl rfl
  | capped | unasked => cases hbegin rfl
  | stopped | interrupted => exact .inl rfl
  | unanswered | refused | undelivered | unextracted | unpaged | unsaved =>
      exact .inr (h.still trivial).1
  | completed progress next tally hmore =>
      refine .inr ⟨rfl, (h.still trivial).1, ?_⟩
      rw [← List.append_assoc]
      exact hreaches.endsWithLastPage hmore
  | _ => trivial

theorem Winding.move (h : Winding plan early run late last)
    (hreaches : Reaches plan (early ++ late) last) (hmove : Move plan last event next)
    (hbegin : event.demand = .proceed → event.reply = .cancelled) :
    Winding plan early run (late ++ [event]) next where
  accepts := by
    have hdone := hmove.acceptsDue_le hbegin
    have hbefore := h.accepts
    rw [List.countP_append]
    omega
  saves := by
    have hdone := hmove.savesDue_le hbegin
    have hbefore := h.saves
    rw [List.countP_append]
    omega
  begins := by
    intro other hother
    rcases List.mem_append.mp hother with hother | hother
    · exact h.begins other hother
    · rw [List.mem_singleton.mp hother]
      exact hbegin
  inPage := by
    intro other hother hpart
    rcases List.mem_append.mp hother with hother | hother
    · exact h.inPage other hother hpart
    · rw [List.mem_singleton.mp hother] at hpart
      exact (h.still (hmove.inPage_of_isOfPage hpart)).1
  asks := by
    intro request timeout reply hsend
    rcases List.mem_append.mp hsend with hsend | hsend
    · exact h.asks request timeout reply hsend
    · have hevent := List.mem_singleton.mp hsend
      subst hevent
      rw [← (h.still (hmove.inPage_of_isOfPage rfl)).2]
      exact hreaches.request_eq hmove
  still := by
    intro hpage
    obtain ⟨hbefore, hload, hsave⟩ := hmove.still_inPage hbegin hpage
    obtain ⟨hrun, hcursor⟩ := h.still hbefore
    refine ⟨hrun, ?_⟩
    rw [← List.append_assoc, lastCommitted_concat _ hload hsave, hcursor]
  closes := h.closes_move hreaches hmove hbegin

theorem Winding.windsDown (h : Winding plan early run late last) (hrun : Reaches plan early run) :
    WindsDown plan early late where
  accepts := by
    have hdone := h.accepts
    have hdue := run.acceptsDue_le
    omega
  saves := by
    have hdone := h.saves
    have hdue := run.savesDue_le
    omega
  begins := h.begins
  inPage := fun event hevent hpart => hrun.pageOpen (h.inPage event hevent hpart)
  asks := h.asks

theorem Winding.stopsAfter (h : Winding plan early run late last) (hrun : Reaches plan early run)
    (hlast : Reaches plan (early ++ late) last) {result : Except Error Report}
    (hresult : last.result? = some result) : StopsAfter plan early late result := by
  have hcloses := h.closes
  cases last with
  | finished report =>
      cases hresult
      rcases hcloses with hstatus | ⟨hstatus, hpage, hfinal⟩
      · exact .inl hstatus
      · exact .inr ⟨hstatus, hrun.pageOpen hpage, hfinal⟩
  | aborted lastCursor cause =>
      cases hresult
      obtain ⟨rfl, hstops⟩ := hlast.agrees
      refine ⟨cause, rfl, hstops, ?_⟩
      rcases hcloses with hload | hpage
      · exact .inl hload
      · exact .inr (hrun.pageOpen hpage)
  | _ => cases hresult

end Run

namespace World

variable (world : World) {plan : Plan} {run : Run} {early : List Event}

/-- A world that tells the sync to stop from some point on lets it only go on
with the page that is open then. -/
theorem exists_winding {moves : Nat} (hcourse : world.course plan moves = (run, early))
    (hopen : run.result? = none)
    (hstopped : ∀ trace, early <+: trace → world.reply trace .proceed = .cancelled) (later : Nat) :
    ∃ late last, world.course plan (moves + later) = (last, early ++ late) ∧
      Run.Winding plan early run late last := by
  induction later with
  | zero => exact ⟨[], run, by simpa using hcourse, Run.winding_nil plan early hopen⟩
  | succ later ih =>
      obtain ⟨late, last, hnow, hwinding⟩ := ih
      have hreaches := world.reaches_course plan (moves + later)
      rw [hnow] at hreaches
      have hbegin : ∀ event : Event, event.reply = world.reply (early ++ late) event.demand →
          event.demand = .proceed → event.reply = .cancelled := by
        intro event hreply hproceed
        rw [hreply, hproceed]
        exact hstopped _ (List.prefix_append early late)
      cases hdemand : (world.course plan (moves + later)).1.demand plan with
      | none =>
          refine ⟨late, last, ?_, hwinding⟩
          rw [← Nat.add_assoc, world.course_succ_of_over hdemand, hnow]
      | some demand =>
          obtain ⟨event, next, hmove, hreply, hnext⟩ := world.course_succ hdemand
          rw [hnow] at hmove hreply hnext
          refine ⟨late ++ [event], next, ?_, hwinding.move hreaches hmove (hbegin event hreply)⟩
          rw [← Nat.add_assoc, hnext, List.append_assoc]

theorem exists_over_of_stopped {moves : Nat} (hcourse : world.course plan moves = (run, early))
    (hopen : run.result? = none)
    (hstopped : ∀ trace, early <+: trace → world.reply trace .proceed = .cancelled) :
    ∃ later result, (world.course plan (moves + later)).1.result? = some result := by
  have hless : ∀ now event next, moves ≤ now → Run.Move plan (world.course plan now).1 event next →
      event.reply = world.reply (world.course plan now).2 event.demand →
      next.movesLeft plan 0 < (world.course plan now).1.movesLeft plan 0 := by
    intro now event next hnow hmove hreply
    obtain ⟨later, rfl⟩ := Nat.exists_eq_add_of_le hnow
    obtain ⟨late, last, hlast, -⟩ := world.exists_winding hcourse hopen hstopped later
    apply hmove.movesLeft_lt
    intro progress tally hturning hgranted _
    -- Between two pages the sync can only be stopped, so none begins.
    have hdemand : event.demand = .proceed := by
      have hasks := hmove.demand_eq
      rw [hturning] at hasks
      exact (Option.some.inj hasks).symm
    rw [hreply, hdemand, hlast, hstopped _ (List.prefix_append early late)] at hgranted
    cases hgranted
  obtain ⟨now, result, hnow, hresult⟩ := world.exists_over (Run.movesLeft plan 0) moves hless
  obtain ⟨later, rfl⟩ := Nat.exists_eq_add_of_le hnow
  exact ⟨later, result, hresult⟩

end World

/-- However late the world tells a sync to stop, the sync ends, and only the page
that is open then is gone on with. A sync that ends without an error has
committed every page that was taken over. -/
theorem cancellation_is_bounded (world : World) (plan : Plan) :
    (∀ moves run early, world.course plan moves = (run, early) → run.result? = none →
      (∀ trace, early <+: trace → world.reply trace .proceed = .cancelled) →
      ∃ later late last result, world.course plan (moves + later) = (last, early ++ late) ∧
        last.result? = some result ∧ WindsDown plan early late ∧
        StopsAfter plan early late result) ∧
      ∀ moves run trace report, world.course plan moves = (run, trace) →
        run.result? = some (.ok report) → AllCommitted trace := by
  constructor
  · intro moves run early hcourse hopen hstopped
    have hrun := world.reaches_course plan moves
    rw [hcourse] at hrun
    obtain ⟨later, result, hresult⟩ := world.exists_over_of_stopped hcourse hopen hstopped
    obtain ⟨late, last, hlast, hwinding⟩ := world.exists_winding hcourse hopen hstopped later
    have hreaches := world.reaches_course plan (moves + later)
    rw [hlast] at hreaches hresult
    exact ⟨later, late, last, result, hlast, hresult, hwinding.windsDown hrun,
      hwinding.stopsAfter hrun hreaches hresult⟩
  · intro moves run trace report hcourse hresult
    have hsettles := (world.reaches_course plan moves).settles
    rw [hcourse] at hsettles
    cases run with
    | finished other => exact hsettles
    | _ => cases hresult

namespace Sample

def plan : Plan where
  connector := connector

/-- A world that tells the sync to stop while it waits to repeat its first
request. The wait goes on to its end all the same. -/
def stopsDuringRetry : World where
  reply trace demand :=
    match demand with
    | .load => .loaded (.ok none)
    | .proceed => if trace.length < 3 then .granted else .cancelled
    | .send _ _ =>
        .answered (if trace.length < 3 then .error (.timeout 3) else .ok (page "1" "a" true))
    | .wait _ => .elapsed
    | .accept _ => .accepted (.ok ())
    | .save _ => .saved (.ok ())
  fits trace demand := by
    cases demand with
    | proceed => by_cases h : trace.length < 3 <;> simp [Demand.Fits, h]
    | _ => trivial

end Sample

theorem open_page_is_committed :
    (∃ later late last result,
      Sample.stopsDuringRetry.course Sample.plan (3 + later) =
          (last, (Sample.stopsDuringRetry.course Sample.plan 3).2 ++ late) ∧
        last.result? = some result ∧
        WindsDown Sample.plan (Sample.stopsDuringRetry.course Sample.plan 3).2 late ∧
        StopsAfter Sample.plan (Sample.stopsDuringRetry.course Sample.plan 3).2 late result) ∧
      (Sample.stopsDuringRetry.course Sample.plan 8).1.result? =
          some (.ok ⟨.cancelled, some "a",
            { pages := 1, records := 1, attempts := 2, retries := 1 }⟩) ∧
      AllCommitted (Sample.stopsDuringRetry.course Sample.plan 8).2 := by
  have hstopped : ∀ trace : List Event,
      (Sample.stopsDuringRetry.course Sample.plan 3).2 <+: trace →
        Sample.stopsDuringRetry.reply trace .proceed = .cancelled := by
    intro trace htrace
    have hlength : 3 ≤ trace.length := htrace.length_le
    have hlate : ¬ trace.length < 3 := by omega
    simp [Sample.stopsDuringRetry, hlate]
  obtain ⟨hends, hcommitted⟩ := cancellation_is_bounded Sample.stopsDuringRetry Sample.plan
  exact ⟨hends 3 _ _ rfl rfl hstopped, rfl, hcommitted 8 _ _ _ rfl rfl⟩

end PageHarvest.Sync
