import PageHarvest.Proofs.Sync.Bounds
import PageHarvest.Sync.Check

/-!
A check is the first page of a sync that is not kept. Both ask for that page in
the same way, and what they make of it comes to the same: a check passes exactly
if a sync of one page is completed that begins at the beginning, that nobody stops,
and whose store and receiver never fail. The errors may differ, as the check finds
out how to go on before it looks for records, and the sync only after it has
handed them over.
-/

namespace PageHarvest.Sync

/-- What is asked for and answered to get the body of a page. -/
def Event.isFetch : Event → Bool
  | ⟨.send _ _, _⟩ | ⟨.wait _, _⟩ => true
  | _ => false

theorem Fetch.isFetch_of_demand {fetch : Fetch} {timeout : Nat} {event : Event}
    (hdemand : event.demand = fetch.demand timeout) : event.isFetch = true := by
  obtain ⟨demand, reply⟩ := event
  cases fetch <;> cases hdemand <;> rfl

theorem Fetch.step?_retried {policy : RetryPolicy} {e : Error} {attempt : Nat} (request : Request)
    (hretry : policy.shouldRetry e attempt = true) :
    (sending request attempt).step? policy (.answered (.error e)) =
      some (.ongoing (.waiting request attempt (policy.delayFor e attempt))) := by
  simp [step?, afterFailure, hretry]

theorem Fetch.step?_unanswered {policy : RetryPolicy} {e : Error} {attempt : Nat}
    (request : Request) (hretry : policy.shouldRetry e attempt = false) :
    (sending request attempt).step? policy (.answered (.error e)) = some (.failed e) := by
  simp [step?, afterFailure, hretry]

def fetches (trace : List Event) : List Event := trace.filter Event.isFetch

theorem fetches_concat (trace : List Event) {event : Event} (hfetch : event.isFetch = true) :
    fetches (trace ++ [event]) = fetches trace ++ [event] := by
  simp [fetches, hfetch]

theorem fetches_concat_other (trace : List Event) {event : Event}
    (hother : event.isFetch = false) : fetches (trace ++ [event]) = fetches trace := by
  simp [fetches, hother]

theorem sends_fetches (trace : List Event) : sends (fetches trace) = sends trace := by
  rw [sends, fetches, List.countP_filter]
  apply List.countP_congr
  rintro ⟨demand, reply⟩ -
  cases demand <;> simp [Event.isSend, Event.isFetch]

namespace World

def checkCourse (world : World) (plan : Plan) (moves : Nat) : Check × List Event :=
  converse (Check.demand plan) (Check.step? plan) world.reply? moves (.start plan) []

variable (world : World) {plan : Plan} {moves : Nat}

theorem checkCourse_succ_eq (plan : Plan) (moves : Nat) :
    world.checkCourse plan (moves + 1) =
      converse (Check.demand plan) (Check.step? plan) world.reply? 1
        (world.checkCourse plan moves).1 (world.checkCourse plan moves).2 := by
  apply world.converse_succ
  intro check demand reply hdemand hfits
  cases check with
  | fetching fetch =>
      cases hdemand
      simpa [Check.step?] using (fetch.step?_isSome_iff plan.retry _ reply).mpr hfits
  | passed => cases hdemand
  | failed cause => cases hdemand

theorem checkCourse_succ {fetch : Fetch} {step : FetchStep} (event : Event)
    (hfetching : (world.checkCourse plan moves).1 = .fetching fetch)
    (hdemand : event.demand = fetch.demand plan.connector.timeout)
    (hreply : event.reply = world.reply (world.checkCourse plan moves).2 event.demand)
    (hstep : fetch.step? plan.retry event.reply = some step) :
    world.checkCourse plan (moves + 1) =
      (Check.fetched plan step, (world.checkCourse plan moves).2 ++ [event]) := by
  obtain ⟨demand, reply⟩ := event
  dsimp only at hdemand hreply hstep
  subst hdemand hreply
  simp [checkCourse_succ_eq, hfetching, converse, Check.demand, Check.step?, reply?, hstep]

theorem checkCourse_succ_of_over
    (hdemand : (world.checkCourse plan moves).1.demand plan = none) :
    world.checkCourse plan (moves + 1) = world.checkCourse plan moves := by
  simp [checkCourse_succ_eq, converse, hdemand]

theorem checkCourse_of_over {later : Nat}
    (hdemand : (world.checkCourse plan moves).1.demand plan = none) (hlater : moves ≤ later) :
    world.checkCourse plan later = world.checkCourse plan moves := by
  obtain ⟨more, rfl⟩ := Nat.exists_eq_add_of_le hlater
  induction more with
  | zero => rfl
  | succ more ih =>
      have hsame := ih (Nat.le_add_right moves more)
      rw [← hsame] at hdemand
      rw [← Nat.add_assoc, world.checkCourse_succ_of_over hdemand, hsame]

theorem checkCourse_eq_of_over {other : Nat}
    (hdemand : (world.checkCourse plan moves).1.demand plan = none)
    (hother : (world.checkCourse plan other).1.demand plan = none) :
    world.checkCourse plan moves = world.checkCourse plan other := by
  rcases Nat.le_total moves other with hle | hle
  · exact (world.checkCourse_of_over hdemand hle).symm
  · exact world.checkCourse_of_over hother hle

/-- A check does nothing but fetch. -/
theorem isFetch_of_mem_checkCourse (plan : Plan) (moves : Nat) :
    ∀ event ∈ (world.checkCourse plan moves).2, event.isFetch = true := by
  induction moves with
  | zero => simp [checkCourse, converse]
  | succ moves ih =>
      cases hcheck : (world.checkCourse plan moves).1 with
      | passed => rwa [world.checkCourse_succ_of_over (by rw [hcheck]; rfl)]
      | failed cause => rwa [world.checkCourse_succ_of_over (by rw [hcheck]; rfl)]
      | fetching fetch =>
          have hfits := world.fits (world.checkCourse plan moves).2
            (fetch.demand plan.connector.timeout)
          have hsome := (fetch.step?_isSome_iff plan.retry _ _).mpr hfits
          obtain ⟨step, hstep⟩ := Option.isSome_iff_exists.mp hsome
          rw [world.checkCourse_succ ⟨_, _⟩ hcheck rfl rfl hstep]
          intro event hevent
          rcases List.mem_append.mp hevent with hearlier | hlast
          · exact ih event hearlier
          · rw [List.mem_singleton.mp hlast]
            exact Fetch.isFetch_of_demand rfl

/-- A world in which only the server can fail: nothing is stored in it, nobody
stops the sync, and store and receiver do what they are asked to do. The server
gives one answer after the other. -/
def calm (answers : Nat → Except Error Json) : World where
  reply trace demand :=
    match demand with
    | .load => .loaded (.ok none)
    | .proceed => .granted
    | .send _ _ => .answered (answers (sends trace))
    | .wait _ => .elapsed
    | .accept _ => .accepted (.ok ())
    | .save _ => .saved (.ok ())
  fits _ demand := by cases demand <;> trivial

/-- The answers in a calm world depend on nothing but what was fetched. -/
theorem calm_reply_fetches (answers : Nat → Except Error Json) (trace : List Event)
    (demand : Demand) :
    (calm answers).reply (fetches trace) demand = (calm answers).reply trace demand := by
  cases demand with
  | send request timeout => simp only [calm, sends_fetches]
  | _ => rfl

/-- The check has come this far when it has seen just what a trace fetched. -/
def ChecksTo (world : World) (plan : Plan) (trace : List Event) (check : Check) : Prop :=
  ∃ moves, world.checkCourse plan moves = (check, fetches trace)

namespace ChecksTo

variable {world : World} {plan : Plan} {answers : Nat → Except Error Json} {trace : List Event}
  {event : Event} {check : Check}

theorem start (world : World) (plan : Plan) : world.ChecksTo plan [] (.start plan) := ⟨0, rfl⟩

theorem concat_other (h : world.ChecksTo plan trace check) (hother : event.isFetch = false) :
    world.ChecksTo plan (trace ++ [event]) check := by
  rw [ChecksTo, fetches_concat_other trace hother]
  exact h

theorem concat {fetch : Fetch} {step : FetchStep}
    (h : (calm answers).ChecksTo plan trace (.fetching fetch))
    (hdemand : event.demand = fetch.demand plan.connector.timeout)
    (hreply : event.reply = (calm answers).reply trace event.demand)
    (hstep : fetch.step? plan.retry event.reply = some step) :
    (calm answers).ChecksTo plan (trace ++ [event]) (Check.fetched plan step) := by
  obtain ⟨moves, hmoves⟩ := h
  have hfetch : event.isFetch = true := Fetch.isFetch_of_demand hdemand
  refine ⟨moves + 1, ?_⟩
  rw [(calm answers).checkCourse_succ event (by rw [hmoves]) hdemand
    (by rw [hmoves, hreply, calm_reply_fetches]) hstep, hmoves, fetches_concat trace hfetch]

theorem of_not_ok {result : Except Error Unit} (h : world.ChecksTo plan trace (.ofResult result))
    (hresult : result ≠ .ok ()) : ∃ e, world.ChecksTo plan trace (.failed e) := by
  cases result with
  | ok _ => exact absurd rfl hresult
  | error e => exact ⟨e, h⟩

end ChecksTo

end World

def Plan.firstPage (plan : Plan) : Plan := { plan with maxPages := some 1 }

theorem Plan.isEnough_firstPage (plan : Plan) (pages : Nat) :
    plan.firstPage.isEnough pages = decide (1 ≤ pages) := rfl

namespace Check

variable {plan : Plan} {body : Json}

/-- A page passes if all its paths can be extracted and it says how to go on. -/
theorem judge_eq_ok_iff (hbody : Response.checkErrors body = .ok ()) :
    judge plan body = .ok () ↔
      (plan.extract (Response.dataRoot body)).failures = [] ∧
        ∃ verdict next, plan.connector.pagination.next (Response.dataRoot body) progress =
          .ok (verdict, next) := by
  cases hnext : plan.connector.pagination.next (Response.dataRoot body) progress with
  | error e => simp [judge, hbody, hnext, bind, Except.bind]
  | ok step =>
      obtain ⟨verdict, next⟩ := step
      cases hfailures : (plan.extract (Response.dataRoot body)).failures with
      | nil => simp [judge, hbody, hnext, hfailures, Extraction.toResult, bind, Except.bind, pure,
          Except.pure]
      | cons failure rest =>
          simp [judge, hbody, hnext, hfailures, Extraction.toResult, bind, Except.bind]

theorem demand_of_result? {check : Check} {verdict : Except Error Unit}
    (h : check.result? = some verdict) : check.demand plan = none := by
  cases check with
  | fetching fetch => cases h
  | passed => rfl
  | failed cause => rfl

theorem start_of_request {request : Request} (h : plan.request progress = .ok request) :
    start plan = .fetching (.start request) := by
  simp [start, h]

theorem start_of_request_error {e : Error} (h : plan.request progress = .error e) :
    start plan = .failed e := by
  simp [start, h]

end Check

namespace Run

variable {plan : Plan} {answers : Nat → Except Error Json} {run next : Run} {trace : List Event}
  {event : Event}

/-- How far the check has come that saw the same answers, by the state of a sync
of one page. It knows already whether the page passes when its records are handed
over. -/
def Abreast (world : World) (plan : Plan) (trace : List Event) : Run → Prop
  | .loading => world.ChecksTo plan trace (.start plan)
  | .turning progress tally =>
      (tally.pages = 0 ∧ progress = Check.progress ∧ world.ChecksTo plan trace (.start plan)) ∨
        (tally.pages = 1 ∧ world.ChecksTo plan trace .passed)
  | .fetching progress tally fetch =>
      tally.pages = 0 ∧ progress = Check.progress ∧ world.ChecksTo plan trace (.fetching fetch)
  | .delivering progress tally data found =>
      tally.pages = 1 ∧ progress = Check.progress ∧
        ∃ body, Response.checkErrors body = .ok () ∧ data = Response.dataRoot body ∧
          found = plan.extract data ∧ world.ChecksTo plan trace (.ofResult (Check.judge plan body))
  | .committing _ _ tally => tally.pages = 1 ∧ world.ChecksTo plan trace .passed
  | .finished report => report.status = .completed ∧ world.ChecksTo plan trace .passed
  | .aborted _ _ => ∃ e, world.ChecksTo plan trace (.failed e)

theorem Abreast.move (h : run.Abreast (World.calm answers) plan trace)
    (hmove : Move plan.firstPage run event next)
    (hreply : event.reply = (World.calm answers).reply trace event.demand) :
    next.Abreast (World.calm answers) plan (trace ++ [event]) := by
  cases hmove with
  | loaded cursor =>
      cases hreply
      exact .inl ⟨rfl, rfl, World.ChecksTo.concat_other h rfl⟩
  | loadFailed | stopped | undelivered | unsaved => cases hreply
  | interrupted progress tally fetch => cases fetch <;> cases hreply
  | capped progress tally henough =>
      rcases h with ⟨hpages, -, -⟩ | ⟨-, hpassed⟩
      · simp [Plan.isEnough_firstPage, hpages] at henough
      · exact ⟨rfl, hpassed.concat_other rfl⟩
  | unasked progress tally e hmore hrequest =>
      rcases h with ⟨-, rfl, hstart⟩ | ⟨hpages, -⟩
      · have hfailed : Check.start plan = .failed e := Check.start_of_request_error hrequest
        rw [hfailed] at hstart
        exact ⟨e, hstart.concat_other rfl⟩
      · simp [Plan.isEnough_firstPage, hpages] at hmore
  | asked progress tally request hmore hrequest =>
      rcases h with ⟨hpages, rfl, hstart⟩ | ⟨hpages, -⟩
      · have hfetching : Check.start plan = .fetching (.start request) :=
          Check.start_of_request hrequest
        rw [hfetching] at hstart
        exact ⟨hpages, rfl, hstart.concat_other rfl⟩
      · simp [Plan.isEnough_firstPage, hpages] at hmore
  | retrying progress tally request attempt e hretry =>
      obtain ⟨hpages, hprogress, hfetching⟩ := h
      have hstep := Fetch.step?_retried request hretry
      exact ⟨hpages, hprogress, hfetching.concat rfl hreply hstep⟩
  | unanswered progress tally request attempt e hretry =>
      have hstep := Fetch.step?_unanswered request hretry
      exact ⟨e, h.2.2.concat rfl hreply hstep⟩
  | retried progress tally request attempt delay =>
      obtain ⟨hpages, hprogress, hfetching⟩ := h
      exact ⟨hpages, hprogress, hfetching.concat rfl hreply rfl⟩
  | refused progress tally request attempt body e hbody =>
      have hchecked := h.2.2.concat rfl hreply rfl
      have hjudge : Check.judge plan body = .error e := by
        simp [Check.judge, hbody, bind, Except.bind]
      refine ⟨e, ?_⟩
      simpa [Check.fetched, hjudge, Check.ofResult] using hchecked
  | received progress tally request attempt body hbody =>
      obtain ⟨hpages, hprogress, hfetching⟩ := h
      exact ⟨by simp [Tally.addPage, Tally.addFetch, hpages], hprogress, body, hbody, rfl, rfl,
        hfetching.concat rfl hreply rfl⟩
  | unextracted progress tally data found failure hfailure =>
      obtain ⟨-, -, body, hbody, rfl, rfl, hchecked⟩ := h
      -- The check may have failed with another error, as it reads the page info first.
      have hjudge : Check.judge plan body ≠ .ok () := by
        intro hok
        have hfound := ((Check.judge_eq_ok_iff hbody).mp hok).1
        rw [hfound] at hfailure
        cases hfailure
      exact (hchecked.concat_other rfl).of_not_ok hjudge
  | unpaged progress tally data found e hfound hnext =>
      obtain ⟨-, rfl, body, hbody, rfl, rfl, hchecked⟩ := h
      have hjudge : Check.judge plan body ≠ .ok () := by
        intro hok
        obtain ⟨-, verdict, next, hturns⟩ := (Check.judge_eq_ok_iff hbody).mp hok
        cases hnext.symm.trans hturns
      exact (hchecked.concat_other rfl).of_not_ok hjudge
  | delivered progress tally data found verdict next hfound hnext =>
      obtain ⟨hpages, rfl, body, hbody, rfl, rfl, hchecked⟩ := h
      have hjudge := (Check.judge_eq_ok_iff hbody).mpr ⟨hfound, verdict, next, hnext⟩
      rw [hjudge] at hchecked
      exact ⟨hpages, hchecked.concat_other rfl⟩
  | turned progress next tally hmore => exact .inr ⟨h.1, h.2.concat_other rfl⟩
  | completed progress next tally hmore => exact ⟨rfl, h.2.concat_other rfl⟩

end Run

namespace World

variable (plan : Plan) (answers : Nat → Except Error Json)

theorem abreast_course (moves : Nat) :
    ((calm answers).course plan.firstPage moves).1.Abreast (calm answers) plan
      ((calm answers).course plan.firstPage moves).2 := by
  apply (calm answers).course_invariant fun trace run => run.Abreast (calm answers) plan trace
  · exact ChecksTo.start (calm answers) plan
  · intro trace run event next habreast hmove hreply
    exact habreast.move hmove hreply

theorem exists_over_of_firstPage (world : World) :
    ∃ moves result, (world.course plan.firstPage moves).1.result? = some result := by
  have hless : ∀ moves event next, 0 ≤ moves →
      Run.Move plan.firstPage (world.course plan.firstPage moves).1 event next →
      event.reply = world.reply (world.course plan.firstPage moves).2 event.demand →
      next.movesLeft plan.firstPage 1 <
        (world.course plan.firstPage moves).1.movesLeft plan.firstPage 1 := by
    intro moves event next _ hmove _
    apply hmove.movesLeft_lt
    intro progress tally _ _ hmore
    simpa [Plan.isEnough_firstPage] using hmore
  obtain ⟨moves, result, -, hresult⟩ :=
    world.exists_over (Run.movesLeft plan.firstPage 1) 0 hless
  exact ⟨moves, result, hresult⟩

end World

theorem Run.Abreast.agrees {plan : Plan} {world : World} {run : Run} {trace : List Event}
    {result : Except Error Report} (h : run.Abreast world plan trace)
    (hresult : run.result? = some result) :
    ∃ moves verdict, (world.checkCourse plan moves).1.result? = some verdict ∧
      (verdict = .ok () ↔ ∃ report, result = .ok report ∧ report.status = .completed) ∧
      (world.checkCourse plan moves).2 = fetches trace := by
  cases run with
  | finished report =>
      obtain ⟨hstatus, moves, hmoves⟩ := h
      cases hresult
      refine ⟨moves, .ok (), ?_, ?_, ?_⟩
      · rw [hmoves]
        rfl
      · simp [hstatus]
      · rw [hmoves]
  | aborted lastCursor cause =>
      obtain ⟨e, moves, hmoves⟩ := h
      cases hresult
      refine ⟨moves, .error e, ?_, ?_, ?_⟩
      · rw [hmoves]
        rfl
      · simp
      · rw [hmoves]
  | _ => cases hresult

/-- In a calm world a check and a sync of one page both come to an end. The check
passes exactly if the sync is completed, and both send the same requests one after
the other. In any world, all that a check does is to fetch. -/
theorem check_agrees_with_first_page (plan : Plan) (answers : Nat → Except Error Json) :
    (∃ checked verdict,
        ((World.calm answers).checkCourse plan checked).1.result? = some verdict) ∧
      (∃ moves result,
        ((World.calm answers).course plan.firstPage moves).1.result? = some result) ∧
      (∀ checked verdict moves result,
        ((World.calm answers).checkCourse plan checked).1.result? = some verdict →
        ((World.calm answers).course plan.firstPage moves).1.result? = some result →
        (verdict = .ok () ↔ ∃ report, result = .ok report ∧ report.status = .completed) ∧
          ((World.calm answers).checkCourse plan checked).2 =
            fetches ((World.calm answers).course plan.firstPage moves).2) ∧
      ∀ (world : World) moves, ∀ event ∈ (world.checkCourse plan moves).2,
        event.isFetch = true := by
  have hends := World.exists_over_of_firstPage plan (World.calm answers)
  refine ⟨?_, hends, ?_, fun world moves => world.isFetch_of_mem_checkCourse plan moves⟩
  · obtain ⟨moves, result, hresult⟩ := hends
    have habreast := World.abreast_course plan answers moves
    obtain ⟨checked, verdict, hverdict, -⟩ := habreast.agrees hresult
    exact ⟨checked, verdict, hverdict⟩
  · intro checked verdict moves result hverdict hresult
    have habreast := World.abreast_course plan answers moves
    obtain ⟨other, same, hother, hagree⟩ := habreast.agrees hresult
    have hcourse := (World.calm answers).checkCourse_eq_of_over
      (Check.demand_of_result? hverdict) (Check.demand_of_result? hother)
    rw [hcourse] at hverdict ⊢
    rw [hother] at hverdict
    cases hverdict
    exact hagree

/-- The server is busy once and then gives a page that another one follows. -/
def Sample.busyAtFirst : Nat → Except Error Json
  | 0 => .error (.timeout 3)
  | _ => .ok (page "1" "a" true)

theorem check_retries_like_first_page :
    ((World.calm Sample.busyAtFirst).checkCourse { connector := Sample.connector } 3).1.result? =
        some (.ok ()) ∧
      ((World.calm Sample.busyAtFirst).checkCourse { connector := Sample.connector } 3).2 =
        fetches ((World.calm Sample.busyAtFirst).course
          (Plan.firstPage { connector := Sample.connector }) 8).2 := by
  have hcheck : ((World.calm Sample.busyAtFirst).checkCourse
      { connector := Sample.connector } 3).1.result? = some (.ok ()) := by rfl
  have hsync : ((World.calm Sample.busyAtFirst).course
      (Plan.firstPage { connector := Sample.connector }) 8).1.result? =
        some (.ok ⟨.completed, some "a",
          { pages := 1, records := 1, attempts := 2, retries := 1 }⟩) := by rfl
  obtain ⟨-, -, hagrees, -⟩ :=
    check_agrees_with_first_page { connector := Sample.connector } Sample.busyAtFirst
  exact ⟨hcheck, (hagrees 3 _ 8 _ hcheck hsync).2⟩

/-- A page with a malformed element and without page info. -/
def Sample.poorPage : Json :=
  .object [("users", .object [("nodes", .array [.null])])]

example :
    ((World.calm fun _ => .ok Sample.poorPage).checkCourse
        { connector := Sample.connector } 1).1.result? =
          some (.error (.malformedPageInfo "users" "pageInfo is missing")) ∧
      ((World.calm fun _ => .ok Sample.poorPage).course
        (Plan.firstPage { connector := Sample.connector }) 4).1.result? =
          some (.error (.aborted none (.malformedElement "users.nodes" 0))) := by
  constructor <;> rfl

end PageHarvest.Sync
