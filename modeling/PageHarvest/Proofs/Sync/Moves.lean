import Mathlib.Data.List.Induction
import PageHarvest.Sync.Run

/-!
The moves of a sync. A demand and its reply take a sync from one state to the
next, and every such move is listed here with what it depends on. What holds
before the first reply and is kept by every move holds after any replies, in
whatever order they come and wherever they stop.
-/

namespace PageHarvest.Sync.Run

/-- One move of a sync: the state before it, what was asked and answered, and
the state after it. -/
inductive Move (plan : Plan) : Run → Event → Run → Prop where
  | loaded (cursor : Option String) :
      Move plan .loading ⟨.load, .loaded (.ok cursor)⟩ (.turning (.startingAt cursor) {})
  | loadFailed (e : Error) :
      Move plan .loading ⟨.load, .loaded (.error e)⟩ (.aborted none e)
  /-- The sync is told to stop between two pages. -/
  | stopped (progress : Progress) (tally : Tally) :
      Move plan (.turning progress tally) ⟨.proceed, .cancelled⟩
        (.finished ⟨.cancelled, progress.cursor, tally⟩)
  | capped (progress : Progress) (tally : Tally) (henough : plan.isEnough tally.pages = true) :
      Move plan (.turning progress tally) ⟨.proceed, .granted⟩
        (.finished ⟨.completed, progress.cursor, tally⟩)
  | unasked (progress : Progress) (tally : Tally) (e : Error)
      (hmore : plan.isEnough tally.pages = false) (hrequest : plan.request progress = .error e) :
      Move plan (.turning progress tally) ⟨.proceed, .granted⟩ (.aborted progress.cursor e)
  | asked (progress : Progress) (tally : Tally) (request : Request)
      (hmore : plan.isEnough tally.pages = false) (hrequest : plan.request progress = .ok request) :
      Move plan (.turning progress tally) ⟨.proceed, .granted⟩
        (.fetching progress tally (.start request))
  /-- The sync is told to stop during an attempt or before the next one. -/
  | interrupted (progress : Progress) (tally : Tally) (fetch : Fetch) :
      Move plan (.fetching progress tally fetch)
        ⟨fetch.demand plan.connector.timeout, .cancelled⟩
        (.finished ⟨.cancelled, progress.cursor, tally.addFetch fetch⟩)
  | retrying (progress : Progress) (tally : Tally) (request : Request) (attempt : Nat) (e : Error)
      (hretry : plan.retry.shouldRetry e attempt = true) :
      Move plan (.fetching progress tally (.sending request attempt))
        ⟨.send request plan.connector.timeout, .answered (.error e)⟩
        (.fetching progress tally (.waiting request attempt (plan.retry.delayFor e attempt)))
  | unanswered (progress : Progress) (tally : Tally) (request : Request) (attempt : Nat)
      (e : Error) (hretry : plan.retry.shouldRetry e attempt = false) :
      Move plan (.fetching progress tally (.sending request attempt))
        ⟨.send request plan.connector.timeout, .answered (.error e)⟩ (.aborted progress.cursor e)
  | retried (progress : Progress) (tally : Tally) (request : Request) (attempt : Nat)
      (delay : Duration) :
      Move plan (.fetching progress tally (.waiting request attempt delay))
        ⟨.wait delay, .elapsed⟩ (.fetching progress tally (.sending request (attempt + 1)))
  | refused (progress : Progress) (tally : Tally) (request : Request) (attempt : Nat) (body : Json)
      (e : Error) (hbody : Response.checkErrors body = .error e) :
      Move plan (.fetching progress tally (.sending request attempt))
        ⟨.send request plan.connector.timeout, .answered (.ok body)⟩ (.aborted progress.cursor e)
  | received (progress : Progress) (tally : Tally) (request : Request) (attempt : Nat)
      (body : Json) (hbody : Response.checkErrors body = .ok ()) :
      Move plan (.fetching progress tally (.sending request attempt))
        ⟨.send request plan.connector.timeout, .answered (.ok body)⟩
        (.delivering progress (tally.addFetch (.sending request attempt)).addPage
          (Response.dataRoot body) (plan.extract (Response.dataRoot body)))
  | undelivered (progress : Progress) (tally : Tally) (data : Json) (found : Extraction)
      (e : Error) :
      Move plan (.delivering progress tally data found)
        ⟨.accept found.records, .accepted (.error e)⟩ (.aborted progress.cursor e)
  /-- The records were taken over, but a path failed. -/
  | unextracted (progress : Progress) (tally : Tally) (data : Json) (found : Extraction)
      (failure : Error) (hfailure : found.failures.head? = some failure) :
      Move plan (.delivering progress tally data found)
        ⟨.accept found.records, .accepted (.ok ())⟩ (.aborted progress.cursor failure)
  /-- The records were taken over, but the page does not say how to go on. -/
  | unpaged (progress : Progress) (tally : Tally) (data : Json) (found : Extraction) (e : Error)
      (hfound : found.failures = [])
      (hnext : plan.connector.pagination.next data progress = .error e) :
      Move plan (.delivering progress tally data found)
        ⟨.accept found.records, .accepted (.ok ())⟩ (.aborted progress.cursor e)
  | delivered (progress : Progress) (tally : Tally) (data : Json) (found : Extraction)
      (verdict : NextPage) (next : Progress) (hfound : found.failures = [])
      (hnext : plan.connector.pagination.next data progress = .ok (verdict, next)) :
      Move plan (.delivering progress tally data found)
        ⟨.accept found.records, .accepted (.ok ())⟩
        (.committing progress next (tally.addRecords found.records.length))
  | unsaved (progress next : Progress) (tally : Tally) (e : Error) :
      Move plan (.committing progress next tally) ⟨.save next.cursor, .saved (.error e)⟩
        (.aborted progress.cursor e)
  | turned (progress next : Progress) (tally : Tally) (hmore : next.hasMore = true) :
      Move plan (.committing progress next tally) ⟨.save next.cursor, .saved (.ok ())⟩
        (.turning next tally)
  | completed (progress next : Progress) (tally : Tally) (hmore : next.hasMore = false) :
      Move plan (.committing progress next tally) ⟨.save next.cursor, .saved (.ok ())⟩
        (.finished ⟨.completed, next.cursor, tally⟩)

variable {plan : Plan} {run next : Run}

theorem Move.demand_eq {event : Event} (h : Move plan run event next) :
    run.demand plan = some event.demand := by
  cases h <;> rfl

theorem Move.step?_eq {event : Event} (h : Move plan run event next) :
    run.step? plan event.reply = some next := by
  cases h with
  | capped progress tally henough => simp [step?, beginPage, henough]
  | unasked progress tally e hmore hrequest => simp [step?, beginPage, hmore, hrequest]
  | asked progress tally request hmore hrequest => simp [step?, beginPage, hmore, hrequest]
  | interrupted progress tally fetch => cases fetch <;> rfl
  | retrying progress tally request attempt e hretry =>
      simp [step?, Fetch.step?, Fetch.afterFailure, hretry, Run.fetched]
  | unanswered progress tally request attempt e hretry =>
      simp [step?, Fetch.step?, Fetch.afterFailure, hretry, Run.fetched]
  | refused progress tally request attempt body e hbody =>
      simp [step?, Fetch.step?, Run.fetched, Run.receive, hbody]
  | received progress tally request attempt body hbody =>
      simp [step?, Fetch.step?, Run.fetched, Run.receive, hbody]
  | unextracted progress tally data found failure hfailure =>
      obtain ⟨rest, hrest⟩ := List.head?_eq_some_iff.mp hfailure
      simp [step?, Run.delivered, hrest]
  | unpaged progress tally data found e hfound hnext =>
      simp [step?, Run.delivered, hfound, hnext]
  | delivered progress tally data found verdict next hfound hnext =>
      simp [step?, Run.delivered, hfound, hnext]
  | turned progress next tally hmore => simp [step?, committed, hmore]
  | completed progress next tally hmore => simp [step?, committed, hmore]
  | _ => rfl

/-- A page begins with an attempt unless enough pages were read or the request
cannot be formed. -/
theorem move_beginPage (progress : Progress) (tally : Tally) :
    Move plan (.turning progress tally) ⟨.proceed, .granted⟩ (beginPage plan progress tally) := by
  cases henough : plan.isEnough tally.pages with
  | true => simpa [beginPage, henough] using Move.capped progress tally henough
  | false =>
      cases hrequest : plan.request progress with
      | error e =>
          simpa [beginPage, henough, hrequest] using
            Move.unasked progress tally e henough hrequest
      | ok request =>
          simpa [beginPage, henough, hrequest] using
            Move.asked progress tally request henough hrequest

theorem move_receive (progress : Progress) (tally : Tally) (request : Request) (attempt : Nat)
    (body : Json) :
    Move plan (.fetching progress tally (.sending request attempt))
      ⟨.send request plan.connector.timeout, .answered (.ok body)⟩
      (receive plan progress (tally.addFetch (.sending request attempt)).addPage body) := by
  cases hbody : Response.checkErrors body with
  | error e => simpa [receive, hbody] using Move.refused progress tally request attempt body e hbody
  | ok _ => simpa [receive, hbody] using Move.received progress tally request attempt body hbody

theorem move_afterFailure (progress : Progress) (tally : Tally) (request : Request) (attempt : Nat)
    (e : Error) :
    Move plan (.fetching progress tally (.sending request attempt))
      ⟨.send request plan.connector.timeout, .answered (.error e)⟩
      (fetched plan progress tally (.sending request attempt)
        (Fetch.afterFailure plan.retry request attempt e)) := by
  cases hretry : plan.retry.shouldRetry e attempt with
  | true =>
      simpa [Fetch.afterFailure, fetched, hretry] using
        Move.retrying progress tally request attempt e hretry
  | false =>
      simpa [Fetch.afterFailure, fetched, hretry] using
        Move.unanswered progress tally request attempt e hretry

theorem move_delivered (progress : Progress) (tally : Tally) (data : Json) (found : Extraction) :
    Move plan (.delivering progress tally data found)
      ⟨.accept found.records, .accepted (.ok ())⟩
      (Run.delivered plan progress tally data found) := by
  cases hfound : found.failures with
  | cons failure rest =>
      have hmove : Move plan _ _ _ :=
        .unextracted progress tally data found failure (by simp [hfound])
      simpa [Run.delivered, hfound] using hmove
  | nil =>
      cases hnext : plan.connector.pagination.next data progress with
      | error e =>
          simpa [Run.delivered, hfound, hnext] using
            Move.unpaged progress tally data found e hfound hnext
      | ok step =>
          obtain ⟨verdict, next⟩ := step
          simpa [Run.delivered, hfound, hnext] using
            Move.delivered progress tally data found verdict next hfound hnext

theorem move_committed (progress next : Progress) (tally : Tally) :
    Move plan (.committing progress next tally) ⟨.save next.cursor, .saved (.ok ())⟩
      (committed next tally) := by
  cases hmore : next.hasMore with
  | true =>
      have hmove : Move plan _ _ _ := .turned progress next tally hmore
      simpa [committed, hmore] using hmove
  | false =>
      have hmove : Move plan _ _ _ := .completed progress next tally hmore
      simpa [committed, hmore] using hmove

theorem demand_of_step? {reply : Reply} (hstep : run.step? plan reply = some next) :
    ∃ demand, run.demand plan = some demand := by
  cases run with
  | finished report => cases hstep
  | aborted lastCursor cause => cases hstep
  | _ => exact ⟨_, rfl⟩

/-- The moves are all that can happen: a fitting reply to what is asked for is
one of them. -/
theorem move_of_step? {demand : Demand} {reply : Reply} (hdemand : run.demand plan = some demand)
    (hstep : run.step? plan reply = some next) : Move plan run ⟨demand, reply⟩ next := by
  cases run with
  | finished report => cases hdemand
  | aborted lastCursor cause => cases hdemand
  | loading =>
      cases hdemand
      cases reply with
      | loaded result =>
          cases result with
          | ok cursor =>
              cases hstep
              exact .loaded cursor
          | error e =>
              cases hstep
              exact .loadFailed e
      | _ => cases hstep
  | turning progress tally =>
      cases hdemand
      cases reply with
      | granted =>
          cases hstep
          exact move_beginPage progress tally
      | cancelled =>
          cases hstep
          exact .stopped progress tally
      | _ => cases hstep
  | fetching progress tally fetch =>
      cases hdemand
      cases fetch with
      | sending request attempt =>
          cases reply with
          | cancelled =>
              cases hstep
              exact .interrupted progress tally _
          | answered result =>
              cases result with
              | ok body =>
                  cases hstep
                  exact move_receive progress tally request attempt body
              | error e =>
                  cases hstep
                  exact move_afterFailure progress tally request attempt e
          | _ => cases hstep
      | waiting request attempt delay =>
          cases reply with
          | cancelled =>
              cases hstep
              exact .interrupted progress tally _
          | elapsed =>
              cases hstep
              exact .retried progress tally request attempt delay
          | answered result => cases result <;> cases hstep
          | _ => cases hstep
  | delivering progress tally data found =>
      cases hdemand
      cases reply with
      | accepted result =>
          cases result with
          | ok _ =>
              cases hstep
              exact move_delivered progress tally data found
          | error e =>
              cases hstep
              exact .undelivered progress tally data found e
      | _ => cases hstep
  | committing progress after tally =>
      cases hdemand
      cases reply with
      | saved result =>
          cases result with
          | ok _ =>
              cases hstep
              exact move_committed progress after tally
          | error e =>
              cases hstep
              exact .unsaved progress after tally e
      | _ => cases hstep

theorem move_iff {event : Event} :
    Move plan run event next ↔
      run.demand plan = some event.demand ∧ run.step? plan event.reply = some next :=
  ⟨fun h => ⟨h.demand_eq, h.step?_eq⟩, fun ⟨hdemand, hstep⟩ => move_of_step? hdemand hstep⟩

/-- A trace together with the state that it leads to from the very beginning. -/
inductive Reaches (plan : Plan) : List Event → Run → Prop where
  | start : Reaches plan [] .loading
  | move {trace : List Event} {run next : Run} {event : Event} (hreaches : Reaches plan trace run)
      (hmove : Move plan run event next) : Reaches plan (trace ++ [event]) next

/-- What a sync hears from any state that it can be in, it could have heard from
the beginning. -/
theorem Reaches.append_events {trace : List Event} (h : Reaches plan trace run)
    (replies : List Reply) :
    ∃ last, Reaches plan (trace ++ run.events plan replies) last ∧
      ∀ result, run.feed? plan replies = some result → last = result := by
  induction replies generalizing trace run with
  | nil =>
      refine ⟨run, by simpa [events] using h, ?_⟩
      intro result hresult
      simpa [feed?] using hresult
  | cons reply rest ih =>
      cases hstep : run.step? plan reply with
      | none =>
          refine ⟨run, ?_, ?_⟩
          · cases hdemand : run.demand plan <;> simpa [events, hdemand, hstep] using h
          · intro result hresult
            simp [feed?, hstep] at hresult
      | some next =>
          obtain ⟨demand, hdemand⟩ := demand_of_step? hstep
          have hmove : Move plan run ⟨demand, reply⟩ next := move_of_step? hdemand hstep
          obtain ⟨last, hlast, hfeed⟩ := ih (h.move hmove)
          refine ⟨last, ?_, ?_⟩
          · simpa [events, hdemand, hstep] using hlast
          · intro result hresult
            exact hfeed result (by simpa [feed?, hstep] using hresult)

/-- Every trace of a sync leads to a state, however the replies go on. -/
theorem reaches_events (plan : Plan) (replies : List Reply) :
    ∃ run, Reaches plan (Run.loading.events plan replies) run := by
  obtain ⟨run, hrun, _⟩ := (Reaches.start : Reaches plan [] .loading).append_events replies
  exact ⟨run, by simpa using hrun⟩

theorem reaches_of_feed? {replies : List Reply} (h : Run.loading.feed? plan replies = some run) :
    Reaches plan (Run.loading.events plan replies) run := by
  obtain ⟨last, hlast, hfeed⟩ := (Reaches.start : Reaches plan [] .loading).append_events replies
  have hrun : last = run := hfeed run h
  subst hrun
  simpa using hlast

/-- The events of replies in two parts, the first of which all fit. -/
theorem events_append {front back : List Reply} (h : run.feed? plan front = some next) :
    run.events plan (front ++ back) = run.events plan front ++ next.events plan back := by
  induction front generalizing run with
  | nil =>
      have hrun : run = next := by simpa [feed?] using h
      simp [events, hrun]
  | cons reply rest ih =>
      cases hstep : run.step? plan reply with
      | none => simp [feed?, hstep] at h
      | some middle =>
          obtain ⟨demand, hdemand⟩ := demand_of_step? hstep
          have hrest : middle.feed? plan rest = some next := by simpa [feed?, hstep] using h
          simp [events, hdemand, hstep, ih hrest]

/-- A trace is what a sync shows that hears the replies in it. -/
theorem Reaches.hears {trace : List Event} (h : Reaches plan trace run) :
    Run.loading.feed? plan (trace.map Event.reply) = some run ∧
      Run.loading.events plan (trace.map Event.reply) = trace := by
  induction h with
  | start => exact ⟨rfl, rfl⟩
  | @move trace run next event _ hmove ih =>
      obtain ⟨hfeed, hevents⟩ := ih
      obtain ⟨hdemand, hstep⟩ := move_iff.mp hmove
      rw [List.map_append, feed?_append, events_append hfeed, hfeed, hevents]
      refine ⟨?_, ?_⟩
      · simp [feed?, hstep]
      · simp [events, hdemand, hstep]

theorem Reaches.last_move {trace : List Event} {event : Event}
    (h : Reaches plan (trace ++ [event]) next) :
    ∃ run, Reaches plan trace run ∧ Move plan run event next := by
  generalize hwhole : trace ++ [event] = whole at h
  cases h with
  | start => simp at hwhole
  | move hreaches hmove =>
      obtain ⟨rfl, hevent⟩ := List.append_inj' hwhole rfl
      cases hevent
      exact ⟨_, hreaches, hmove⟩

/-- What has happened up to any point of a trace is a trace. -/
theorem Reaches.of_append {front back : List Event} (h : Reaches plan (front ++ back) run) :
    ∃ earlier, Reaches plan front earlier := by
  induction back using List.reverseRecOn generalizing run with
  | nil => exact ⟨run, by simpa using h⟩
  | append_singleton rest event ih =>
      rw [← List.append_assoc] at h
      obtain ⟨earlier, hearlier, -⟩ := h.last_move
      exact ih hearlier

end PageHarvest.Sync.Run
