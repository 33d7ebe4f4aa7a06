import PageHarvest.Proofs.Sync.Pages

/-!
Delivery and commit keep in step, and what a sync reports is what it committed.
A page is committed only after it was taken over, so at no time is there more
than one page between the two; and whatever ends a sync, the cursor in its
report or error is the one that was committed last.
-/

namespace PageHarvest.Sync

namespace Run

variable {plan : Plan} {run next : Run} {trace : List Event} {event : Event}

/-- How many pages were taken over and not committed, by the state of a sync. -/
def Balanced (trace : List Event) : Run → Prop
  | .committing _ _ _ => (takenPages trace).length = (commits trace).length + 1
  | .aborted _ _ =>
      (takenPages trace).length = (commits trace).length ∨
        (takenPages trace).length = (commits trace).length + 1
  | _ => (takenPages trace).length = (commits trace).length

theorem Balanced.bounds (h : run.Balanced trace) :
    (commits trace).length ≤ (takenPages trace).length ∧
      (takenPages trace).length ≤ (commits trace).length + 1 := by
  cases run with
  | aborted lastCursor cause => obtain h | h := h <;> omega
  | _ =>
      simp only [Balanced] at h
      omega

/-- An event that neither takes a page over nor commits one changes nothing. -/
theorem balanced_concat (htaken : event.taken? = none) (hcommitted : event.committed? = none) :
    next.Balanced (trace ++ [event]) ↔ next.Balanced trace := by
  cases next <;> simp [Balanced, htaken, hcommitted]

theorem Balanced.move (h : run.Balanced trace) (hmove : Move plan run event next) :
    next.Balanced (trace ++ [event]) := by
  cases hmove with
  | unextracted | unpaged =>
      refine .inr ?_
      simpa [Balanced, Event.taken?, Event.committed?] using h
  | delivered => simpa [Balanced, Event.taken?, Event.committed?] using h
  | turned | completed => simpa [Balanced, Event.taken?, Event.committed?] using h
  | unsaved => exact (balanced_concat rfl rfl).mpr (.inr h)
  | loadFailed | unasked | unanswered | refused | undelivered =>
      exact (balanced_concat rfl rfl).mpr (.inl h)
  | interrupted progress tally fetch =>
      have htaken := Event.taken?_cancelled (fetch.demand plan.connector.timeout)
      have hcommitted := Event.committed?_cancelled (fetch.demand plan.connector.timeout)
      exact (balanced_concat htaken hcommitted).mpr h
  | _ => exact (balanced_concat rfl rfl).mpr h

theorem Reaches.balanced (h : Reaches plan trace run) : run.Balanced trace := by
  induction h with
  | start => rfl
  | move _ hmove ih => exact ih.move hmove

/-- A sync loads its cursor and then does pages, each of which is committed only
after it was taken over; and at every point of its trace all pages that were
taken over are committed, or all but the last. -/
theorem commit_follows_delivery (plan : Plan) (replies : List Reply) :
    InPages plan (Run.loading.events plan replies) ∧
      ∀ n, (commits ((Run.loading.events plan replies).take n)).length ≤
          (takenPages ((Run.loading.events plan replies).take n)).length ∧
        (takenPages ((Run.loading.events plan replies).take n)).length ≤
          (commits ((Run.loading.events plan replies).take n)).length + 1 := by
  refine ⟨events_inPages plan replies, ?_⟩
  intro n
  obtain ⟨run, hrun⟩ := reaches_events plan replies
  rw [← List.take_append_drop n (Run.loading.events plan replies)] at hrun
  obtain ⟨earlier, hearlier⟩ := hrun.of_append
  exact hearlier.balanced.bounds

end Run

/-- Every page that was taken over was committed after it. -/
def AllCommitted (trace : List Event) : Prop :=
  ∀ delivery ∈ deliveries trace, delivery.committed = true

theorem AllCommitted.concat {trace : List Event} {event : Event} (h : AllCommitted trace)
    (htaken : event.taken? = none) (hcommitted : event.committed? = none) :
    AllCommitted (trace ++ [event]) := by
  rw [AllCommitted, deliveries_concat_other trace htaken hcommitted]
  exact h

theorem allCommitted_save {trace : List Event} {before : List Delivery} {records : List Record}
    (cursor : Option String) (hlast : deliveries trace = before ++ [⟨records, false⟩])
    (hbefore : ∀ delivery ∈ before, delivery.committed = true) :
    AllCommitted (trace ++ [⟨.save cursor, .saved (.ok ())⟩]) := by
  intro delivery hdelivery
  have hafter : deliveries (trace ++ [⟨.save cursor, .saved (.ok ())⟩]) =
      before ++ [⟨records, true⟩] := by
    simp [deliveries_concat, Delivery.after, Event.taken?, Event.committed?, hlast]
  rw [hafter] at hdelivery
  rcases List.mem_append.mp hdelivery with hearlier | hthis
  · exact hbefore delivery hearlier
  · rw [List.mem_singleton.mp hthis]

namespace Run

variable {plan : Plan} {run next : Run} {trace : List Event} {event : Event}

/-- Only the page that is being committed was taken over without a commit. -/
def Settles (trace : List Event) : Run → Prop
  | .committing _ _ _ =>
      ∃ before records, deliveries trace = before ++ [⟨records, false⟩] ∧
        ∀ delivery ∈ before, delivery.committed = true
  | .aborted _ _ => True
  | _ => AllCommitted trace

theorem Settles.move (h : run.Settles trace) (hmove : Move plan run event next) :
    next.Settles (trace ++ [event]) := by
  cases hmove with
  | delivered progress tally data found verdict next hfound hnext =>
      exact ⟨deliveries trace, found.records, deliveries_concat_accept trace _, h⟩
  | turned | completed =>
      obtain ⟨before, records, hlast, hbefore⟩ := h
      exact allCommitted_save _ hlast hbefore
  | loadFailed | unasked | unanswered | refused | undelivered | unextracted | unpaged | unsaved =>
      trivial
  | interrupted progress tally fetch =>
      exact AllCommitted.concat h (Event.taken?_cancelled _) (Event.committed?_cancelled _)
  | _ => exact AllCommitted.concat h rfl rfl

theorem Reaches.settles (h : Reaches plan trace run) : run.Settles trace := by
  induction h with
  | start =>
      intro delivery hdelivery
      cases hdelivery
  | move _ hmove ih => exact ih.move hmove

end Run

/-- The attempts made since the last page began. -/
def attemptsOfPage (trace : List Event) : Nat :=
  trace.foldl
    (fun n event =>
      match event.demand with
      | .proceed => 0
      | .send _ _ => n + 1
      | _ => n) 0

/-- The error that stops a sync is the one that its last event brought: given in
the reply, found in the body that the last attempt brought, or met in forming the
request for the next page. -/
inductive Stops (plan : Plan) : List Event → Error → Prop where
  | load (e : Error) : Stops plan [⟨.load, .loaded (.error e)⟩] e
  | request (trace : List Event) (e : Error)
      (hrequest : plan.request (.startingAt (lastCommitted trace)) = .error e) :
      Stops plan (trace ++ [⟨.proceed, .granted⟩]) e
  | send (trace : List Event) (request : Request) (timeout : Nat) (e : Error)
      (hretry : plan.retry.shouldRetry e (attemptsOfPage trace + 1) = false) :
      Stops plan (trace ++ [⟨.send request timeout, .answered (.error e)⟩]) e
  | body (trace : List Event) (request : Request) (timeout : Nat) (body : Json) (e : Error)
      (hbody : Response.checkErrors body = .error e) :
      Stops plan (trace ++ [⟨.send request timeout, .answered (.ok body)⟩]) e
  | accept (trace : List Event) (records : List Record) (e : Error) :
      Stops plan (trace ++ [⟨.accept records, .accepted (.error e)⟩]) e
  | path (trace : List Event) (request : Request) (timeout : Nat) (body : Json)
      (records : List Record) (e : Error)
      (hpath : (plan.extract (Response.dataRoot body)).failures.head? = some e) :
      Stops plan (trace ++ [⟨.send request timeout, .answered (.ok body)⟩] ++
        [⟨.accept records, .accepted (.ok ())⟩]) e
  | paging (trace : List Event) (request : Request) (timeout : Nat) (body : Json)
      (records : List Record) (e : Error)
      (hfound : (plan.extract (Response.dataRoot body)).failures = [])
      (hnext : plan.connector.pagination.next (Response.dataRoot body)
        (.startingAt (lastCommitted trace)) = .error e) :
      Stops plan (trace ++ [⟨.send request timeout, .answered (.ok body)⟩] ++
        [⟨.accept records, .accepted (.ok ())⟩]) e
  | save (trace : List Event) (cursor : Option String) (e : Error) :
      Stops plan (trace ++ [⟨.save cursor, .saved (.error e)⟩]) e

namespace Run

variable {plan : Plan} {run next : Run} {trace : List Event} {event : Event}

/-- What a sync knows agrees with its trace: the progress is the one that was
committed last, the data on hand come from the last body, and an error is the
one that stopped it. -/
def Agrees (plan : Plan) (trace : List Event) : Run → Prop
  | .loading => trace = []
  | .turning progress _ => progress = .startingAt (lastCommitted trace)
  | .fetching progress _ (.sending _ attempt) =>
      progress = .startingAt (lastCommitted trace) ∧ attempt = attemptsOfPage trace + 1
  | .fetching progress _ (.waiting _ attempt _) =>
      progress = .startingAt (lastCommitted trace) ∧ attempt = attemptsOfPage trace
  | .delivering progress _ data found =>
      progress = .startingAt (lastCommitted trace) ∧
        ∃ front request timeout body,
          trace = front ++ [⟨.send request timeout, .answered (.ok body)⟩] ∧
            data = Response.dataRoot body ∧ found = plan.extract data
  | .committing progress _ _ => progress = .startingAt (lastCommitted trace)
  | .finished report => report.lastCursor = lastCommitted trace
  | .aborted lastCursor cause => lastCursor = lastCommitted trace ∧ Stops plan trace cause

theorem attemptsOfPage_concat_send (trace : List Event) (request : Request) (timeout : Nat)
    (reply : Reply) :
    attemptsOfPage (trace ++ [⟨.send request timeout, reply⟩]) = attemptsOfPage trace + 1 := by
  simp [attemptsOfPage]

theorem attemptsOfPage_concat_wait (trace : List Event) (delay : Duration) (reply : Reply) :
    attemptsOfPage (trace ++ [⟨.wait delay, reply⟩]) = attemptsOfPage trace := by
  simp [attemptsOfPage]

theorem attemptsOfPage_concat_proceed (trace : List Event) (reply : Reply) :
    attemptsOfPage (trace ++ [⟨.proceed, reply⟩]) = 0 := by
  simp [attemptsOfPage]

theorem Agrees.progress_eq {progress : Progress} {tally : Tally} {fetch : Fetch}
    (h : (Run.fetching progress tally fetch).Agrees plan trace) :
    progress = .startingAt (lastCommitted trace) := by
  cases fetch <;> exact h.1

theorem Agrees.move (h : run.Agrees plan trace) (hmove : Move plan run event next) :
    next.Agrees plan (trace ++ [event]) := by
  cases hmove with
  | loaded cursor =>
      subst h
      rfl
  | loadFailed e =>
      subst h
      exact ⟨rfl, .load e⟩
  | stopped progress tally =>
      subst h
      exact (lastCommitted_concat trace rfl rfl).symm
  | capped progress tally henough =>
      subst h
      exact (lastCommitted_concat trace rfl rfl).symm
  | unasked progress tally e hmore hrequest =>
      subst h
      exact ⟨(lastCommitted_concat trace rfl rfl).symm, .request trace e hrequest⟩
  | asked progress tally request hmore hrequest =>
      subst h
      refine ⟨?_, ?_⟩
      · rw [lastCommitted_concat trace rfl rfl]
      · rw [attemptsOfPage_concat_proceed]
  | interrupted progress tally fetch =>
      obtain rfl := h.progress_eq
      have hload := Event.loaded?_cancelled (fetch.demand plan.connector.timeout)
      have hsave := Event.committed?_cancelled (fetch.demand plan.connector.timeout)
      exact (lastCommitted_concat trace hload hsave).symm
  | retrying progress tally request attempt e hretry =>
      obtain ⟨rfl, rfl⟩ := h
      refine ⟨?_, ?_⟩
      · rw [lastCommitted_concat trace rfl rfl]
      · rw [attemptsOfPage_concat_send]
  | unanswered progress tally request attempt e hretry =>
      obtain ⟨rfl, rfl⟩ := h
      exact ⟨(lastCommitted_concat trace rfl rfl).symm, .send trace _ _ e hretry⟩
  | retried progress tally request attempt delay =>
      obtain ⟨rfl, rfl⟩ := h
      refine ⟨?_, ?_⟩
      · rw [lastCommitted_concat trace rfl rfl]
      · rw [attemptsOfPage_concat_wait]
  | refused progress tally request attempt body e hbody =>
      obtain ⟨rfl, -⟩ := h
      exact ⟨(lastCommitted_concat trace rfl rfl).symm, .body trace _ _ body e hbody⟩
  | received progress tally request attempt body hbody =>
      obtain ⟨rfl, -⟩ := h
      refine ⟨?_, trace, request, plan.connector.timeout, body, rfl, rfl, rfl⟩
      rw [lastCommitted_concat trace rfl rfl]
  | undelivered progress tally data found e =>
      obtain ⟨rfl, -⟩ := h
      exact ⟨(lastCommitted_concat trace rfl rfl).symm, .accept trace _ e⟩
  | unextracted progress tally data found failure hfailure =>
      obtain ⟨rfl, front, request, timeout, body, rfl, rfl, rfl⟩ := h
      exact ⟨(lastCommitted_concat _ rfl rfl).symm,
        .path front request timeout body _ failure hfailure⟩
  | unpaged progress tally data found e hfound hnext =>
      obtain ⟨rfl, front, request, timeout, body, rfl, rfl, rfl⟩ := h
      refine ⟨(lastCommitted_concat _ rfl rfl).symm,
        .paging front request timeout body _ e hfound ?_⟩
      rwa [lastCommitted_concat front rfl rfl] at hnext
  | delivered progress tally data found verdict next hfound hnext =>
      obtain ⟨rfl, -⟩ := h
      exact (congrArg Progress.startingAt (lastCommitted_concat trace rfl rfl)).symm
  | unsaved progress next tally e =>
      subst h
      exact ⟨(lastCommitted_concat trace rfl rfl).symm, .save trace _ e⟩
  | turned progress next tally hmore =>
      obtain ⟨cursor, hasMore⟩ := next
      cases hmore
      exact (congrArg Progress.startingAt (lastCommitted_concat_save trace cursor)).symm
  | completed progress next tally hmore => exact (lastCommitted_concat_save trace next.cursor).symm

theorem Reaches.agrees (h : Reaches plan trace run) : run.Agrees plan trace := by
  induction h with
  | start => rfl
  | move _ hmove ih => exact ih.move hmove

/-- Every request of a page is the one after the cursor that was committed before
it. -/
theorem Reaches.request_eq (hreaches : Reaches plan trace run) {request : Request} {timeout : Nat}
    {reply : Reply} (hmove : Move plan run ⟨.send request timeout, reply⟩ next) :
    plan.request (.startingAt (lastCommitted trace)) = .ok request := by
  have hdemand := hmove.demand_eq
  cases run with
  | fetching progress tally fetch =>
      obtain ⟨page, -, hasking⟩ := hreaches.layout
      have hprogress : progress = .startingAt (lastCommitted trace) := hreaches.agrees.progress_eq
      rw [← hprogress, hasking.request_eq]
      cases fetch with
      | sending asked attempt =>
          cases hdemand
          rfl
      | waiting asked attempt delay => cases hdemand
  | _ => cases hdemand

/-- What a sync returns carries the cursor that it committed last, or else the
one that it began with. An error is that of an aborted sync, and its source is
the error that stopped the sync. -/
theorem result_carries_last_commit {replies : List Reply} {result : Except Error Report}
    (hfeed : Run.loading.feed? plan replies = some run) (hresult : run.result? = some result) :
    match result with
    | .ok report =>
        report.lastCursor = lastCommitted (Run.loading.events plan replies) ∧ run.phase = .done
    | .error e =>
        (∃ cause, e = .aborted (lastCommitted (Run.loading.events plan replies)) cause ∧
          Stops plan (Run.loading.events plan replies) cause) ∧ run.phase = .failed := by
  have hagrees : run.Agrees plan (Run.loading.events plan replies) :=
    (reaches_of_feed? hfeed).agrees
  cases run with
  | finished report =>
      cases hresult
      exact ⟨hagrees, rfl⟩
  | aborted lastCursor cause =>
      cases hresult
      obtain ⟨rfl, hstops⟩ := hagrees
      exact ⟨⟨cause, rfl, hstops⟩, rfl⟩
  | _ => cases hresult

theorem failed_page_keeps_cursor :
    Run.loading.feed? { connector := Sample.connector } Sample.secondPageFails =
        some (.aborted (some "a") (.httpStatus 404 "")) ∧
      (∃ cause, Error.aborted (some "a") (.httpStatus 404 "") =
          .aborted (lastCommitted (Run.loading.events { connector := Sample.connector }
            Sample.secondPageFails)) cause ∧
        Stops { connector := Sample.connector }
          (Run.loading.events { connector := Sample.connector } Sample.secondPageFails) cause) ∧
      (Run.aborted (some "a") (.httpStatus 404 "")).phase = .failed := by
  have hfeed : Run.loading.feed? { connector := Sample.connector } Sample.secondPageFails =
      some (.aborted (some "a") (.httpStatus 404 "")) := by rfl
  have hresult : (Run.aborted (some "a") (.httpStatus 404 "")).result? =
      some (.error (.aborted (some "a") (.httpStatus 404 ""))) := rfl
  exact ⟨hfeed, result_carries_last_commit hfeed hresult⟩

end Run

end PageHarvest.Sync
