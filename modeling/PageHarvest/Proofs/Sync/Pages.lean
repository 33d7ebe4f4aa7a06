import PageHarvest.Proofs.Extraction
import PageHarvest.Proofs.Sync.Moves
import PageHarvest.Proofs.Sync.Trace

/-!
A trace in pages. After the cursor is loaded a sync does nothing but pages: leave
to begin, the attempts to get the body, at most one delivery and at most one
commit. The pages before the last are committed, each to the cursor that the
next one asks with.
-/

namespace PageHarvest.Sync

/-- One attempt to get the body of a page, or the wait before another one. -/
inductive Attempt where
  | send (request : Request) (timeout : Nat) (reply : Reply)
  | wait (delay : Duration) (reply : Reply)

namespace Attempt

def event : Attempt → Event
  | .send request timeout reply => ⟨.send request timeout, reply⟩
  | .wait delay reply => ⟨.wait delay, reply⟩

def request? : Attempt → Option Request
  | .send request _ _ => some request
  | .wait _ _ => none

def body? : Attempt → Option Json
  | .send _ _ (.answered (.ok body)) => some body
  | _ => none

end Attempt

/-- What was asked and answered about one page. -/
structure PageTrace where
  /-- Whether the page may begin. -/
  leave : Reply
  attempts : List Attempt := []
  /-- The records that were handed over, and whether they were taken. -/
  delivery : Option (List Record × Except Error Unit) := none
  /-- The cursor that was to be committed, and whether it was. -/
  commit : Option (Option String × Except Error Unit) := none

namespace PageTrace

def events (page : PageTrace) : List Event :=
  ⟨.proceed, page.leave⟩ :: page.attempts.map Attempt.event ++
    (page.delivery.map fun d => Event.mk (.accept d.1) (.accepted d.2)).toList ++
    (page.commit.map fun c => Event.mk (.save c.1) (.saved c.2)).toList

def requests (page : PageTrace) : List Request := page.attempts.filterMap Attempt.request?

def body? (page : PageTrace) : Option Json := page.attempts.getLast?.bind Attempt.body?

/-- What a page may do after the progress made before it. It asks with that
progress; it hands over what it found in a body without errors; and it commits
after all of that was taken over and no path failed, to the cursor that the body
leads to. -/
structure InOrder (plan : Plan) (progress : Progress) (page : PageTrace) : Prop where
  asks : ∀ request ∈ page.requests, plan.request progress = .ok request
  bodyLast : ∀ attempt ∈ page.attempts.dropLast, attempt.body? = none
  delivers : ∀ records result, page.delivery = some (records, result) →
    ∃ body, page.body? = some body ∧ ¬ Response.ReportsErrors body ∧
      records = (plan.extract (Response.dataRoot body)).records
  commits : ∀ cursor result, page.commit = some (cursor, result) →
    ∃ body records verdict next, page.body? = some body ∧ ¬ Response.ReportsErrors body ∧
      page.delivery = some (records, .ok ()) ∧
      (∀ entry ∈ plan.connector.idMap.toList, ∃ found,
        extractPath plan.policy (Response.dataRoot body) entry.1 entry.2 = .ok found) ∧
      plan.connector.pagination.next (Response.dataRoot body) progress = .ok (verdict, next) ∧
      cursor = next.cursor

def Commits (plan : Plan) (progress : Progress) (page : PageTrace) (next : Progress) : Prop :=
  page.commit = some (next.cursor, .ok ()) ∧
    ∃ body verdict, page.body? = some body ∧
      plan.connector.pagination.next (Response.dataRoot body) progress = .ok (verdict, next)

/-- Pages that were committed one after the other, and after each of which
another one is due. -/
inductive Links (plan : Plan) : Progress → List PageTrace → Progress → Prop where
  | nil (progress : Progress) : Links plan progress [] progress
  | cons {progress next last : Progress} {page : PageTrace} {rest : List PageTrace}
      (horder : page.InOrder plan progress) (hcommits : page.Commits plan progress next)
      (hmore : next.hasMore = true) (hrest : Links plan next rest last) :
      Links plan progress (page :: rest) last

variable {plan : Plan} {progress next last : Progress} {page : PageTrace}

theorem Links.concat {pages : List PageTrace} (h : Links plan progress pages next)
    (horder : page.InOrder plan next) (hcommits : page.Commits plan next last)
    (hmore : last.hasMore = true) : Links plan progress (pages ++ [page]) last := by
  induction h with
  | nil progress => exact .cons horder hcommits hmore (.nil last)
  | cons hfirst hnext hopen _ ih => exact .cons hfirst hnext hopen (ih horder hcommits)

/-- A page of which no attempt has brought the body yet. -/
structure Asking (plan : Plan) (progress : Progress) (request : Request) (page : PageTrace) :
    Prop where
  request_eq : plan.request progress = .ok request
  asks : ∀ r ∈ page.requests, r = request
  bodiless : ∀ attempt ∈ page.attempts, attempt.body? = none
  undelivered : page.delivery = none
  uncommitted : page.commit = none

/-- A page the body of which is there and reports no errors. -/
structure Holding (plan : Plan) (progress : Progress) (body : Json) (page : PageTrace) :
    Prop where
  inOrder : page.InOrder plan progress
  body_eq : page.body? = some body
  noErrors : ¬ Response.ReportsErrors body
  undelivered : page.delivery = none
  uncommitted : page.commit = none

/-- A page that was taken over and says how to go on. -/
structure Settled (plan : Plan) (progress next : Progress) (page : PageTrace) : Prop where
  inOrder : page.InOrder plan progress
  uncommitted : page.commit = none
  ready : ∃ body records verdict, page.body? = some body ∧
    page.delivery = some (records, .ok ()) ∧
    (plan.extract (Response.dataRoot body)).failures = [] ∧
    plan.connector.pagination.next (Response.dataRoot body) progress = .ok (verdict, next)

theorem events_attempt (hdelivery : page.delivery = none) (hcommit : page.commit = none)
    (attempt : Attempt) :
    { page with attempts := page.attempts ++ [attempt] }.events =
      page.events ++ [attempt.event] := by
  simp [events, hdelivery, hcommit]

theorem events_delivery (hdelivery : page.delivery = none) (hcommit : page.commit = none)
    (records : List Record) (result : Except Error Unit) :
    { page with delivery := some (records, result) }.events =
      page.events ++ [⟨.accept records, .accepted result⟩] := by
  simp [events, hdelivery, hcommit]

theorem events_commit (hcommit : page.commit = none) (cursor : Option String)
    (result : Except Error Unit) :
    { page with commit := some (cursor, result) }.events =
      page.events ++ [⟨.save cursor, .saved result⟩] := by
  simp [events, hcommit]

theorem Asking.inOrder {request : Request} (h : page.Asking plan progress request) :
    page.InOrder plan progress where
  asks := fun r hr => (h.asks r hr).symm ▸ h.request_eq
  bodyLast := fun attempt hattempt => h.bodiless attempt (List.dropLast_subset _ hattempt)
  delivers := by simp [h.undelivered]
  commits := by simp [h.uncommitted]

/-- A page that only asks stays in order, even if its last attempt brings a body. -/
theorem Asking.inOrder_attempt {request : Request} (h : page.Asking plan progress request)
    (attempt : Attempt) (hrequest : ∀ r ∈ attempt.request?, r = request) :
    { page with attempts := page.attempts ++ [attempt] }.InOrder plan progress where
  asks := by
    intro r hr
    simp only [requests, List.filterMap_append, List.mem_append] at hr
    obtain hr | hr := hr
    · rw [h.asks r hr]
      exact h.request_eq
    · have hlast : r ∈ attempt.request? := by simpa using hr
      rw [hrequest r hlast]
      exact h.request_eq
  bodyLast := by
    intro a ha
    exact h.bodiless a (by simpa using ha)
  delivers := by
    intro records result hdelivery
    exact absurd hdelivery (by simp [h.undelivered])
  commits := by
    intro cursor result hcommit
    exact absurd hcommit (by simp [h.uncommitted])

theorem Asking.attempt {request : Request} (h : page.Asking plan progress request)
    {attempt : Attempt} (hrequest : ∀ r ∈ attempt.request?, r = request)
    (hbody : attempt.body? = none) :
    { page with attempts := page.attempts ++ [attempt] }.Asking plan progress request where
  request_eq := h.request_eq
  asks := by
    intro r hr
    simp only [requests, List.filterMap_append, List.mem_append] at hr
    obtain hr | hr := hr
    · exact h.asks r hr
    · exact hrequest r (by simpa using hr)
  bodiless := by
    intro a ha
    obtain ha | ha := List.mem_append.mp ha
    · exact h.bodiless a ha
    · rw [List.mem_singleton.mp ha]
      exact hbody
  undelivered := h.undelivered
  uncommitted := h.uncommitted

theorem Holding.inOrder_delivery {body : Json} (h : page.Holding plan progress body)
    (result : Except Error Unit) :
    { page with
      delivery := some ((plan.extract (Response.dataRoot body)).records, result) }.InOrder
      plan progress where
  asks := h.inOrder.asks
  bodyLast := h.inOrder.bodyLast
  delivers := by
    intro records outcome hdelivery
    simp only [Option.some.injEq, Prod.mk.injEq] at hdelivery
    exact ⟨body, h.body_eq, h.noErrors, hdelivery.1.symm⟩
  commits := by
    intro cursor outcome hcommit
    exact absurd hcommit (by simp [h.uncommitted])

theorem Holding.settled {body : Json} {verdict : NextPage} (h : page.Holding plan progress body)
    (hfound : (plan.extract (Response.dataRoot body)).failures = [])
    (hnext : plan.connector.pagination.next (Response.dataRoot body) progress =
      .ok (verdict, next)) :
    { page with
      delivery := some ((plan.extract (Response.dataRoot body)).records, .ok ()) }.Settled
      plan progress next where
  inOrder := h.inOrder_delivery (.ok ())
  uncommitted := h.uncommitted
  ready := ⟨body, _, verdict, h.body_eq, rfl, hfound, hnext⟩

theorem Settled.inOrder_commit (h : page.Settled plan progress next)
    (result : Except Error Unit) :
    { page with commit := some (next.cursor, result) }.InOrder plan progress where
  asks := h.inOrder.asks
  bodyLast := h.inOrder.bodyLast
  delivers := h.inOrder.delivers
  commits := by
    intro cursor outcome hcommit
    simp only [Option.some.injEq, Prod.mk.injEq] at hcommit
    obtain ⟨body, records, verdict, hbody, hdelivery, hfound, hnext⟩ := h.ready
    obtain ⟨other, hother, herrors, -⟩ := h.inOrder.delivers records (.ok ()) hdelivery
    obtain rfl : body = other := Option.some.inj (hbody.symm.trans hother)
    have hpaths := (extractPage_failures_eq_nil_iff _ _ _).mp hfound
    exact ⟨body, records, verdict, next, hbody, herrors, hdelivery, hpaths, hnext,
      hcommit.1.symm⟩

theorem Settled.commits (h : page.Settled plan progress next) :
    { page with commit := some (next.cursor, .ok ()) }.Commits plan progress next := by
  obtain ⟨body, records, verdict, hbody, -, -, hnext⟩ := h.ready
  exact ⟨rfl, body, verdict, hbody, hnext⟩

theorem inOrder_of_leave (leave : Reply) : InOrder plan progress { leave } where
  asks := by simp [requests]
  bodyLast := by simp
  delivers := by simp
  commits := by simp

end PageTrace

open PageTrace (Links InOrder Asking Holding Settled)

/-- The committed pages of a trace lead to a progress, and the given events come
after them. -/
def Follows (plan : Plan) (progress : Progress) (rest trace : List Event) : Prop :=
  ∃ cursor pages,
    trace = ⟨.load, .loaded (.ok cursor)⟩ :: pages.flatMap PageTrace.events ++ rest ∧
      Links plan (.startingAt cursor) pages progress

def Fetch.request : Fetch → Request
  | .sending request _ => request
  | .waiting request _ _ => request

def Fetch.attempt (timeout : Nat) (reply : Reply) : Fetch → Attempt
  | .sending request _ => .send request timeout reply
  | .waiting _ _ delay => .wait delay reply

theorem Fetch.event_attempt (timeout : Nat) (reply : Reply) (fetch : Fetch) :
    (fetch.attempt timeout reply).event = ⟨fetch.demand timeout, reply⟩ := by
  cases fetch <;> rfl

theorem Fetch.request_attempt (timeout : Nat) (reply : Reply) (fetch : Fetch) :
    ∀ request ∈ (fetch.attempt timeout reply).request?, request = fetch.request := by
  cases fetch <;> simp [attempt, Attempt.request?, request]

/-- A trace that is a load and then pages, the last of which may have stopped
anywhere. -/
def InPages (plan : Plan) (trace : List Event) : Prop :=
  trace = [] ∨ (∃ e, trace = [⟨.load, .loaded (.error e)⟩]) ∨
    ∃ cursor pages progress last,
      trace = ⟨.load, .loaded (.ok cursor)⟩ ::
          (pages ++ Option.toList last).flatMap PageTrace.events ∧
        Links plan (.startingAt cursor) pages progress ∧ ∀ page ∈ last, page.InOrder plan progress

/-- Where in its pages a trace is, by the state that it leads to. -/
def Run.Layout (plan : Plan) (trace : List Event) : Run → Prop
  | .loading => trace = []
  | .turning progress _ => Follows plan progress [] trace
  | .fetching progress _ fetch =>
      ∃ page : PageTrace, Follows plan progress page.events trace ∧
        page.Asking plan progress fetch.request
  | .delivering progress _ data found =>
      ∃ (page : PageTrace) (body : Json), Follows plan progress page.events trace ∧
        page.Holding plan progress body ∧ data = Response.dataRoot body ∧ found = plan.extract data
  | .committing progress next _ =>
      ∃ page : PageTrace, Follows plan progress page.events trace ∧ page.Settled plan progress next
  | .finished _ | .aborted _ _ => InPages plan trace

variable {plan : Plan} {progress : Progress} {trace rest : List Event}

theorem Follows.concat (h : Follows plan progress rest trace) (event : Event) :
    Follows plan progress (rest ++ [event]) (trace ++ [event]) := by
  obtain ⟨cursor, pages, rfl, hlinks⟩ := h
  exact ⟨cursor, pages, by simp, hlinks⟩

theorem Follows.inPages {page : PageTrace} (h : Follows plan progress page.events trace)
    (hpage : page.InOrder plan progress) : InPages plan trace := by
  obtain ⟨cursor, pages, rfl, hlinks⟩ := h
  refine .inr (.inr ⟨cursor, pages, progress, some page, by simp, hlinks, ?_⟩)
  intro other hother
  cases hother
  exact hpage

theorem Follows.inPages_nil (h : Follows plan progress [] trace) : InPages plan trace := by
  obtain ⟨cursor, pages, rfl, hlinks⟩ := h
  exact .inr (.inr ⟨cursor, pages, progress, none, by simp, hlinks, by simp⟩)

/-- Committing a page after which another one is due adds it to the pages that
are done. -/
theorem Follows.turn {page : PageTrace} {next : Progress}
    (h : Follows plan progress page.events trace) (hpage : page.InOrder plan progress)
    (hcommits : page.Commits plan progress next) (hmore : next.hasMore = true) :
    Follows plan next [] trace := by
  obtain ⟨cursor, pages, rfl, hlinks⟩ := h
  exact ⟨cursor, pages ++ [page], by simp, hlinks.concat hpage hcommits hmore⟩

theorem Follows.attempt {page : PageTrace} {fetch : Fetch}
    (h : Follows plan progress page.events trace)
    (hasking : page.Asking plan progress fetch.request) (timeout : Nat) (reply : Reply) :
    Follows plan progress
      { page with attempts := page.attempts ++ [fetch.attempt timeout reply] }.events
      (trace ++ [⟨fetch.demand timeout, reply⟩]) := by
  rw [PageTrace.events_attempt hasking.undelivered hasking.uncommitted, Fetch.event_attempt]
  exact h.concat _

theorem Follows.inPages_attempt {page : PageTrace} {fetch : Fetch}
    (h : Follows plan progress page.events trace)
    (hasking : page.Asking plan progress fetch.request) (timeout : Nat) (reply : Reply) :
    InPages plan (trace ++ [⟨fetch.demand timeout, reply⟩]) :=
  (h.attempt hasking timeout reply).inPages
    (hasking.inOrder_attempt _ (fetch.request_attempt timeout reply))

theorem Follows.delivery {page : PageTrace} {body : Json}
    (h : Follows plan progress page.events trace) (hholding : page.Holding plan progress body)
    (records : List Record) (result : Except Error Unit) :
    Follows plan progress { page with delivery := some (records, result) }.events
      (trace ++ [⟨.accept records, .accepted result⟩]) := by
  rw [PageTrace.events_delivery hholding.undelivered hholding.uncommitted]
  exact h.concat _

theorem Follows.commit {page : PageTrace} {next : Progress}
    (h : Follows plan progress page.events trace) (hsettled : page.Settled plan progress next)
    (cursor : Option String) (result : Except Error Unit) :
    Follows plan progress { page with commit := some (cursor, result) }.events
      (trace ++ [⟨.save cursor, .saved result⟩]) := by
  rw [PageTrace.events_commit hsettled.uncommitted]
  exact h.concat _

/-- Every move keeps to the pages: it opens one, goes on with the open one, or
closes it. -/
theorem Run.Layout.move {run next : Run} {event : Event} (h : run.Layout plan trace)
    (hmove : Run.Move plan run event next) : next.Layout plan (trace ++ [event]) := by
  cases hmove with
  | loaded cursor =>
      subst h
      exact ⟨cursor, [], rfl, .nil _⟩
  | loadFailed e =>
      subst h
      exact .inr (.inl ⟨e, rfl⟩)
  | stopped progress tally => exact (h.concat _).inPages (PageTrace.inOrder_of_leave _)
  | capped progress tally henough => exact (h.concat _).inPages (PageTrace.inOrder_of_leave _)
  | unasked progress tally e hmore hrequest =>
      exact (h.concat _).inPages (PageTrace.inOrder_of_leave _)
  | asked progress tally request hmore hrequest =>
      refine ⟨{ leave := .granted }, h.concat _, hrequest, ?_, ?_, rfl, rfl⟩
      · simp [PageTrace.requests]
      · simp
  | interrupted progress tally fetch =>
      obtain ⟨page, hfollows, hasking⟩ := h
      exact hfollows.inPages_attempt hasking _ _
  | unanswered progress tally request attempt e hretry =>
      obtain ⟨page, hfollows, hasking⟩ := h
      exact hfollows.inPages_attempt hasking _ _
  | refused progress tally request attempt body e hbody =>
      obtain ⟨page, hfollows, hasking⟩ := h
      exact hfollows.inPages_attempt hasking _ _
  | retrying progress tally request attempt e hretry =>
      obtain ⟨page, hfollows, hasking⟩ := h
      exact ⟨_, hfollows.attempt hasking _ _,
        hasking.attempt (Fetch.request_attempt _ _ _) rfl⟩
  | retried progress tally request attempt delay =>
      obtain ⟨page, hfollows, hasking⟩ := h
      exact ⟨_, hfollows.attempt hasking 0 _,
        hasking.attempt (Fetch.request_attempt _ _ _) rfl⟩
  | received progress tally request attempt body hbody =>
      obtain ⟨page, hfollows, hasking⟩ := h
      have horder := hasking.inOrder_attempt (.send request plan.connector.timeout
        (.answered (.ok body))) (Fetch.request_attempt _ _ (.sending request attempt))
      refine ⟨_, body, hfollows.attempt hasking _ _, ⟨horder, ?_, ?_, ?_, ?_⟩, rfl, rfl⟩
      · simp [PageTrace.body?, Attempt.body?, Fetch.attempt]
      · exact (Response.checkErrors_eq_ok_iff body).mp hbody
      · exact hasking.undelivered
      · exact hasking.uncommitted
  | undelivered progress tally data found e =>
      obtain ⟨page, body, hfollows, hholding, rfl, rfl⟩ := h
      exact (hfollows.delivery hholding _ _).inPages (hholding.inOrder_delivery _)
  | unextracted progress tally data found failure hfailure =>
      obtain ⟨page, body, hfollows, hholding, rfl, rfl⟩ := h
      exact (hfollows.delivery hholding _ _).inPages (hholding.inOrder_delivery _)
  | unpaged progress tally data found e hfound hnext =>
      obtain ⟨page, body, hfollows, hholding, rfl, rfl⟩ := h
      exact (hfollows.delivery hholding _ _).inPages (hholding.inOrder_delivery _)
  | delivered progress tally data found verdict next hfound hnext =>
      obtain ⟨page, body, hfollows, hholding, rfl, rfl⟩ := h
      exact ⟨_, hfollows.delivery hholding _ _, hholding.settled hfound hnext⟩
  | unsaved progress next tally e =>
      obtain ⟨page, hfollows, hsettled⟩ := h
      exact (hfollows.commit hsettled _ _).inPages (hsettled.inOrder_commit _)
  | turned progress next tally hmore =>
      obtain ⟨page, hfollows, hsettled⟩ := h
      exact (hfollows.commit hsettled _ _).turn (hsettled.inOrder_commit _) hsettled.commits hmore
  | completed progress next tally hmore =>
      obtain ⟨page, hfollows, hsettled⟩ := h
      exact (hfollows.commit hsettled _ _).inPages (hsettled.inOrder_commit _)

theorem Run.Reaches.layout {run : Run} (h : Run.Reaches plan trace run) :
    run.Layout plan trace := by
  induction h with
  | start => rfl
  | move _ hmove ih => exact ih.move hmove

theorem Run.Layout.inPages {run : Run} (h : run.Layout plan trace) : InPages plan trace := by
  cases run with
  | loading => exact .inl h
  | turning progress tally => exact Follows.inPages_nil h
  | fetching progress tally fetch =>
      obtain ⟨page, hfollows, hasking⟩ := h
      exact hfollows.inPages hasking.inOrder
  | delivering progress tally data found =>
      obtain ⟨page, body, hfollows, hholding, -, -⟩ := h
      exact hfollows.inPages hholding.inOrder
  | committing progress next tally =>
      obtain ⟨page, hfollows, hsettled⟩ := h
      exact hfollows.inPages hsettled.inOrder
  | finished report => exact h
  | aborted lastCursor cause => exact h

/-- Whatever is replied, the trace of a sync is a load and then pages. -/
theorem Run.events_inPages (plan : Plan) (replies : List Reply) :
    InPages plan (Run.loading.events plan replies) := by
  obtain ⟨run, hrun⟩ := Run.reaches_events plan replies
  exact hrun.layout.inPages

end PageHarvest.Sync
