import PageHarvest.Proofs.Paging
import PageHarvest.Proofs.Sync.Trace

/-!
A source of pages and the syncs of it. What the source answers depends on the
request alone, so the page after a cursor is always the same one, and so are all
pages from there to the last. Syncs that share a store each begin where the ones
before them left off.
-/

namespace PageHarvest.Sync

/-- What stays the same from one sync to the next: the connector, what becomes
of elements without identity, and the body that there is for each request. -/
structure Source where
  connector : Connector
  policy : ExtractPolicy
  answer : Request → Json

/-- One sync, and what it hears until it is over or is heard of no more. -/
structure Session where
  maxPages : Option Nat := none
  retry : RetryPolicy := {}
  replies : List Reply

namespace Source

def plan (source : Source) (session : Session) : Plan where
  connector := source.connector
  maxPages := session.maxPages
  policy := source.policy
  retry := session.retry

def trace (source : Source) (session : Session) : List Event :=
  Run.loading.events (source.plan session) session.replies

def taken (source : Source) (sessions : List Session) : List (List Record) :=
  sessions.flatMap fun session => takenPages (source.trace session)

def delivered (source : Source) (sessions : List Session) : List Delivery :=
  sessions.flatMap fun session => deliveries (source.trace session)

theorem map_delivered (source : Source) (sessions : List Session) :
    (source.delivered sessions).map Delivery.records = source.taken sessions := by
  simp only [delivered, taken, List.map_flatMap, map_deliveries]

def Answers (source : Source) (trace : List Event) : Prop :=
  ∀ answer ∈ answers trace, answer.2 = source.answer answer.1

/-- A sync that can find out where to begin begins after this cursor. -/
def BeginsAfter (stored : Option String) (trace : List Event) : Prop :=
  ∀ cursor ∈ loadedCursor? trace, cursor = stored

/-- Sessions that share a store: each begins after the cursor that the ones
before it left there. -/
def Resumes (source : Source) : Option String → List Session → Prop
  | _, [] => True
  | stored, session :: rest =>
      BeginsAfter stored (source.trace session) ∧
        source.Resumes (storedAfter stored (source.trace session)) rest

def pageEvents (request : Request) (timeout : Nat) (body : Json) (records : List Record)
    (cursor : Option String) : List Event :=
  [⟨.send request timeout, .answered (.ok body)⟩, ⟨.accept records, .accepted (.ok ())⟩,
    ⟨.save cursor, .saved (.ok ())⟩]

theorem append_pageEvents (front : List Event) (request : Request) (timeout : Nat) (body : Json)
    (records : List Record) (cursor : Option String) :
    front ++ pageEvents request timeout body records cursor =
      front ++ [⟨.send request timeout, .answered (.ok body)⟩] ++
        [⟨.accept records, .accepted (.ok ())⟩] ++ [⟨.save cursor, .saved (.ok ())⟩] := by
  simp [pageEvents]

/-- The trace ends with the commit of a page that says that no other follows. -/
def EndsWithFinalPage (source : Source) (trace : List Event) : Prop :=
  ∃ front request timeout body records cursor next,
    trace = front ++ pageEvents request timeout body records cursor ∧
      source.connector.pagination.next (Response.dataRoot body)
        (.startingAt (lastCommitted front)) = .ok (.done, next)

/-- The trace has the commit of a final page in it. -/
def CommitsFinalPage (source : Source) (trace : List Event) : Prop :=
  ∃ front, front <+: trace ∧ source.EndsWithFinalPage front

/-- A session that goes through all pages from the stored cursor to the end. -/
structure Uninterrupted (source : Source) (stored : Option String) (session : Session) : Prop where
  uncapped : session.maxPages = none
  begins : BeginsAfter stored (source.trace session)
  answers : source.Answers (source.trace session)
  completes : ∃ report, report.status = .completed ∧
    Run.loading.feed? (source.plan session) session.replies = some (.finished report)

def request (source : Source) (cursor : Option String) : Except Error Request :=
  source.connector.request
    (source.connector.variablesAfter
      (source.connector.pagination.requestCursor (.startingAt cursor)))

def extract (source : Source) (data : Json) : Extraction :=
  extractPage source.connector.idMap source.policy data

/-- The body of the page after a cursor, which reports no errors. -/
structure Holds (source : Source) (cursor : Option String) (body : Json) : Prop where
  asked : ∃ request, source.request cursor = .ok request ∧ source.answer request = body
  noErrors : Response.checkErrors body = .ok ()

/-- The records that can be taken over from the page after a cursor, though the
page may not be fit to be committed. -/
def Offers (source : Source) (cursor : Option String) (records : List Record) : Prop :=
  ∃ body, source.Holds cursor body ∧ (source.extract (Response.dataRoot body)).records = records

/-- The body is that of the page after a cursor, and it is fit to be committed. -/
structure Fits (source : Source) (cursor : Option String) (body : Json) (records : List Record)
    (verdict : NextPage) (next : Progress) : Prop where
  holds : source.Holds cursor body
  extract_eq : source.extract (Response.dataRoot body) = ⟨records, []⟩
  next_eq : source.connector.pagination.next (Response.dataRoot body) (.startingAt cursor) =
    .ok (verdict, next)

def Serves (source : Source) (cursor : Option String) (records : List Record)
    (next : Progress) : Prop :=
  ∃ body verdict, source.Fits cursor body records verdict next

/-- Pages after each of which another one is due, from a cursor to a cursor. -/
inductive Leads (source : Source) (stored : Option String) :
    List (List Record) → Option String → Prop where
  | nil : source.Leads stored [] stored
  | concat {pages : List (List Record)} {cursor : Option String} {records : List Record}
      {next : Progress} (hleads : source.Leads stored pages cursor)
      (hserves : source.Serves cursor records next) (hmore : next.hasMore = true) :
      source.Leads stored (pages ++ [records]) next.cursor

/-- All pages from a cursor to the last page. -/
inductive Pages (source : Source) : Option String → List (List Record) → Prop where
  | last {cursor : Option String} {records : List Record} {next : Progress}
      (hserves : source.Serves cursor records next) (hmore : next.hasMore = false) :
      source.Pages cursor [records]
  | more {cursor : Option String} {records : List Record} {next : Progress}
      {pages : List (List Record)} (hserves : source.Serves cursor records next)
      (hmore : next.hasMore = true) (hrest : source.Pages next.cursor pages) :
      source.Pages cursor (records :: pages)

variable {source : Source} {stored cursor : Option String} {trace : List Event} {event : Event}

theorem BeginsAfter.of_concat (h : BeginsAfter stored (trace ++ [event])) :
    BeginsAfter stored trace := by
  intro cursor hcursor
  apply h
  rw [loadedCursor?, List.findSome?_append]
  rw [loadedCursor?] at hcursor
  rw [hcursor]
  rfl

theorem answers_concat_iff :
    source.Answers (trace ++ [event]) ↔
      source.Answers trace ∧ ∀ answer ∈ event.answer?, answer.2 = source.answer answer.1 := by
  simp [Answers, or_imp, forall_and]

theorem BeginsAfter.concat (h : BeginsAfter stored trace)
    (hload : event.loaded? = none) : BeginsAfter stored (trace ++ [event]) := by
  intro cursor hcursor
  rw [loadedCursor?_concat trace hload] at hcursor
  exact h cursor hcursor

theorem Holds.unique {left right : Json} (hleft : source.Holds cursor left)
    (hright : source.Holds cursor right) : left = right := by
  obtain ⟨request, hrequest, rfl⟩ := hleft.asked
  obtain ⟨other, hother, rfl⟩ := hright.asked
  have hsame : request = other := Except.ok.inj (hrequest.symm.trans hother)
  rw [hsame]

theorem Fits.done_iff {body : Json} {records : List Record} {verdict : NextPage} {next : Progress}
    (h : source.Fits cursor body records verdict next) :
    verdict = .done ↔ next.hasMore = false := by
  have hmore := Pagination.next_hasMore rfl h.next_eq
  cases hnext : next.hasMore with
  | true => simpa [hnext] using hmore
  | false => simpa [hnext] using hmore

theorem Offers.unique {left right : List Record} (hleft : source.Offers cursor left)
    (hright : source.Offers cursor right) : left = right := by
  obtain ⟨body, hbody, rfl⟩ := hleft
  obtain ⟨other, hother, rfl⟩ := hright
  rw [hbody.unique hother]

theorem Serves.offers {records : List Record} {next : Progress}
    (h : source.Serves cursor records next) : source.Offers cursor records := by
  obtain ⟨body, verdict, hfits⟩ := h
  exact ⟨body, hfits.holds, by rw [hfits.extract_eq]⟩

theorem Serves.unique {left right : List Record} {leftNext rightNext : Progress}
    (hleft : source.Serves cursor left leftNext) (hright : source.Serves cursor right rightNext) :
    left = right ∧ leftNext = rightNext := by
  refine ⟨hleft.offers.unique hright.offers, ?_⟩
  obtain ⟨body, verdict, hfits⟩ := hleft
  obtain ⟨other, otherVerdict, hother⟩ := hright
  obtain rfl : body = other := hfits.holds.unique hother.holds
  have hpair := Except.ok.inj (hfits.next_eq.symm.trans hother.next_eq)
  exact congrArg Prod.snd hpair

/-- All pages begin with the one that is offered. -/
theorem Pages.eq_cons {pages : List (List Record)} {records : List Record}
    (h : source.Pages cursor pages) (hoffers : source.Offers cursor records) :
    ∃ rest, pages = records :: rest := by
  cases h with
  | last hserves hmore => exact ⟨[], by rw [hoffers.unique hserves.offers]⟩
  | more hserves hmore hrest => exact ⟨_, by rw [hoffers.unique hserves.offers]⟩

theorem Pages.unique {left right : List (List Record)} (hleft : source.Pages cursor left)
    (hright : source.Pages cursor right) : left = right := by
  induction hleft generalizing right with
  | last hserves hmore =>
      cases hright with
      | last hother hotherMore => rw [(hserves.unique hother).1]
      | more hother hotherMore hrest =>
          obtain ⟨-, rfl⟩ := hserves.unique hother
          simp [hmore] at hotherMore
  | more hserves hmore hrest ih =>
      cases hright with
      | last hother hotherMore =>
          obtain ⟨-, rfl⟩ := hserves.unique hother
          simp [hmore] at hotherMore
      | more hother hotherMore hotherRest =>
          obtain ⟨rfl, rfl⟩ := hserves.unique hother
          rw [ih hotherRest]

theorem Resumes.begins {sessions : List Session} (h : source.Resumes stored sessions) :
    ∀ session ∈ sessions, ∃ cursor, BeginsAfter cursor (source.trace session) := by
  induction sessions generalizing stored with
  | nil => simp
  | cons first rest ih =>
      intro session hsession
      obtain rfl | hrest := List.mem_cons.mp hsession
      · exact ⟨stored, h.1⟩
      · exact ih h.2 session hrest

theorem Leads.pages {pages rest : List (List Record)} (h : source.Leads stored pages cursor)
    (hrest : source.Pages cursor rest) : source.Pages stored (pages ++ rest) := by
  induction h generalizing rest with
  | nil => exact hrest
  | concat hleads hserves hmore ih =>
      rw [List.append_assoc]
      exact ih (.more hserves hmore hrest)

end Source

/-- Deliveries that cover some pages in order. A page that was taken over and
not committed is taken over again right after. -/
inductive Repeats : List Delivery → List (List Record) → Prop where
  | nil : Repeats [] []
  | once {records : List Record} {rest : List Delivery} {pages : List (List Record)}
      (hrest : Repeats rest pages) : Repeats (⟨records, true⟩ :: rest) (records :: pages)
  | again {records : List Record} {rest : List Delivery} {pages : List (List Record)}
      (hrest : Repeats rest (records :: pages)) :
      Repeats (⟨records, false⟩ :: rest) (records :: pages)

def settled (pages : List (List Record)) : List Delivery := pages.map fun records => ⟨records, true⟩

theorem committed_of_mem_settled {pages : List (List Record)} {delivery : Delivery}
    (h : delivery ∈ settled pages) : delivery.committed = true := by
  obtain ⟨records, -, rfl⟩ := List.mem_map.mp h
  rfl

theorem Repeats.settled_append {rest : List Delivery} {later : List (List Record)}
    (h : Repeats rest later) (pages : List (List Record)) :
    Repeats (settled pages ++ rest) (pages ++ later) := by
  induction pages with
  | nil => exact h
  | cons records pages ih => exact .once ih

/-- Where every delivery was committed, the pages are delivered once each. -/
theorem Repeats.map_eq {given : List Delivery} {pages : List (List Record)}
    (h : Repeats given pages) (hcommitted : ∀ delivery ∈ given, delivery.committed = true) :
    given.map Delivery.records = pages := by
  induction h with
  | nil => rfl
  | once hrest ih =>
      rw [List.map_cons, ih fun delivery hdelivery => hcommitted delivery (.tail _ hdelivery)]
  | again hrest ih => cases hcommitted _ (.head _)

end PageHarvest.Sync
