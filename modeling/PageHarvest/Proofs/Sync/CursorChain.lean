import PageHarvest.Proofs.Paging
import PageHarvest.Proofs.Sync.Pages

/-!
The cursors of a sync form a chain. With cursor pagination each page is asked for
with the cursor that was committed for the page before, and it moves on to its
own end cursor; without pagination there is one page, and the cursor that the
sync began with comes out as it went in.
-/

namespace PageHarvest

/-- Without pagination the variables do not depend on the cursor. -/
theorem Connector.variablesAfter_eq {connector : Connector}
    (hkey : connector.pagination = .none) (left right : Option String) :
    connector.variablesAfter left = connector.variablesAfter right := by
  simp [variablesAfter, hkey]

namespace Sync

/-- The cursor that is committed after some pages: that of the last of them, and
without pages the one that the sync began with. -/
def cursorAfter (loaded : Option String) : List PageTrace → Option String
  | [] => loaded
  | page :: rest => cursorAfter (page.commit.bind Prod.fst) rest

/-- Every attempt at a page asks with the cursor committed before it. The page
commits its end cursor, or keeps the one before if it says none and is the last;
before another page its cursor is there and has moved. -/
def CursorChain (connector : Connector) (key : DottedPath) (loaded : Option String)
    (pages : List PageTrace) : Prop :=
  ∀ front page back, pages = front ++ page :: back →
    (∀ request ∈ page.requests,
      connector.request (connector.variablesAfter (cursorAfter loaded front)) = .ok request) ∧
    (∀ cursor result, page.commit = some (cursor, result) →
      ∃ body endCursor, page.body? = some body ∧
        SaysEndCursor key (Response.dataRoot body) endCursor ∧
        cursor = endCursor.or (cursorAfter loaded front) ∧ (endCursor = none → back = [])) ∧
    (back ≠ [] → ∃ cursor, page.commit = some (some cursor, .ok ()) ∧
      some cursor ≠ cursorAfter loaded front)

/-- There is one page at most. It is asked for in the same way whatever cursor
the sync began with, and nothing but that cursor is committed. -/
def SinglePage (connector : Connector) (loaded : Option String) (pages : List PageTrace) : Prop :=
  pages.length ≤ 1 ∧
    ∀ page ∈ pages,
      (∀ request ∈ page.requests, ∀ cursor,
        connector.request (connector.variablesAfter cursor) = .ok request) ∧
      ∀ cursor result, page.commit = some (cursor, result) → cursor = loaded

namespace PageTrace

variable {plan : Plan} {progress last : Progress} {page : PageTrace}
  {pages front back : List PageTrace}

theorem Links.cursorAfter_eq (h : Links plan progress pages last) :
    cursorAfter progress.cursor pages = last.cursor := by
  induction h with
  | nil progress => rfl
  | cons horder hcommits hmore hrest ih => simpa [cursorAfter, hcommits.1] using ih

/-- Any page of a trace is in order after the pages before it, and where a page
comes after it, it was committed with another one due. -/
theorem Links.at_page {latest : Option PageTrace} (h : Links plan progress pages last)
    (hlatest : ∀ page ∈ latest, page.InOrder plan last)
    (hsplit : pages ++ latest.toList = front ++ page :: back) :
    ∃ middle, Links plan progress front middle ∧ page.InOrder plan middle ∧
      (back ≠ [] → ∃ next, page.Commits plan middle next ∧ next.hasMore = true) := by
  induction h generalizing front with
  | nil progress =>
      cases latest with
      | none => simp at hsplit
      | some only =>
          obtain ⟨rfl, rfl, rfl⟩ : front = [] ∧ only = page ∧ back = [] := by
            cases front with
            | nil => simpa [eq_comm] using hsplit
            | cons first rest => simp at hsplit
          exact ⟨progress, .nil progress, hlatest only rfl, by simp⟩
  | cons horder hcommits hmore hrest ih =>
      cases front with
      | nil =>
          obtain ⟨rfl, -⟩ := List.cons.inj hsplit
          exact ⟨_, .nil _, horder, fun _ => ⟨_, hcommits, hmore⟩⟩
      | cons first rest =>
          obtain ⟨rfl, htail⟩ := List.cons.inj hsplit
          obtain ⟨middle, hlinks, hpage⟩ := ih hlatest htail
          exact ⟨middle, .cons horder hcommits hmore hlinks, hpage⟩

theorem InOrder.chained {key : DottedPath} (hkey : plan.connector.pagination = .cursor key)
    (h : page.InOrder plan progress) {cursor : Option String} {result : Except Error Unit}
    (hcommit : page.commit = some (cursor, result)) :
    ∃ body endCursor, page.body? = some body ∧
      SaysEndCursor key (Response.dataRoot body) endCursor ∧
      cursor = endCursor.or progress.cursor ∧
      ∀ next, page.Commits plan progress next → next.hasMore = true →
        endCursor ≠ none ∧ endCursor ≠ progress.cursor := by
  obtain ⟨body, records, verdict, next, hbody, -, -, -, hnext, rfl⟩ :=
    h.commits cursor result hcommit
  rw [hkey] at hnext
  obtain ⟨endCursor, hsays, hcursor, hmoves⟩ := Pagination.next_cursor_moves hnext
  refine ⟨body, endCursor, hbody, hsays, hcursor, ?_⟩
  rintro other ⟨-, body', verdict', hbody', hnext'⟩ hmore
  obtain rfl : body = body' := Option.some.inj (hbody.symm.trans hbody')
  rw [hkey, hnext] at hnext'
  obtain ⟨-, rfl⟩ := Prod.mk.inj (Except.ok.inj hnext')
  exact hmoves hmore

/-- With cursor pagination the pages of a trace form a chain of cursors. -/
theorem Links.cursorChain {key : DottedPath} (hkey : plan.connector.pagination = .cursor key)
    {loaded : Option String} {latest : Option PageTrace}
    (h : Links plan (.startingAt loaded) pages last)
    (hlatest : ∀ page ∈ latest, page.InOrder plan last) :
    CursorChain plan.connector key loaded (pages ++ latest.toList) := by
  intro front page back hsplit
  obtain ⟨middle, hlinks, horder, hdue⟩ := h.at_page hlatest hsplit
  have hbefore : cursorAfter loaded front = middle.cursor := hlinks.cursorAfter_eq
  rw [hbefore]
  refine ⟨?_, ?_, ?_⟩
  · intro request hrequest
    have hasks := horder.asks request hrequest
    simpa [Plan.request, Plan.requestCursor, Pagination.requestCursor, hkey] using hasks
  · intro cursor result hcommit
    obtain ⟨body, endCursor, hbody, hsays, hcursor, hmoves⟩ := horder.chained hkey hcommit
    refine ⟨body, endCursor, hbody, hsays, hcursor, ?_⟩
    intro hnone
    by_contra hback
    obtain ⟨next, hcommits, hmore⟩ := hdue hback
    exact (hmoves next hcommits hmore).1 hnone
  · intro hback
    obtain ⟨next, hcommits, hmore⟩ := hdue hback
    obtain ⟨body, endCursor, -, -, hcursor, hmoves⟩ := horder.chained hkey hcommits.1
    obtain ⟨hsome, hmoved⟩ := hmoves next hcommits hmore
    obtain ⟨cursor, rfl⟩ := Option.ne_none_iff_exists'.mp hsome
    have hnext : next.cursor = some cursor := by simpa using hcursor
    exact ⟨cursor, hnext ▸ hcommits.1, hmoved⟩

/-- Without pagination no page is followed by another one. -/
theorem Links.eq_nil (hkey : plan.connector.pagination = .none)
    (h : Links plan progress pages last) : pages = [] ∧ progress = last := by
  cases h with
  | nil => exact ⟨rfl, rfl⟩
  | cons horder hcommits hmore hrest =>
      obtain ⟨-, body, verdict, -, hnext⟩ := hcommits
      rw [hkey] at hnext
      cases hnext
      cases hmore

/-- Without pagination there is a single page, and the cursor is kept. -/
theorem Links.singlePage (hkey : plan.connector.pagination = .none) {loaded : Option String}
    {latest : Option PageTrace} (h : Links plan (.startingAt loaded) pages last)
    (hlatest : ∀ page ∈ latest, page.InOrder plan last) :
    SinglePage plan.connector loaded (pages ++ latest.toList) := by
  obtain ⟨rfl, rfl⟩ := h.eq_nil hkey
  refine ⟨by cases latest <;> simp, ?_⟩
  intro page hpage
  have horder : page.InOrder plan (.startingAt loaded) := hlatest page (by simpa using hpage)
  refine ⟨?_, ?_⟩
  · intro request hrequest cursor
    have hasks := horder.asks request hrequest
    rw [Connector.variablesAfter_eq hkey cursor]
    exact hasks
  · intro cursor result hcommit
    obtain ⟨body, records, verdict, next, -, -, -, -, hnext, rfl⟩ :=
      horder.commits cursor result hcommit
    rw [hkey] at hnext
    cases hnext
    rfl

end PageTrace

/-- Whatever is replied, the pages after the load form a chain of cursors, or
without pagination there is only one of them. -/
theorem Run.pages_form_chain (plan : Plan) (replies : List Reply) :
    Run.loading.events plan replies = [] ∨
      (∃ e, Run.loading.events plan replies = [⟨.load, .loaded (.error e)⟩]) ∨
      ∃ loaded pages,
        Run.loading.events plan replies =
          ⟨.load, .loaded (.ok loaded)⟩ :: pages.flatMap PageTrace.events ∧
        match plan.connector.pagination with
        | .cursor key => CursorChain plan.connector key loaded pages
        | .none => SinglePage plan.connector loaded pages := by
  obtain h | h | ⟨loaded, pages, last, latest, htrace, hlinks, hlatest⟩ :=
    Run.events_inPages plan replies
  · exact .inl h
  · exact .inr (.inl h)
  · refine .inr (.inr ⟨loaded, pages ++ latest.toList, htrace, ?_⟩)
    cases hkey : plan.connector.pagination with
    | none => exact hlinks.singlePage hkey hlatest
    | cursor key => exact hlinks.cursorChain hkey hlatest

end Sync

end PageHarvest
