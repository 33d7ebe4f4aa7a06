import PageHarvest.Proofs.Paging
import PageHarvest.Proofs.Path.Selection

/-!
Pages handled one after the other with one progress. What a page does to the progress
depends on the page and on the progress before it alone; so what holds after a page is
shown by going on from what held before it. Pages that fail leave no mark.
-/

namespace PageHarvest

/-- A page that was handled, what came of it, and the progress after it. -/
structure PageStep where
  page : Json
  result : Except Error NextPage
  after : Progress

def PageStep.succeeded (s : PageStep) : Bool := s.result.isOk

def PageStep.final (progress : Progress) (steps : List PageStep) : Progress :=
  (steps.getLast?.map PageStep.after).getD progress

/-- The end cursor in the page info of the single node that a key leads to. -/
def Json.endCursor? (data : Json) (key : DottedPath) : Option String :=
  match data.select key.segments with
  | [node] => ((node.get? "pageInfo").bind fun info => info.get? "endCursor").bind string?
  | _ => none

theorem HoldsCursor.string?_eq {member : Option Json} {endCursor : Option String}
    (h : HoldsCursor member endCursor) : member.bind Json.string? = endCursor := by
  cases endCursor with
  | some cursor =>
      obtain rfl := h
      rfl
  | none =>
      rcases h with rfl | rfl
      · rfl
      · rfl

theorem SaysEndCursor.endCursor?_eq {key : DottedPath} {data : Json} {endCursor : Option String}
    (h : SaysEndCursor key data endCursor) : data.endCursor? key = endCursor := by
  obtain ⟨node, members, hresolve, hmembers, hend⟩ := h
  have hselect : data.select key.segments = [node] := by
    obtain ⟨hok, -⟩ := walk_covers data key.segments 0
    unfold DottedPath.resolve at hresolve
    cases hwalk : walk data key.segments 0 with
    | error depth => simp [hwalk] at hresolve
    | ok result =>
        obtain rfl : result = .node node := by simpa [hwalk] using hresolve
        exact (hok _ hwalk).1.leaves.symm
  unfold Json.endCursor?
  rw [hselect]
  simp only [hmembers, Option.bind_some]
  exact hend.string?_eq

namespace Pagination

def step (p : Pagination) (page : Json) (progress : Progress) : PageStep :=
  match p.process page progress with
  | .ok verdict after => ⟨page, .ok verdict, after⟩
  | .error e after => ⟨page, .error e, after⟩

def steps (p : Pagination) (progress : Progress) : List Json → List PageStep
  | [] => []
  | page :: pages => p.step page progress :: p.steps (p.step page progress).after pages

variable {p : Pagination} {progress : Progress}

/-- What a page that succeeds does: it ends the pages if it is the last one, and sets
the cursor if it carries one. -/
theorem process_ok {page : Json} {verdict : NextPage} {after : Progress}
    (h : p.process page progress = .ok verdict after) :
    (after.hasMore = false ↔ progress.hasMore = false ∨ verdict = .done) ∧
      after.cursor = (p.key?.bind page.endCursor?).or progress.cursor := by
  cases p with
  | none =>
      cases h
      simp [Progress.markDone, key?]
  | cursor key =>
      obtain ⟨info, hsays, hadvance⟩ := process_cursor_ok h
      have hcursor : ((Pagination.cursor key).key?.bind page.endCursor?) = info.endCursor :=
        hsays.endCursor?_eq
      rw [hcursor]
      obtain ⟨cursor, hend, -, rfl, rfl⟩ | ⟨cursor, hend, rfl, rfl⟩ | ⟨hend, rfl, rfl⟩ :=
        PageInfo.advance_ok hadvance
      · simp [hend]
      · simp [hend]
      · simp [hend]

/-- What a page adds to the cursors that were carried: the end cursor of a page that
succeeded. -/
def carried? (p : Pagination) (s : PageStep) : Option String :=
  if s.succeeded then p.key?.bind s.page.endCursor? else Option.none

theorem filterMap_carried? (key : DottedPath) (trace : List PageStep) :
    trace.filterMap (Pagination.cursor key).carried? =
      (trace.filter PageStep.succeeded).filterMap fun t => t.page.endCursor? key := by
  rw [List.filterMap_filter]
  rfl

theorem filterMap_carried?_none (trace : List PageStep) :
    trace.filterMap Pagination.none.carried? = [] := by
  rw [List.filterMap_eq_nil_iff]
  intro t _
  simp [carried?, key?]

/-- What one page does, whether it succeeds or not. -/
theorem step_spec (p : Pagination) (page : Json) (progress : Progress) :
    ((p.step page progress).after.hasMore = false ↔
        progress.hasMore = false ∨ (p.step page progress).result = .ok .done) ∧
      (p.step page progress).after.cursor =
        (p.carried? (p.step page progress)).or progress.cursor := by
  unfold step carried?
  cases hprocess : p.process page progress with
  | ok verdict after =>
      obtain ⟨hmore, hcursor⟩ := process_ok hprocess
      simpa [PageStep.succeeded, Except.isOk, Except.toBool, hmore] using hcursor
  | error e after =>
      obtain ⟨-, rfl⟩ := process_error hprocess
      simp [PageStep.succeeded, Except.isOk, Except.toBool]

/-- What holds before the first page, and is handed on by every page, holds after each
of them. -/
theorem steps_induction (Inv : List PageStep → Progress → Prop)
    (hstep : ∀ trace progress page, Inv trace progress →
      Inv (trace ++ [p.step page progress]) (p.step page progress).after)
    (hstart : Inv [] progress) {pages : List Json} {before rest : List PageStep} {s : PageStep}
    (h : p.steps progress pages = before ++ s :: rest) : Inv (before ++ [s]) s.after := by
  have hrun : ∀ pages trace progress before, Inv trace progress →
      p.steps progress pages = before ++ s :: rest → Inv (trace ++ before ++ [s]) s.after := by
    intro pages
    induction pages with
    | nil =>
        intro trace progress before _ hsteps
        simp [steps] at hsteps
    | cons page pages ih =>
        intro trace progress before htrace hsteps
        have hnext := hstep trace progress page htrace
        rw [steps] at hsteps
        cases before with
        | nil =>
            obtain ⟨rfl, -⟩ := List.cons.inj hsteps
            simpa using hnext
        | cons first before =>
            obtain ⟨rfl, hmore⟩ := List.cons.inj hsteps
            simpa using ih _ _ _ hnext hmore
  simpa using hrun pages [] progress before hstart h

/-- No more pages are expected exactly if there was a last one. -/
theorem steps_hasMore {pages : List Json} {before rest : List PageStep} {s : PageStep}
    (h : p.steps progress pages = before ++ s :: rest) :
    s.after.hasMore = false ↔
      progress.hasMore = false ∨ ∃ t ∈ before ++ [s], t.result = .ok .done := by
  refine steps_induction (fun trace after => after.hasMore = false ↔
    progress.hasMore = false ∨ ∃ t ∈ trace, t.result = .ok .done) ?_ (by simp) h
  intro trace after page htrace
  rw [(p.step_spec page after).1, htrace]
  simp only [List.mem_append, List.mem_singleton, or_and_right, exists_or, exists_eq_left, or_assoc]

/-- The cursor is the last one that was carried, or the first one of all. -/
theorem steps_cursor {pages : List Json} {before rest : List PageStep} {s : PageStep}
    (h : p.steps progress pages = before ++ s :: rest) :
    s.after.cursor = ((before ++ [s]).filterMap p.carried?).getLast?.or progress.cursor := by
  refine steps_induction (fun trace after =>
    after.cursor = (trace.filterMap p.carried?).getLast?.or progress.cursor) ?_ (by simp) h
  intro trace after page htrace
  rw [(p.step_spec page after).2, htrace, List.filterMap_append]
  cases hcarried : p.carried? (p.step page after) <;> simp [hcarried]

theorem step_page (p : Pagination) (page : Json) (progress : Progress) :
    (p.step page progress).page = page := by
  unfold step
  split <;> rfl

theorem steps_page (p : Pagination) (progress : Progress) (pages : List Json) :
    (p.steps progress pages).map PageStep.page = pages := by
  induction pages generalizing progress with
  | nil => rfl
  | cons page pages ih => rw [steps, List.map_cons, ih, step_page]

/-- A page that fails leaves the progress as it was. -/
theorem step_after_of_failed {page : Json} (h : (p.step page progress).succeeded = false) :
    (p.step page progress).after = progress := by
  unfold step at h ⊢
  cases hprocess : p.process page progress with
  | ok verdict after => simp [hprocess, PageStep.succeeded, Except.isOk, Except.toBool] at h
  | error e after => exact (process_error hprocess).2

/-- The pages that succeed are handled alike when the others are left out. -/
theorem steps_succeeded (p : Pagination) (progress : Progress) (pages : List Json) :
    p.steps progress (((p.steps progress pages).filter PageStep.succeeded).map PageStep.page) =
      (p.steps progress pages).filter PageStep.succeeded := by
  induction pages generalizing progress with
  | nil => rfl
  | cons page pages ih =>
      rw [steps]
      cases hsucceeded : (p.step page progress).succeeded with
      | false =>
          rw [step_after_of_failed hsucceeded, List.filter_cons_of_neg (by simp [hsucceeded]), ih]
      | true =>
          rw [List.filter_cons_of_pos hsucceeded, List.map_cons, step_page, steps, ih]

theorem final_succeeded (p : Pagination) (progress : Progress) (pages : List Json) :
    PageStep.final progress ((p.steps progress pages).filter PageStep.succeeded) =
      PageStep.final progress (p.steps progress pages) := by
  induction pages generalizing progress with
  | nil => rfl
  | cons page pages ih =>
      have hcons : ∀ s rest, PageStep.final progress (s :: rest) = PageStep.final s.after rest := by
        intro s rest
        cases rest <;> simp [PageStep.final, List.getLast?_cons]
      rw [steps, hcons]
      cases hsucceeded : (p.step page progress).succeeded with
      | false =>
          rw [List.filter_cons_of_neg (by simp [hsucceeded]), step_after_of_failed hsucceeded, ih]
      | true => rw [List.filter_cons_of_pos hsucceeded, hcons, ih]

/-- Pages in any number and order, from a cursor on. After each of them no more are
expected exactly if there was a last one, and from then on for good; with cursor
pagination the cursor is the last one that a successful page carried, or the one at the
start, where it stays without pagination. The pages that fail could as well be left
out. -/
theorem steps_from_start (p : Pagination) (start : Option String) (pages : List Json) :
    (p.steps (.startingAt start) pages).map PageStep.page = pages ∧
      (∀ before s rest, p.steps (.startingAt start) pages = before ++ s :: rest →
        (s.after.hasMore = false ↔ ∃ t ∈ before ++ [s], t.result = .ok .done) ∧
          (s.after.hasMore = false → ∀ t ∈ rest, t.after.hasMore = false) ∧
          (∀ key, p = .cursor key → s.after.cursor =
            (((before ++ [s]).filter PageStep.succeeded).filterMap
              fun t => t.page.endCursor? key).getLast?.or start) ∧
          (p = .none → s.after.cursor = start)) ∧
      p.steps (.startingAt start)
          (((p.steps (.startingAt start) pages).filter PageStep.succeeded).map PageStep.page) =
        (p.steps (.startingAt start) pages).filter PageStep.succeeded ∧
      PageStep.final (.startingAt start)
          ((p.steps (.startingAt start) pages).filter PageStep.succeeded) =
        PageStep.final (.startingAt start) (p.steps (.startingAt start) pages) := by
  refine ⟨steps_page .., ?_, steps_succeeded .., final_succeeded ..⟩
  intro before s rest hsplit
  have hopen : (Progress.startingAt start).hasMore = true := rfl
  have hmore := steps_hasMore hsplit
  have hcursor := steps_cursor hsplit
  rw [hopen] at hmore
  refine ⟨by simpa using hmore, ?_, ?_, ?_⟩
  · intro hdone t ht
    obtain ⟨between, later, rfl⟩ := List.append_of_mem ht
    have hsplit' : p.steps (.startingAt start) pages = (before ++ s :: between) ++ t :: later := by
      rw [hsplit]
      simp
    rw [steps_hasMore hsplit']
    obtain hclosed | ⟨last, hlast, hresult⟩ := hmore.mp hdone
    · cases hclosed
    · refine .inr ⟨last, ?_, hresult⟩
      simp only [List.mem_append, List.mem_cons, List.not_mem_nil] at hlast ⊢
      tauto
  · rintro key rfl
    rw [hcursor, filterMap_carried?]
    rfl
  · rintro rfl
    rw [hcursor, filterMap_carried?_none]
    rfl

namespace Sample

def repositories : DottedPath where
  segments := ["repositories"]
  segments_ne_nil := by decide
  isSegment := by
    simp only [List.forall_mem_cons, IsSegment]
    decide

def page (endCursor hasNextPage : Json) : Json :=
  .object [("repositories", .object [("pageInfo",
    .object [("endCursor", endCursor), ("hasNextPage", hasNextPage)])])]

/-- A page that is gone on from, the same once more, the last page without a cursor, a
page without page info, and one that comes after the last. -/
def pages : List Json :=
  [page (.string "b") (.bool true), page (.string "b") (.bool true), page .null (.bool false),
    .null, page (.string "c") (.bool true)]

def handled : List PageStep :=
  (Pagination.cursor repositories).steps (.startingAt (some "a")) pages

def before : List PageStep := handled.take 4

def last : PageStep :=
  (Pagination.cursor repositories).step (page (.string "c") (.bool true)) ⟨some "b", false⟩

end Sample

/-- The second page and the fourth fail and change nothing; the third ends the pages for
good, though the fifth still moves the cursor. -/
theorem steps_of_sample_pages :
    Sample.handled.map PageStep.after =
        [⟨some "b", true⟩, ⟨some "b", true⟩, ⟨some "b", false⟩, ⟨some "b", false⟩,
          ⟨some "c", false⟩] ∧
      Sample.handled = Sample.before ++ Sample.last :: [] ∧
      (∃ t ∈ Sample.before ++ [Sample.last], t.result = .ok .done) ∧
      (((Sample.before ++ [Sample.last]).filter PageStep.succeeded).filterMap
        fun t => t.page.endCursor? Sample.repositories).getLast?.or (some "a") = some "c" ∧
      (Pagination.none.step .null (.startingAt (some "a"))).after.cursor = some "a" := by
  have hsplit : Sample.handled = Sample.before ++ Sample.last :: [] := rfl
  obtain ⟨-, hsteps, -, -⟩ :=
    steps_from_start (.cursor Sample.repositories) (some "a") Sample.pages
  obtain ⟨hmore, -, hcursor, -⟩ := hsteps _ _ _ hsplit
  obtain ⟨-, hnone, -, -⟩ := steps_from_start .none (some "a") [.null]
  obtain ⟨-, -, -, hkept⟩ := hnone [] _ [] rfl
  exact ⟨by decide +kernel, hsplit, hmore.mp rfl, (hcursor _ rfl).symm.trans rfl, hkept rfl⟩

end Pagination

end PageHarvest
