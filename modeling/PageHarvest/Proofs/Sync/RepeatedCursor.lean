import PageHarvest.Proofs.Http.Variables
import PageHarvest.Proofs.Paging
import PageHarvest.Proofs.Sync.Commitment

/-!
A page that ends where it began. A sync that has committed a cursor asks with it
and notices when a page leads back to it. Before the first commit the cursor in
the request can only be a configured one, and that is not what the page is held
against: a page that leads back to it is committed like any other.
-/

namespace PageHarvest.Sync

namespace Run

variable {plan : Plan} {run : Run} {front : List Event} {request : Request} {body : Json}

/-- The cursor in the request of a page is the one that was committed before the
page, or else the configured one. -/
theorem Reaches.afterCursor?_eq {key : DottedPath} {next : Run} {timeout : Nat} {reply : Reply}
    (hkey : plan.connector.pagination = .cursor key) (hreaches : Reaches plan front run)
    (hmove : Move plan run ⟨.send request timeout, reply⟩ next) :
    request.afterCursor? = (lastCommitted front).or plan.connector.fixedCursor? := by
  have hrequest := hreaches.request_eq hmove
  have hcursor : plan.requestCursor (.startingAt (lastCommitted front)) = lastCommitted front := by
    simp [Plan.requestCursor, Pagination.requestCursor, hkey, Progress.startingAt]
  rw [Plan.request, hcursor] at hrequest
  exact Connector.afterCursor?_eq hkey hrequest

/-- Only what was found in the last body is handed over. -/
theorem Reaches.delivering {next : Run} {timeout : Nat} {records : List Record} {reply : Reply}
    (hreaches : Reaches plan (front ++ [⟨.send request timeout, .answered (.ok body)⟩]) run)
    (hmove : Move plan run ⟨.accept records, reply⟩ next) :
    ∃ tally, run = .delivering (.startingAt (lastCommitted front)) tally (Response.dataRoot body)
      (plan.extract (Response.dataRoot body)) := by
  have hdemand := hmove.demand_eq
  cases run with
  | delivering progress tally data found =>
      obtain ⟨hprogress, front', request', timeout', body', htrace, rfl, rfl⟩ := hreaches.agrees
      obtain ⟨-, hlast⟩ := List.append_inj' htrace rfl
      cases hlast
      rw [lastCommitted_concat front rfl rfl] at hprogress
      exact ⟨tally, by rw [hprogress]⟩
  | fetching progress tally fetch => cases fetch <;> cases hdemand
  | _ => cases hdemand

/-- Where a page that was asked for with a cursor says that another one follows
after the same cursor, the sync fails if it has committed that cursor itself; if
it was only configured, the sync goes on to commit it. -/
theorem repeated_cursor_fails_after_commit {key : DottedPath}
    (hkey : plan.connector.pagination = .cursor key) {replies : List Reply} {timeout : Nat}
    {records : List Record} {cursor : String}
    (hfeed : Run.loading.feed? plan replies = some run)
    (htrace : Run.loading.events plan replies =
      front ++ [⟨.send request timeout, .answered (.ok body)⟩] ++
        [⟨.accept records, .accepted (.ok ())⟩])
    (hfound : (plan.extract (Response.dataRoot body)).failures = [])
    (hasks : request.afterCursor? = some cursor)
    (hcontinue : SaysContinue key (Response.dataRoot body) cursor) :
    (∀ committed, lastCommitted front = some committed →
      committed = cursor ∧
        run = .aborted (some cursor) (.malformedPageInfo key.text
          ("endCursor '" ++ cursor ++ "' repeats the cursor that produced this page"))) ∧
      (lastCommitted front = none →
        plan.connector.fixedCursor? = some cursor ∧
          run.demand plan = some (.save (some cursor))) := by
  have hreaches := reaches_of_feed? hfeed
  rw [htrace] at hreaches
  obtain ⟨state, hstate, haccept⟩ := hreaches.last_move
  obtain ⟨sending, hsending, hsend⟩ := hstate.last_move
  obtain ⟨tally, rfl⟩ := hstate.delivering haccept
  have hcarried := hsending.afterCursor?_eq hkey hsend
  have hrun : Run.delivered plan (.startingAt (lastCommitted front)) tally (Response.dataRoot body)
      (plan.extract (Response.dataRoot body)) = run := Option.some.inj haccept.step?_eq
  rw [hasks] at hcarried
  constructor
  · intro committed hlast
    obtain rfl : cursor = committed := by simpa [hlast] using hcarried
    have hnext := Pagination.next_of_saysContinue hcontinue (.startingAt (some cursor))
    have hsame : (Progress.startingAt (some cursor)).cursor = some cursor := rfl
    rw [← hkey, if_pos hsame] at hnext
    refine ⟨rfl, ?_⟩
    rw [← hrun]
    simp only [Run.delivered, hfound, hlast, hnext]
    rfl
  · intro hlast
    have hfixed : plan.connector.fixedCursor? = some cursor := by simpa [hlast] using hcarried.symm
    have hnext := Pagination.next_of_saysContinue hcontinue (.startingAt none)
    have hother : (Progress.startingAt none).cursor ≠ some cursor := by simp [Progress.startingAt]
    rw [← hkey, if_neg hother] at hnext
    refine ⟨hfixed, ?_⟩
    rw [← hrun]
    simp only [Run.delivered, hfound, hlast, hnext]
    rfl

end Run

namespace Sample

def beginsAtA : Plan where
  connector := { connector with fixedVariables := [("after", .string "a")] }

def leadsBackToA : List Reply :=
  [.loaded (.ok none), .granted, .answered (.ok (page "1" "a" true)), .accepted (.ok ())]

theorem leadsBackToA_continues :
    SaysContinue users (Response.dataRoot (page "1" "a" true)) "a" :=
  ⟨_, _, rfl, rfl, rfl, rfl⟩

end Sample

theorem configured_cursor_is_up_for_commit :
    ∃ front request records run,
      Run.loading.feed? Sample.beginsAtA Sample.leadsBackToA = some run ∧
        Run.loading.events Sample.beginsAtA Sample.leadsBackToA =
          front ++ [⟨.send request 30, .answered (.ok (Sample.page "1" "a" true))⟩] ++
            [⟨.accept records, .accepted (.ok ())⟩] ∧
        request.afterCursor? = some "a" ∧
        run.demand Sample.beginsAtA = some (.save (some "a")) := by
  have hfeed : Run.loading.feed? Sample.beginsAtA Sample.leadsBackToA = some _ := rfl
  have htrace : Run.loading.events Sample.beginsAtA Sample.leadsBackToA =
      [⟨.load, .loaded (.ok none)⟩, ⟨.proceed, .granted⟩] ++
        [⟨.send _ 30, .answered (.ok (Sample.page "1" "a" true))⟩] ++
          [⟨.accept _, .accepted (.ok ())⟩] := rfl
  have hresult := Run.repeated_cursor_fails_after_commit rfl hfeed htrace rfl rfl
    Sample.leadsBackToA_continues
  exact ⟨_, _, _, _, hfeed, htrace, rfl, (hresult.2 rfl).2⟩

/-- The page was asked for after the cursor that it leads back to, and that cursor
is committed. -/
theorem configured_cursor_repeats :
    ∃ front request records,
      Run.loading.events Sample.beginsAtA (Sample.leadsBackToA ++ [.saved (.ok ())]) =
          front ++ [⟨.send request 30, .answered (.ok (Sample.page "1" "a" true))⟩,
            ⟨.accept records, .accepted (.ok ())⟩, ⟨.save (some "a"), .saved (.ok ())⟩] ∧
        request.afterCursor? = some "a" ∧
        SaysContinue Sample.users (Response.dataRoot (Sample.page "1" "a" true)) "a" := by
  have hevents : Run.loading.events Sample.beginsAtA (Sample.leadsBackToA ++ [.saved (.ok ())]) =
      [⟨.load, .loaded (.ok none)⟩, ⟨.proceed, .granted⟩] ++
        [⟨.send _ 30, .answered (.ok (Sample.page "1" "a" true))⟩, ⟨.accept _, .accepted (.ok ())⟩,
          ⟨.save (some "a"), .saved (.ok ())⟩] := rfl
  exact ⟨_, _, _, hevents, rfl, Sample.leadsBackToA_continues⟩

end PageHarvest.Sync
