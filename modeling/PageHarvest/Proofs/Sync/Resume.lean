import PageHarvest.Proofs.Sync.Pages
import PageHarvest.Proofs.Sync.Source

/-!
Syncs that stop and are begun again deliver every page, in order and without a
gap. The stored cursor alone says which pages are done: those that led to it were
all taken over, and the page after it is the only one that can have been taken
over without being done.
-/

namespace PageHarvest.Sync

namespace Source

/-- The pages up to the stored cursor were delivered and committed, and then at
most the one page after it was delivered. -/
structure Underway (source : Source) (stored : Option String) (trace : List Event)
    (cursor : Option String) (pending : Option (List Record)) : Prop where
  delivered : ∃ pages, source.Leads stored pages cursor ∧
    deliveries trace = settled pages ++ (pending.map fun records => ⟨records, false⟩).toList
  cursor_eq : storedAfter stored trace = cursor
  offers : ∀ records ∈ pending, source.Offers cursor records
  notFinal : ¬ source.CommitsFinalPage trace

/-- All pages were delivered and committed. -/
structure Over (source : Source) (stored : Option String) (trace : List Event) : Prop where
  delivered : ∃ pages, source.Pages stored pages ∧ deliveries trace = settled pages
  final : source.CommitsFinalPage trace

variable {source : Source} {stored cursor : Option String} {trace front : List Event}
  {event : Event} {session : Session} {run next : Run}

theorem EndsWithFinalPage.committed?_eq (h : source.EndsWithFinalPage (trace ++ [event])) :
    ∃ cursor, event.committed? = some cursor := by
  obtain ⟨front, request, timeout, body, records, cursor, next, htrace, -⟩ := h
  rw [append_pageEvents] at htrace
  obtain ⟨-, hevent⟩ := List.append_inj' htrace rfl
  obtain rfl := List.singleton_inj.mp hevent
  exact ⟨cursor, rfl⟩

theorem notFinal_concat (h : ¬ source.CommitsFinalPage trace) (hsave : event.committed? = none) :
    ¬ source.CommitsFinalPage (trace ++ [event]) := by
  rintro ⟨front, hprefix, hends⟩
  obtain rfl | hprefix := List.prefix_concat_iff.mp hprefix
  · obtain ⟨cursor, hcommitted⟩ := hends.committed?_eq
    rw [hsave] at hcommitted
    cases hcommitted
  · exact h ⟨front, hprefix, hends⟩

/-- An event that neither delivers a page nor commits one changes nothing. -/
theorem Underway.concat {pending : Option (List Record)}
    (h : source.Underway stored trace cursor pending) (htaken : event.taken? = none)
    (hsave : event.committed? = none) :
    source.Underway stored (trace ++ [event]) cursor pending where
  delivered := by
    rw [deliveries_concat_other trace htaken hsave]
    exact h.delivered
  cursor_eq := by
    rw [storedAfter_concat stored trace hsave]
    exact h.cursor_eq
  offers := h.offers
  notFinal := notFinal_concat h.notFinal hsave

theorem Underway.deliver {records : List Record} (h : source.Underway stored trace cursor none)
    (hoffers : source.Offers cursor records) :
    source.Underway stored (trace ++ [⟨.accept records, .accepted (.ok ())⟩]) cursor
      (some records) where
  delivered := by
    obtain ⟨pages, hleads, hdeliveries⟩ := h.delivered
    refine ⟨pages, hleads, ?_⟩
    rw [deliveries_concat_accept, hdeliveries]
    simp
  cursor_eq := by
    rw [storedAfter_concat stored trace rfl]
    exact h.cursor_eq
  offers := by
    rintro _ ⟨⟩
    exact hoffers
  notFinal := notFinal_concat h.notFinal rfl

theorem underway_nil (source : Source) (stored : Option String) :
    source.Underway stored [] stored none where
  delivered := ⟨[], .nil, rfl⟩
  cursor_eq := rfl
  offers := by
    intro records hrecords
    cases hrecords
  notFinal := by
    rintro ⟨front, hprefix, hends⟩
    obtain rfl := List.prefix_nil.mp hprefix
    obtain ⟨_, _, _, _, _, _, _, htrace, -⟩ := hends
    simp [pageEvents] at htrace

/-- Between two pages, and while one is being fetched. -/
structure Between (source : Source) (stored : Option String) (trace : List Event)
    (progress : Progress) : Prop where
  underway : source.Underway stored trace progress.cursor none
  loaded : loadedCursor? trace = some stored
  hasMore : progress.hasMore = true

variable {progress : Progress}

theorem Between.progress_eq (h : source.Between stored trace progress) :
    progress = .startingAt progress.cursor := by
  obtain ⟨cursor, hasMore⟩ := progress
  obtain rfl : hasMore = true := h.hasMore
  rfl

theorem Between.lastCommitted_eq (h : source.Between stored trace progress) :
    lastCommitted trace = progress.cursor := by
  rw [lastCommitted, h.loaded]
  exact h.underway.cursor_eq

theorem Between.concat (h : source.Between stored trace progress) (hload : event.loaded? = none)
    (htaken : event.taken? = none) (hsave : event.committed? = none) :
    source.Between stored (trace ++ [event]) progress where
  underway := h.underway.concat htaken hsave
  loaded := by
    rw [loadedCursor?_concat trace hload]
    exact h.loaded
  hasMore := h.hasMore

theorem Between.begin (source : Source) (stored : Option String) :
    source.Between stored ([] ++ [⟨.load, .loaded (.ok stored)⟩]) (.startingAt stored) where
  underway := (underway_nil source stored).concat rfl rfl
  loaded := rfl
  hasMore := rfl

theorem Between.deliver {body : Json} {records : List Record} {verdict : NextPage}
    {after : Progress} (h : source.Between stored front progress)
    (hfits : source.Fits progress.cursor body records verdict after) (request : Request)
    (timeout : Nat) :
    source.Underway stored
      (front ++ [⟨.send request timeout, .answered (.ok body)⟩] ++
        [⟨.accept records, .accepted (.ok ())⟩]) progress.cursor (some records) := by
  apply Underway.deliver
  · exact h.underway.concat rfl rfl
  · exact Serves.offers ⟨body, verdict, hfits⟩

/-- A commit after the page that a sync is at is that of a final page exactly if
no other page is due. -/
theorem Between.endsWithFinalPage_iff {body : Json} {records : List Record} {verdict : NextPage}
    {after : Progress} (h : source.Between stored front progress)
    (hfits : source.Fits progress.cursor body records verdict after) (request : Request)
    (timeout : Nat) :
    source.EndsWithFinalPage (front ++ pageEvents request timeout body records after.cursor) ↔
      after.hasMore = false := by
  rw [← hfits.done_iff]
  constructor
  · rintro ⟨front', _, _, body', _, _, _, htrace, hnext⟩
    obtain ⟨rfl, hpage⟩ := List.append_inj' htrace rfl
    obtain rfl : body = body' := by
      simp only [pageEvents, List.cons.injEq, Event.mk.injEq, Reply.answered.injEq,
        Except.ok.injEq] at hpage
      exact hpage.1.2
    rw [h.lastCommitted_eq, hfits.next_eq] at hnext
    exact congrArg Prod.fst (Except.ok.inj hnext)
  · intro hdone
    subst hdone
    refine ⟨front, request, timeout, body, records, after.cursor, after, rfl, ?_⟩
    rw [h.lastCommitted_eq]
    exact hfits.next_eq

theorem Between.deliveries_commit {body : Json} {records : List Record} {after : Option String}
    (h : source.Between stored front progress) (request : Request) (timeout : Nat) :
    ∃ pages, source.Leads stored pages progress.cursor ∧
      deliveries (front ++ pageEvents request timeout body records after) =
        settled (pages ++ [records]) := by
  obtain ⟨pages, hleads, hdeliveries⟩ := h.underway.delivered
  refine ⟨pages, hleads, ?_⟩
  rw [append_pageEvents, deliveries_concat_save, deliveries_concat_other front rfl rfl, hdeliveries]
  simp [settled]

/-- After a page that another one follows, the sync is between two pages again. -/
theorem Between.turn {body : Json} {records : List Record} {verdict : NextPage}
    {after : Progress} (h : source.Between stored front progress)
    (hfits : source.Fits progress.cursor body records verdict after) (hmore : after.hasMore = true)
    (request : Request) (timeout : Nat) :
    source.Between stored (front ++ pageEvents request timeout body records after.cursor)
      after where
  underway :=
    { delivered := by
        obtain ⟨pages, hleads, hdeliveries⟩ := h.deliveries_commit request timeout
        refine ⟨pages ++ [records], hleads.concat ⟨body, verdict, hfits⟩ hmore, ?_⟩
        rw [hdeliveries]
        simp
      cursor_eq := by rw [append_pageEvents, storedAfter_concat_save]
      offers := by
        intro records hrecords
        cases hrecords
      notFinal := by
        rintro ⟨part, hprefix, hends⟩
        rw [append_pageEvents] at hprefix
        obtain rfl | hprefix := List.prefix_concat_iff.mp hprefix
        · rw [← append_pageEvents, h.endsWithFinalPage_iff hfits, hmore] at hends
          cases hends
        · exact (h.deliver hfits request timeout).notFinal ⟨part, hprefix, hends⟩ }
  loaded := by
    rw [append_pageEvents, loadedCursor?_concat _ rfl, loadedCursor?_concat _ rfl,
      loadedCursor?_concat _ rfl]
    exact h.loaded
  hasMore := hmore

/-- After a page that no other follows, all pages were delivered and committed. -/
theorem Between.finish {body : Json} {records : List Record} {verdict : NextPage}
    {after : Progress} (h : source.Between stored front progress)
    (hfits : source.Fits progress.cursor body records verdict after)
    (hmore : after.hasMore = false) (request : Request) (timeout : Nat) :
    source.Over stored (front ++ pageEvents request timeout body records after.cursor) where
  delivered := by
    obtain ⟨pages, hleads, hdeliveries⟩ := h.deliveries_commit request timeout
    exact ⟨pages ++ [records], hleads.pages (.last ⟨body, verdict, hfits⟩ hmore), hdeliveries⟩
  final := by
    refine ⟨_, List.prefix_rfl, ?_⟩
    rw [h.endsWithFinalPage_iff hfits]
    exact hmore

end Source

open Source (Between Fits Over Underway)

/-- What a session of a source has delivered, by the state that it is in. A
session that is over did all pages, or was told to stop, or failed, or had enough. -/
def Run.Tracks (source : Source) (stored : Option String) (session : Session)
    (trace : List Event) : Run → Prop
  | .loading => trace = []
  | .turning progress _ => source.Between stored trace progress
  | .fetching progress _ fetch =>
      source.Between stored trace progress ∧ source.request progress.cursor = .ok fetch.request
  | .delivering progress _ data found =>
      ∃ front request timeout body,
        trace = front ++ [⟨.send request timeout, .answered (.ok body)⟩] ∧
          source.Between stored front progress ∧ source.Holds progress.cursor body ∧
          data = Response.dataRoot body ∧ found = source.extract data
  | .committing progress next _ =>
      ∃ front request timeout body records verdict,
        trace = front ++ [⟨.send request timeout, .answered (.ok body)⟩] ++
            [⟨.accept records, .accepted (.ok ())⟩] ∧
          source.Between stored front progress ∧
          source.Fits progress.cursor body records verdict next
  | .finished report =>
      source.Over stored trace ∨
        (report.status = .cancelled ∨ session.maxPages ≠ none) ∧
          ∃ cursor pending, source.Underway stored trace cursor pending
  | .aborted _ _ => ∃ cursor pending, source.Underway stored trace cursor pending

variable {source : Source} {stored : Option String} {session : Session} {trace : List Event}
  {event : Event} {run next : Run}

theorem Run.Tracks.move (h : run.Tracks source stored session trace)
    (hmove : Run.Move (source.plan session) run event next)
    (hbegins : Source.BeginsAfter stored (trace ++ [event]))
    (hanswers : source.Answers (trace ++ [event])) :
    next.Tracks source stored session (trace ++ [event]) := by
  cases hmove with
  | loaded cursor =>
      subst h
      obtain rfl : cursor = stored := hbegins cursor rfl
      exact Between.begin source cursor
  | loadFailed e =>
      subst h
      exact ⟨stored, none, (source.underway_nil stored).concat rfl rfl⟩
  | stopped progress tally =>
      exact .inr ⟨.inl rfl, _, _, h.underway.concat rfl rfl⟩
  | capped progress tally henough =>
      refine .inr ⟨.inr ?_, _, _, h.underway.concat rfl rfl⟩
      intro huncapped
      simp [Plan.isEnough, Source.plan, huncapped] at henough
  | unasked progress tally e hmore hrequest => exact ⟨_, _, h.underway.concat rfl rfl⟩
  | asked progress tally request hmore hrequest =>
      refine ⟨h.concat rfl rfl rfl, ?_⟩
      rw [h.progress_eq] at hrequest
      exact hrequest
  | interrupted progress tally fetch =>
      have htaken := Event.taken?_cancelled (fetch.demand (source.plan session).connector.timeout)
      have hsave :=
        Event.committed?_cancelled (fetch.demand (source.plan session).connector.timeout)
      exact .inr ⟨.inl rfl, _, _, h.1.underway.concat htaken hsave⟩
  | retrying progress tally request attempt e hretry => exact ⟨h.1.concat rfl rfl rfl, h.2⟩
  | unanswered progress tally request attempt e hretry => exact ⟨_, _, h.1.underway.concat rfl rfl⟩
  | retried progress tally request attempt delay => exact ⟨h.1.concat rfl rfl rfl, h.2⟩
  | refused progress tally request attempt body e hbody =>
      exact ⟨_, _, h.1.underway.concat rfl rfl⟩
  | received progress tally request attempt body hbody =>
      obtain ⟨hbetween, hrequest⟩ := h
      have hanswer : body = source.answer request :=
        (Source.answers_concat_iff.mp hanswers).2 (request, body) rfl
      exact ⟨trace, request, _, body, rfl, hbetween, ⟨⟨request, hrequest, hanswer.symm⟩, hbody⟩,
        rfl, rfl⟩
  | undelivered progress tally data found e =>
      obtain ⟨front, request, timeout, body, rfl, hbetween, -⟩ := h
      exact ⟨_, _, (hbetween.underway.concat rfl rfl).concat rfl rfl⟩
  | unextracted progress tally data found failure hfailure =>
      obtain ⟨front, request, timeout, body, rfl, hbetween, hholds, rfl, rfl⟩ := h
      exact ⟨_, _, (hbetween.underway.concat rfl rfl).deliver ⟨body, hholds, rfl⟩⟩
  | unpaged progress tally data found e hfound hnext =>
      obtain ⟨front, request, timeout, body, rfl, hbetween, hholds, rfl, rfl⟩ := h
      exact ⟨_, _, (hbetween.underway.concat rfl rfl).deliver ⟨body, hholds, rfl⟩⟩
  | delivered progress tally data found verdict next hfound hnext =>
      obtain ⟨front, request, timeout, body, rfl, hbetween, hholds, rfl, rfl⟩ := h
      refine ⟨front, request, timeout, body, _, verdict, rfl, hbetween, hholds, ?_, ?_⟩
      · rw [← hfound]
      · rw [hbetween.progress_eq] at hnext
        exact hnext
  | unsaved progress next tally e =>
      obtain ⟨front, request, timeout, body, records, verdict, rfl, hbetween, hfits⟩ := h
      exact ⟨_, _, (hbetween.deliver hfits request timeout).concat rfl rfl⟩
  | turned progress next tally hmore =>
      obtain ⟨front, request, timeout, body, records, verdict, rfl, hbetween, hfits⟩ := h
      have hturn := hbetween.turn hfits hmore request timeout
      rwa [Source.append_pageEvents] at hturn
  | completed progress next tally hmore =>
      obtain ⟨front, request, timeout, body, records, verdict, rfl, hbetween, hfits⟩ := h
      have hfinish := hbetween.finish hfits hmore request timeout
      rw [Source.append_pageEvents] at hfinish
      exact .inl hfinish

theorem Run.Reaches.tracks (h : Run.Reaches (source.plan session) trace run)
    (hbegins : Source.BeginsAfter stored trace) (hanswers : source.Answers trace) :
    run.Tracks source stored session trace := by
  induction h with
  | start => rfl
  | move _ hmove ih =>
      have hbefore := (Source.answers_concat_iff.mp hanswers).1
      exact (ih hbegins.of_concat hbefore).move hmove hbegins hanswers

theorem Run.Tracks.underway (h : run.Tracks source stored session trace)
    (hopen : run.result? = none) :
    ∃ cursor pending, source.Underway stored trace cursor pending := by
  cases run with
  | loading =>
      subst h
      exact ⟨stored, none, source.underway_nil stored⟩
  | turning progress tally => exact ⟨_, _, h.underway⟩
  | fetching progress tally fetch => exact ⟨_, _, h.1.underway⟩
  | delivering progress tally data found =>
      obtain ⟨front, request, timeout, body, rfl, hbetween, -⟩ := h
      exact ⟨_, _, hbetween.underway.concat rfl rfl⟩
  | committing progress next tally =>
      obtain ⟨front, request, timeout, body, records, verdict, rfl, hbetween, hfits⟩ := h
      exact ⟨_, _, hbetween.deliver hfits request timeout⟩
  | finished report => cases hopen
  | aborted lastCursor cause => cases hopen

/-- However a session ends, it did all pages, or it is underway. -/
theorem Source.over_or_underway (hbegins : Source.BeginsAfter stored (source.trace session))
    (hanswers : source.Answers (source.trace session)) :
    source.Over stored (source.trace session) ∨
      ∃ cursor pending, source.Underway stored (source.trace session) cursor pending := by
  obtain ⟨run, hreaches⟩ := Run.reaches_events (source.plan session) session.replies
  have htracks : run.Tracks source stored session (source.trace session) :=
    hreaches.tracks hbegins hanswers
  cases hresult : run.result? with
  | none => exact .inr (htracks.underway hresult)
  | some result =>
      cases run with
      | finished report =>
          obtain hover | ⟨-, hunderway⟩ := htracks
          · exact .inl hover
          · exact .inr hunderway
      | aborted lastCursor cause => exact .inr htracks
      | _ => cases hresult

/-- In one session only the page that was delivered last can lack its commit. -/
theorem Source.committed_of_mem_dropLast
    (hbegins : Source.BeginsAfter stored (source.trace session))
    (hanswers : source.Answers (source.trace session)) :
    ∀ delivery ∈ (deliveries (source.trace session)).dropLast, delivery.committed = true := by
  intro delivery hdelivery
  obtain hover | ⟨cursor, pending, hunderway⟩ := Source.over_or_underway hbegins hanswers
  · obtain ⟨pages, -, hdeliveries⟩ := hover.delivered
    rw [hdeliveries] at hdelivery
    exact committed_of_mem_settled (List.dropLast_subset _ hdelivery)
  · obtain ⟨pages, -, hdeliveries⟩ := hunderway.delivered
    rw [hdeliveries] at hdelivery
    cases pending with
    | none =>
        have hmem : delivery ∈ (settled pages).dropLast := by simpa using hdelivery
        exact committed_of_mem_settled (List.dropLast_subset _ hmem)
    | some records =>
        have hmem : delivery ∈ settled pages := by simpa using hdelivery
        exact committed_of_mem_settled hmem

/-- The pages of a session that is underway come before those of the sessions
after it, the first of which may repeat the one that was not committed. -/
theorem Source.Underway.repeats {cursor : Option String} {pending : Option (List Record)}
    {rest : List Delivery} {later : List (List Record)}
    (h : source.Underway stored trace cursor pending) (hpages : source.Pages cursor later)
    (hrest : Repeats rest later) :
    ∃ pages, source.Pages stored pages ∧ Repeats (deliveries trace ++ rest) pages := by
  obtain ⟨pages, hleads, hdeliveries⟩ := h.delivered
  refine ⟨pages ++ later, hleads.pages hpages, ?_⟩
  rw [hdeliveries, List.append_assoc]
  apply Repeats.settled_append
  cases pending with
  | none => exact hrest
  | some records =>
      obtain ⟨others, rfl⟩ := hpages.eq_cons (h.offers records rfl)
      exact .again hrest

/-- Sessions in a row, the last of which does the final page, deliver all pages
from the stored cursor. -/
theorem Source.Resumes.repeats {earlier : List Session} {last : Session}
    (hstore : source.Resumes stored (earlier ++ [last]))
    (hanswers : ∀ session ∈ earlier ++ [last], source.Answers (source.trace session))
    (hearlier : ∀ session ∈ earlier, ¬ source.CommitsFinalPage (source.trace session))
    (hlast : source.CommitsFinalPage (source.trace last)) :
    ∃ pages, source.Pages stored pages ∧ Repeats (source.delivered (earlier ++ [last])) pages := by
  induction earlier generalizing stored with
  | nil =>
      obtain ⟨hbegins, -⟩ := hstore
      obtain hover | ⟨cursor, pending, hunderway⟩ :=
        Source.over_or_underway hbegins (hanswers last (by simp))
      · obtain ⟨pages, hpages, hdeliveries⟩ := hover.delivered
        refine ⟨pages, hpages, ?_⟩
        have hall := Repeats.settled_append .nil pages
        simpa [Source.delivered, hdeliveries] using hall
      · exact absurd hlast hunderway.notFinal
  | cons session rest ih =>
      obtain ⟨hbegins, hrest⟩ := hstore
      obtain hover | ⟨cursor, pending, hunderway⟩ :=
        Source.over_or_underway hbegins (hanswers session (by simp))
      · exact absurd hover.final (hearlier session (by simp))
      · rw [hunderway.cursor_eq] at hrest
        obtain ⟨later, hlater, hrepeats⟩ := ih hrest
          (fun other hother => hanswers other (.tail _ hother))
          (fun other hother => hearlier other (.tail _ hother))
        exact hunderway.repeats hlater hrepeats

theorem Source.Uninterrupted.over (h : source.Uninterrupted stored session) :
    source.Over stored (source.trace session) := by
  obtain ⟨report, hstatus, hfeed⟩ := h.completes
  obtain hover | ⟨hstopped, -⟩ := (Run.reaches_of_feed? hfeed).tracks h.begins h.answers
  · exact hover
  · obtain hcancelled | hcapped := hstopped
    · rw [hstatus] at hcancelled
      cases hcancelled
    · exact absurd h.uncapped hcapped

theorem Source.Uninterrupted.takenPages_eq {pages : List (List Record)}
    (h : source.Uninterrupted stored session) (hpages : source.Pages stored pages) :
    takenPages (source.trace session) = pages := by
  obtain ⟨others, hothers, hdeliveries⟩ := h.over.delivered
  have hsame : others = pages := hothers.unique hpages
  rw [← map_deliveries, hdeliveries, hsame]
  simp [settled, Function.comp_def]

/-- A session that loads the stored cursor and hears nothing but the answers that
the source has. -/
structure Source.Smooth (source : Source) (stored : Option String) (trace : List Event)
    (run : Run) : Prop where
  reaches : Run.Reaches (source.plan { replies := [] }) trace run
  begins : Source.BeginsAfter stored trace
  answers : source.Answers trace

theorem Source.Smooth.move (h : source.Smooth stored trace run)
    (hmove : Run.Move (source.plan { replies := [] }) run event next)
    (hload : event.loaded? = none)
    (hanswer : ∀ answer ∈ event.answer?, answer.2 = source.answer answer.1) :
    source.Smooth stored (trace ++ [event]) next where
  reaches := h.reaches.move hmove
  begins := h.begins.concat hload
  answers := Source.answers_concat_iff.mpr ⟨h.answers, hanswer⟩

theorem Source.Fits.smooth {cursor : Option String} {body : Json} {records : List Record}
    {verdict : NextPage} {after : Progress} {tally : Tally}
    (hfits : source.Fits cursor body records verdict after)
    (h : source.Smooth stored trace (.turning (.startingAt cursor) tally)) :
    ∃ longer counted,
      source.Smooth stored longer (.committing (.startingAt cursor) after counted) := by
  obtain ⟨request, hrequest, hanswer⟩ := hfits.holds.asked
  have hasked := h.move (.asked _ tally request rfl hrequest) rfl nofun
  have hreceived :=
    hasked.move (.received _ tally request 1 body hfits.holds.noErrors) rfl (by
      rintro _ ⟨⟩
      exact hanswer.symm)
  have hfound : (source.extract (Response.dataRoot body)).failures = [] := by
    rw [hfits.extract_eq]
  have hdelivered :=
    hreceived.move (.delivered _ _ _ _ verdict after hfound hfits.next_eq) rfl nofun
  exact ⟨_, _, hdelivered⟩

/-- From any cursor on, a session goes through all pages that there are. -/
theorem Source.Pages.smooth {cursor : Option String} {pages : List (List Record)} {tally : Tally}
    (hpages : source.Pages cursor pages)
    (h : source.Smooth stored trace (.turning (.startingAt cursor) tally)) :
    ∃ longer report, report.status = .completed ∧
      source.Smooth stored longer (.finished report) := by
  induction hpages generalizing trace tally with
  | last hserves hmore =>
      obtain ⟨body, verdict, hfits⟩ := hserves
      obtain ⟨longer, counted, hcommitting⟩ := hfits.smooth h
      have hdone := hcommitting.move (.completed _ _ counted hmore) rfl nofun
      exact ⟨_, _, rfl, hdone⟩
  | @more cursor records after pages hserves hmore hrest ih =>
      obtain ⟨body, verdict, hfits⟩ := hserves
      obtain ⟨longer, counted, hcommitting⟩ := hfits.smooth h
      have hturned := hcommitting.move (.turned _ _ counted hmore) rfl nofun
      have hafter : after = .startingAt after.cursor := by
        obtain ⟨cursor, hasMore⟩ := after
        cases hmore
        rfl
      rw [hafter] at hturned
      exact ih hturned

theorem Source.Pages.exists_uninterrupted {pages : List (List Record)}
    (hpages : source.Pages stored pages) : ∃ whole, source.Uninterrupted stored whole := by
  have hstart : source.Smooth stored ([] ++ [⟨.load, .loaded (.ok stored)⟩])
      (.turning (.startingAt stored) {}) :=
    { reaches := .move .start (.loaded stored)
      begins := by
        intro cursor hcursor
        cases hcursor
        rfl
      answers := nofun }
  obtain ⟨trace, report, hstatus, hreaches, hbegins, hanswers⟩ := hpages.smooth hstart
  obtain ⟨hfeed, hevents⟩ := hreaches.hears
  have htrace : source.trace { replies := trace.map Event.reply } = trace := hevents
  refine ⟨{ replies := trace.map Event.reply }, rfl, ?_, ?_, report, hstatus, hfeed⟩
  · rw [htrace]
    exact hbegins
  · rw [htrace]
    exact hanswers

/-- Sessions share a store and stop in any way, but for the last one, which does
the final page. Then an uninterrupted session exists from the cursor stored at
first, and its pages are those that were delivered, in order. A page is repeated
only if it was the last of a session and not committed there, and then right
after; where this did not happen, every page is delivered once. -/
theorem resumed_sessions_deliver_each_page {earlier : List Session} {last : Session}
    (hstore : source.Resumes stored (earlier ++ [last]))
    (hanswers : ∀ session ∈ earlier ++ [last], source.Answers (source.trace session))
    (hearlier : ∀ session ∈ earlier, ¬ source.CommitsFinalPage (source.trace session))
    (hlast : source.CommitsFinalPage (source.trace last)) :
    (∃ whole, source.Uninterrupted stored whole) ∧
      (∀ session ∈ earlier ++ [last],
        ∀ delivery ∈ (deliveries (source.trace session)).dropLast, delivery.committed = true) ∧
      ∀ whole, source.Uninterrupted stored whole →
        Repeats (source.delivered (earlier ++ [last])) (takenPages (source.trace whole)) ∧
          ((∀ delivery ∈ source.delivered (earlier ++ [last]), delivery.committed = true) →
            source.taken (earlier ++ [last]) = takenPages (source.trace whole)) := by
  obtain ⟨pages, hpages, hrepeats⟩ := hstore.repeats hanswers hearlier hlast
  refine ⟨hpages.exists_uninterrupted, ?_, ?_⟩
  · intro session hsession
    obtain ⟨cursor, hbegins⟩ := hstore.begins session hsession
    exact Source.committed_of_mem_dropLast hbegins (hanswers session hsession)
  · intro whole hwhole
    have htaken : takenPages (source.trace whole) = pages := hwhole.takenPages_eq hpages
    rw [htaken]
    refine ⟨hrepeats, ?_⟩
    intro hcommitted
    rw [← Source.map_delivered]
    exact hrepeats.map_eq hcommitted

namespace Sample

def twoPages : Source where
  connector := connector
  policy := .strict
  answer request :=
    match connector.request (connector.variablesAfter none) with
    | .ok first => if request = first then page "1" "a" true else page "2" "b" false
    | .error _ => page "2" "b" false

/-- Heard of no more after the second page was taken over. -/
def lost : Session where
  replies :=
    [.loaded (.ok none), .granted, .answered (.ok (page "1" "a" true)), .accepted (.ok ()),
      .saved (.ok ()), .granted, .answered (.ok (page "2" "b" false)), .accepted (.ok ())]

def resumed : Session where
  replies :=
    [.loaded (.ok (some "a")), .granted, .answered (.ok (page "2" "b" false)), .accepted (.ok ()),
      .saved (.ok ())]

end Sample

/-- The second page is delivered again, as it was not committed before. -/
theorem lost_page_is_delivered_again :
    (Sample.twoPages.delivered ([Sample.lost] ++ [Sample.resumed])).map Delivery.committed =
        [true, false, true] ∧
      (∃ whole, Sample.twoPages.Uninterrupted none whole) ∧
      (∀ session ∈ [Sample.lost] ++ [Sample.resumed],
        ∀ delivery ∈ (deliveries (Sample.twoPages.trace session)).dropLast,
          delivery.committed = true) ∧
      ∀ whole, Sample.twoPages.Uninterrupted none whole →
        Repeats (Sample.twoPages.delivered ([Sample.lost] ++ [Sample.resumed]))
            (takenPages (Sample.twoPages.trace whole)) ∧
          ((∀ delivery ∈ Sample.twoPages.delivered ([Sample.lost] ++ [Sample.resumed]),
              delivery.committed = true) →
            Sample.twoPages.taken ([Sample.lost] ++ [Sample.resumed]) =
              takenPages (Sample.twoPages.trace whole)) := by
  have hlost : Sample.twoPages.Answers (Sample.twoPages.trace Sample.lost) := by
    unfold Source.Answers
    decide
  have hresumed : Sample.twoPages.Answers (Sample.twoPages.trace Sample.resumed) := by
    unfold Source.Answers
    decide
  have hstore : Sample.twoPages.Resumes none ([Sample.lost] ++ [Sample.resumed]) := by
    refine ⟨?_, ?_, trivial⟩
    · unfold Source.BeginsAfter
      decide
    · unfold Source.BeginsAfter
      decide
  have hlast : Sample.twoPages.CommitsFinalPage (Sample.twoPages.trace Sample.resumed) :=
    ⟨_, List.prefix_rfl, (Sample.twoPages.trace Sample.resumed).take 2, _, _, _, _, _,
      ⟨some "b", false⟩, rfl, rfl⟩
  have hearlier : ¬ Sample.twoPages.CommitsFinalPage (Sample.twoPages.trace Sample.lost) := by
    obtain ⟨run, hfeed, hopen⟩ : ∃ run,
        Run.loading.feed? (Sample.twoPages.plan Sample.lost) Sample.lost.replies = some run ∧
          run.result? = none := ⟨_, rfl, rfl⟩
    have htracks := (Run.reaches_of_feed? hfeed).tracks hstore.1 hlost
    obtain ⟨cursor, pending, hunderway⟩ := htracks.underway hopen
    exact hunderway.notFinal
  refine ⟨by decide, resumed_sessions_deliver_each_page hstore ?_ ?_ hlast⟩
  · intro session hsession
    obtain rfl | rfl : session = Sample.lost ∨ session = Sample.resumed := by
      simpa using hsession
    · exact hlost
    · exact hresumed
  · intro session hsession
    obtain rfl := List.mem_singleton.mp hsession
    exact hearlier

end PageHarvest.Sync
