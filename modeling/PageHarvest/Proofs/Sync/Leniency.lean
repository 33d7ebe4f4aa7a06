import PageHarvest.Proofs.Extraction
import PageHarvest.Proofs.Http.Failures
import PageHarvest.Proofs.Paging
import PageHarvest.Proofs.Sync.Bounds

/-!
What it changes to leave malformed elements out. A strict sync that ends without
an error met none, so a lenient one in the same world does the same, event by
event. And a lenient sync never finds fault with an element: an error about one
can only have been told to it.
-/

namespace PageHarvest.Sync

def Plan.under (plan : Plan) (policy : ExtractPolicy) : Plan := { plan with policy }

def Reply.failure? : Reply → Option Error
  | .loaded (.error e) | .answered (.error e) | .accepted (.error e) | .saved (.error e) => some e
  | _ => none

namespace Run

variable {plan : Plan} {run next : Run} {trace : List Event} {event : Event}

/-- Nothing has gone wrong yet, and no path of the page at hand has failed. -/
def Clean : Run → Prop
  | .delivering _ _ _ found => found.failures = []
  | .aborted _ _ => False
  | _ => True

theorem Move.clean (hmove : Move plan run event next) (hclean : next.Clean) : run.Clean := by
  cases hmove with
  | delivered progress tally data found verdict next hfound hnext => exact hfound
  | undelivered | unextracted | unpaged => exact hclean.elim
  | _ => trivial

/-- A strict move that leaves nothing wrong is a move under any policy. -/
theorem Move.of_strict (hmove : Move (plan.under .strict) run event next) (hclean : next.Clean)
    (policy : ExtractPolicy) : Move (plan.under policy) run event next := by
  cases hmove with
  | received progress tally request attempt body hbody =>
      -- No other move depends on the policy.
      have hsame : (plan.under policy).extract (Response.dataRoot body) =
          (plan.under .strict).extract (Response.dataRoot body) :=
        extractPage_of_strict hclean policy
      rw [← hsame]
      exact .received progress tally request attempt body hbody
  | loadFailed | unasked | unanswered | refused | undelivered | unextracted | unpaged | unsaved =>
      exact hclean.elim
  | _ => constructor <;> assumption

end Run

namespace World

variable (world : World) (plan : Plan)

theorem course_of_strict (policy : ExtractPolicy) (moves : Nat)
    (hclean : (world.course (plan.under .strict) moves).1.Clean) :
    world.course (plan.under policy) moves = world.course (plan.under .strict) moves := by
  induction moves with
  | zero => rfl
  | succ moves ih =>
      cases hdemand : (world.course (plan.under .strict) moves).1.demand (plan.under .strict) with
      | none =>
          rw [world.course_succ_of_over hdemand] at hclean ⊢
          have hsame := ih hclean
          have hover : (world.course (plan.under policy) moves).1.demand (plan.under policy) =
              none := by
            rw [hsame]
            exact hdemand
          rw [world.course_succ_of_over hover, hsame]
      | some demand =>
          obtain ⟨event, next, hmove, hreply, hnext⟩ := world.course_succ hdemand
          rw [hnext] at hclean ⊢
          have hsame := ih (hmove.clean hclean)
          rw [← hsame] at hmove hreply ⊢
          exact world.course_succ_of_move (hmove.of_strict hclean policy) hreply

end World

namespace Run

variable {plan : Plan} {run next : Run} {trace : List Event} {event : Event}

/-- An error about an element is one that the sync was told. -/
def Told (trace : List Event) : Run → Prop
  | .delivering _ _ _ found => found.failures = []
  | .aborted _ cause =>
      cause.category = .extraction → ∃ event ∈ trace, event.reply.failure? = some cause
  | _ => True

theorem told_by_reply {lastCursor : Option String} {cause : Error}
    (hfailure : event.reply.failure? = some cause) :
    (aborted lastCursor cause).Told (trace ++ [event]) :=
  fun _ => ⟨event, by simp, hfailure⟩

theorem Told.move (h : run.Told trace) (hmove : Move (plan.under .skipMalformed) run event next) :
    next.Told (trace ++ [event]) := by
  cases hmove with
  | loadFailed | unanswered | undelivered | unsaved => exact told_by_reply rfl
  | unasked progress tally e hmore hrequest =>
      intro hcategory
      rcases Connector.request_error_category hrequest with hauth | hconfig
      · rw [hauth] at hcategory
        cases hcategory
      · rw [hconfig] at hcategory
        cases hcategory
  | refused progress tally request attempt body e hbody =>
      intro hcategory
      obtain ⟨message, rfl⟩ := Response.checkErrors_error hbody
      cases hcategory
  | received progress tally request attempt body hbody =>
      exact extractPage_skipMalformed_failures _ _
  | unextracted progress tally data found failure hfailure =>
      rw [show found.failures = [] from h] at hfailure
      cases hfailure
  | unpaged progress tally data found e hfound hnext =>
      intro hcategory
      rw [Pagination.next_error_category hnext] at hcategory
      cases hcategory
  | _ => trivial

theorem Reaches.told (h : Reaches (plan.under .skipMalformed) trace run) : run.Told trace := by
  induction h with
  | start => trivial
  | move _ hmove ih => exact ih.move hmove

end Run

/-- Where the strict sync ends without an error, the lenient one does the same in
the same world and gives the same report. An error about an element is never one
that the lenient sync came to by itself. -/
theorem leniency_is_conservative (world : World) (plan : Plan) :
    (∀ moves report,
        (world.course (plan.under .strict) moves).1.result? = some (.ok report) →
        world.course (plan.under .skipMalformed) moves =
          world.course (plan.under .strict) moves) ∧
      ∀ moves e,
        (world.course (plan.under .skipMalformed) moves).1.result? = some (.error e) →
        e.category = .extraction →
        ∃ lastCursor cause, e = .aborted lastCursor cause ∧
          ∃ event ∈ (world.course (plan.under .skipMalformed) moves).2,
            event.reply.failure? = some cause := by
  constructor
  · intro moves report hresult
    apply world.course_of_strict
    cases hrun : (world.course (plan.under .strict) moves).1 with
    | finished other => trivial
    | _ =>
        rw [hrun] at hresult
        cases hresult
  · intro moves e hresult hcategory
    have htold := (world.reaches_course (plan.under .skipMalformed) moves).told
    cases hrun : (world.course (plan.under .skipMalformed) moves).1 with
    | aborted lastCursor cause =>
        rw [hrun] at hresult htold
        cases hresult
        exact ⟨lastCursor, cause, rfl, htold hcategory⟩
    | _ =>
        rw [hrun] at hresult
        cases hresult

/-- In this world the receiver refuses every page because of an element in it. -/
def Sample.picky : World where
  reply trace demand :=
    match demand with
    | .accept _ => .accepted (.error (.malformedElement "users.nodes" 0))
    | demand => Sample.endless.reply trace demand
  fits trace demand := by
    cases demand with
    | accept records => trivial
    | _ => exact Sample.endless.fits trace _

theorem clean_pages_are_read_alike :
    Sample.endless.course (Sample.twoPagesAtMost.under .skipMalformed) 10 =
        Sample.endless.course (Sample.twoPagesAtMost.under .strict) 10 ∧
      ∃ event ∈ (Sample.picky.course (Sample.twoPagesAtMost.under .skipMalformed) 4).2,
        event.reply.failure? = some (.malformedElement "users.nodes" 0) := by
  have hstrict : (Sample.endless.course (Sample.twoPagesAtMost.under .strict) 10).1.result? =
      some (.ok ⟨.completed, some "6",
        { pages := 2, records := 2, attempts := 2, retries := 0 }⟩) := by rfl
  have hlenient : (Sample.picky.course (Sample.twoPagesAtMost.under .skipMalformed) 4).1.result? =
      some (.error (.aborted none (.malformedElement "users.nodes" 0))) := by rfl
  refine ⟨(leniency_is_conservative Sample.endless Sample.twoPagesAtMost).1 10 _ hstrict, ?_⟩
  obtain ⟨lastCursor, cause, hcause, hevent⟩ :=
    (leniency_is_conservative Sample.picky Sample.twoPagesAtMost).2 4 _ hlenient rfl
  cases hcause
  exact hevent

end PageHarvest.Sync
