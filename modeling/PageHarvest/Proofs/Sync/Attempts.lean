import Mathlib.Data.Nat.Find
import Mathlib.Order.Bounds.Basic
import PageHarvest.Proofs.Retry
import PageHarvest.Proofs.Sync.FirstPage

/-!
The attempts at one page, as long as nobody tells the sync to stop. The same request
is sent until an outcome settles the page: a body, an error that sending again would
not mend, or whatever comes of the last attempt that the policy allows. Before each
further attempt the delay is waited that the policy sets for the error. A sync and a
check both fetch their pages in this way, so what follows is shown for any machine
that has fetching as a part.
-/

namespace PageHarvest.Sync

/-- No further attempt is made after this outcome of an attempt. -/
def Settles (policy : RetryPolicy) (outcome : Except Error Json) (attempt : Nat) : Prop :=
  (∃ body, outcome = .ok body) ∨
    (∃ e, outcome = .error e ∧ e.isRetryable = false) ∨
    attempt = policy.mostAttempts

/-- The attempts whose outcome would settle the page. -/
def settling (policy : RetryPolicy) (outcomes : Nat → Except Error Json) : Set Nat :=
  {attempt | 1 ≤ attempt ∧ Settles policy (outcomes attempt) attempt}

section Settling

variable {policy : RetryPolicy} {outcomes : Nat → Except Error Json} {last attempt : Nat}
  {e : Error}

theorem settles_error_iff :
    Settles policy (.error e) attempt ↔
      e.isRetryable = false ∨ attempt = policy.mostAttempts := by
  simp [Settles]

theorem mostAttempts_mem_settling (policy : RetryPolicy) (outcomes : Nat → Except Error Json) :
    policy.mostAttempts ∈ settling policy outcomes :=
  ⟨Nat.le_max_left 1 _, .inr (.inr rfl)⟩

theorem exists_isLeast_settling (policy : RetryPolicy) (outcomes : Nat → Except Error Json) :
    ∃ last, IsLeast (settling policy outcomes) last := by
  classical
  have hsome : ∃ attempt, attempt ∈ settling policy outcomes :=
    ⟨_, mostAttempts_mem_settling policy outcomes⟩
  exact ⟨Nat.find hsome, Nat.find_spec hsome, fun _ hmem => Nat.find_min' hsome hmem⟩

/-- Before the last attempt all fail, and each is followed by another one. -/
theorem retried_before_last (hlast : IsLeast (settling policy outcomes) last)
    (hfirst : 1 ≤ attempt) (hbefore : attempt < last) :
    ∃ e, outcomes attempt = .error e ∧ policy.shouldRetry e attempt = true := by
  have hopen : ¬ Settles policy (outcomes attempt) attempt :=
    fun hsettles => Nat.not_le.mpr hbefore (hlast.2 ⟨hfirst, hsettles⟩)
  have hle : last ≤ policy.mostAttempts := hlast.2 (mostAttempts_mem_settling policy outcomes)
  cases houtcome : outcomes attempt with
  | ok body => exact absurd (.inl ⟨body, houtcome⟩) hopen
  | error e =>
      rw [houtcome, settles_error_iff, not_or, Bool.not_eq_false] at hopen
      obtain ⟨hretryable, hmost⟩ := hopen
      refine ⟨e, rfl, ?_⟩
      simp only [RetryPolicy.shouldRetry, hretryable, Bool.and_true, decide_eq_true_eq]
      simp only [RetryPolicy.mostAttempts] at hle hmost
      omega

theorem unanswered_of_settles (hsettles : Settles policy (.error e) attempt) :
    policy.shouldRetry e attempt = false := by
  rcases settles_error_iff.mp hsettles with hfinal | rfl
  · simp [RetryPolicy.shouldRetry, hfinal]
  · have hmost : policy.maxAttempts.toNat ≤ policy.mostAttempts := Nat.le_max_right 1 _
    have hpassed : ¬ policy.mostAttempts < policy.maxAttempts.toNat := Nat.not_lt.mpr hmost
    simp [RetryPolicy.shouldRetry, hpassed]

end Settling

def FetchStep.ofOutcome : Except Error Json → FetchStep
  | .ok page => .body page
  | .error e => .failed e

def pauseAfter (policy : RetryPolicy) (attempt : Nat) : Except Error Json → Duration
  | .ok _ => 0
  | .error e => policy.delayFor e attempt

theorem pauseAfter_le_cap (policy : RetryPolicy) (attempt : Nat) (outcome : Except Error Json) :
    pauseAfter policy attempt outcome ≤ policy.cap := by
  cases outcome with
  | ok body => exact Nat.zero_le _
  | error e => exact policy.delayFor_le_cap e attempt

def waited (trace : List Event) : Duration :=
  (trace.map fun event => match event.demand with | .wait delay => delay | _ => 0).sum

section Exchange

variable (plan : Plan) (request : Request) (outcomes : Nat → Except Error Json)

def attemptEvent (attempt : Nat) : Event :=
  ⟨.send request plan.connector.timeout, .answered (outcomes attempt)⟩

def pauseEvent (attempt : Nat) : Event :=
  ⟨.wait (pauseAfter plan.retry attempt (outcomes attempt)), .elapsed⟩

def failures (first count : Nat) : List Event :=
  (List.range' first count).flatMap fun attempt =>
    [attemptEvent plan request outcomes attempt, pauseEvent plan outcomes attempt]

def exchange (last : Nat) : List Event :=
  failures plan request outcomes 1 (last - 1) ++ [attemptEvent plan request outcomes last]

theorem failures_succ (first count : Nat) :
    failures plan request outcomes first (count + 1) =
      attemptEvent plan request outcomes first :: pauseEvent plan outcomes first ::
        failures plan request outcomes (first + 1) count := by
  simp [failures, List.range'_succ]

theorem sends_failures (first count : Nat) :
    sends (failures plan request outcomes first count) = count := by
  induction count generalizing first with
  | zero => rfl
  | succ count ih =>
      have hrest := ih (first + 1)
      rw [failures_succ, sends, List.countP_cons_of_pos rfl,
        List.countP_cons_of_neg Bool.false_ne_true]
      rw [sends] at hrest
      rw [hrest]

theorem sends_exchange {last : Nat} (hlast : 1 ≤ last) :
    sends (exchange plan request outcomes last) = last := by
  have hfailures := sends_failures plan request outcomes 1 (last - 1)
  rw [exchange, attemptEvent, sends_concat_send, hfailures]
  omega

theorem waited_failures_le (first count : Nat) :
    waited (failures plan request outcomes first count) ≤ count * plan.retry.cap := by
  induction count generalizing first with
  | zero => exact Nat.zero_le _
  | succ count ih =>
      have hrest := ih (first + 1)
      have hpause := pauseAfter_le_cap plan.retry first (outcomes first)
      simp only [waited, failures_succ, List.map_cons, List.sum_cons] at hrest ⊢
      simp only [attemptEvent, pauseEvent, Nat.zero_add, Nat.succ_mul]
      rw [Nat.add_comm]
      exact Nat.add_le_add hrest hpause

theorem waited_exchange_le (last : Nat) :
    waited (exchange plan request outcomes last) ≤ (last - 1) * plan.retry.cap := by
  have hfailures := waited_failures_le plan request outcomes 1 (last - 1)
  simpa [exchange, waited, attemptEvent] using hfailures

end Exchange

/-- The server gives the outcomes of the attempts one after the other, and nobody
tells the sync to stop. -/
def World.serving (outcomes : Nat → Except Error Json) : World :=
  .calm fun sent => outcomes (sent + 1)

/-- A machine fetches where it has a fetch in hand, and goes on with what comes of
it. -/
structure Fetches {σ : Type} (demand : σ → Option Demand) (step? : σ → Reply → Option σ)
    (plan : Plan) (fetching : Fetch → σ) (goOn : Fetch → FetchStep → σ) : Prop where
  demand_eq : ∀ fetch, demand (fetching fetch) = some (fetch.demand plan.connector.timeout)
  step?_eq : ∀ fetch reply,
    step? (fetching fetch) reply = (fetch.step? plan.retry reply).map (goOn fetch)
  goOn_ongoing : ∀ fetch next, goOn fetch (.ongoing next) = fetching next

theorem serving_attempt {plan : Plan} {request : Request} {outcomes : Nat → Except Error Json}
    {trace : List Event} {attempt : Nat} (hsent : sends trace + 1 = attempt) :
    (World.serving outcomes).reply trace (attemptEvent plan request outcomes attempt).demand =
      (attemptEvent plan request outcomes attempt).reply := by
  subst hsent
  rfl

theorem World.converse_step (world : World) {σ : Type} {demand : σ → Option Demand}
    {step? : σ → Reply → Option σ} {state next : σ} {trace : List Event} {event : Event}
    (hdemand : demand state = some event.demand)
    (hreply : world.reply trace event.demand = event.reply)
    (hstep : step? state event.reply = some next) (moves : Nat) :
    converse demand step? world.reply? (moves + 1) state trace =
      converse demand step? world.reply? moves next (trace ++ [event]) := by
  rw [converse]
  simp only [hdemand, Option.bind_some, World.reply?, hreply, hstep]

namespace Fetches

variable {σ : Type} {demand : σ → Option Demand} {step? : σ → Reply → Option σ} {plan : Plan}
  {fetching : Fetch → σ} {goOn : Fetch → FetchStep → σ} {outcomes : Nat → Except Error Json}

/-- An attempt that is followed by another one leaves nothing behind but the trace. -/
theorem converse_retried (h : Fetches demand step? plan fetching goOn) (request : Request)
    {attempt : Nat} {trace : List Event} {e : Error} (hsent : sends trace + 1 = attempt)
    (houtcome : outcomes attempt = .error e) (hretry : plan.retry.shouldRetry e attempt = true)
    (moves : Nat) :
    converse demand step? (World.serving outcomes).reply? (moves + 2)
        (fetching (.sending request attempt)) trace =
      converse demand step? (World.serving outcomes).reply? moves
        (fetching (.sending request (attempt + 1)))
        (trace ++ [attemptEvent plan request outcomes attempt] ++
          [pauseEvent plan outcomes attempt]) := by
  have hpause : pauseEvent plan outcomes attempt =
      ⟨.wait (plan.retry.delayFor e attempt), .elapsed⟩ := by
    rw [pauseEvent, houtcome, pauseAfter]
  have hfailed : step? (fetching (.sending request attempt))
      (attemptEvent plan request outcomes attempt).reply =
        some (fetching (.waiting request attempt (plan.retry.delayFor e attempt))) := by
    rw [h.step?_eq, attemptEvent, houtcome, Fetch.step?_retried request hretry, Option.map_some,
      h.goOn_ongoing]
  have helapsed : step? (fetching (.waiting request attempt (plan.retry.delayFor e attempt)))
      (pauseEvent plan outcomes attempt).reply =
        some (fetching (.sending request (attempt + 1))) := by
    rw [h.step?_eq]
    exact congrArg some (h.goOn_ongoing _ _)
  rw [(World.serving outcomes).converse_step (h.demand_eq _) (serving_attempt hsent) hfailed,
    (World.serving outcomes).converse_step (by rw [hpause]; exact h.demand_eq _) rfl helapsed]

-- The sends before the trace count as attempts already, so the induction has to be
-- over the first attempt and the trace as well.
theorem converse_failures (h : Fetches demand step? plan fetching goOn) (request : Request)
    {first count : Nat} {trace : List Event} (hsent : sends trace + 1 = first)
    (hretried : ∀ attempt, first ≤ attempt → attempt < first + count →
      ∃ e, outcomes attempt = .error e ∧ plan.retry.shouldRetry e attempt = true)
    (moves : Nat) :
    converse demand step? (World.serving outcomes).reply? (moves + 2 * count)
        (fetching (.sending request first)) trace =
      converse demand step? (World.serving outcomes).reply? moves
        (fetching (.sending request (first + count)))
        (trace ++ failures plan request outcomes first count) := by
  induction count generalizing first trace with
  | zero => simp [failures]
  | succ count ih =>
      obtain ⟨e, houtcome, hretry⟩ := hretried first (Nat.le_refl first) (by omega)
      have hnext : sends (trace ++ [attemptEvent plan request outcomes first] ++
          [pauseEvent plan outcomes first]) + 1 = first + 1 := by
        rw [sends_concat _ rfl, attemptEvent, sends_concat_send, hsent]
      have hrest := ih hnext fun attempt hle hlt => hretried attempt (by omega) (by omega)
      have hend : first + 1 + count = first + (count + 1) := by omega
      rw [Nat.mul_succ, ← Nat.add_assoc, h.converse_retried request hsent houtcome hretry, hrest,
        hend, failures_succ, List.append_assoc, List.append_assoc]
      rfl

/-- Whoever begins to fetch a page goes on with the outcome of the last attempt,
and in between there was nothing but the attempts and their pauses. -/
theorem converse_exchange (h : Fetches demand step? plan fetching goOn) (request : Request)
    {last : Nat} {trace : List Event} (hsent : sends trace = 0)
    (hlast : IsLeast (settling plan.retry outcomes) last) :
    converse demand step? (World.serving outcomes).reply? (2 * last - 1)
        (fetching (.start request)) trace =
      (goOn (.sending request last) (.ofOutcome (outcomes last)),
        trace ++ exchange plan request outcomes last) := by
  obtain ⟨hfirst, hsettles⟩ := hlast.1
  have hmoves : 2 * last - 1 = 1 + 2 * (last - 1) := by omega
  have hend : 1 + (last - 1) = last := by omega
  have hretried : ∀ attempt, 1 ≤ attempt → attempt < 1 + (last - 1) →
      ∃ e, outcomes attempt = .error e ∧ plan.retry.shouldRetry e attempt = true :=
    fun attempt hle hlt => retried_before_last hlast hle (by omega)
  have hbefore := h.converse_failures request (congrArg (· + 1) hsent) hretried 1
  have hreached : sends (trace ++ failures plan request outcomes 1 (last - 1)) + 1 = last := by
    have hfailures := sends_failures plan request outcomes 1 (last - 1)
    rw [sends] at hsent hfailures
    rw [sends, List.countP_append, hsent, hfailures]
    omega
  -- The last outcome ends the fetch, be it a body or an error.
  have hsettled : step? (fetching (.sending request last))
      (attemptEvent plan request outcomes last).reply =
        some (goOn (.sending request last) (.ofOutcome (outcomes last))) := by
    rw [h.step?_eq, attemptEvent]
    cases houtcome : outcomes last with
    | ok body => rfl
    | error e =>
        rw [houtcome] at hsettles
        rw [Fetch.step?_unanswered request (unanswered_of_settles hsettles)]
        rfl
  rw [hmoves, Fetch.start, hbefore, hend,
    (World.serving outcomes).converse_step (h.demand_eq _) (serving_attempt hreached) hsettled,
    converse, exchange, List.append_assoc]

end Fetches

theorem Run.fetches (plan : Plan) (progress : Progress) (tally : Tally) :
    Fetches (Run.demand plan) (Run.step? plan) plan (.fetching progress tally)
      (Run.fetched plan progress tally) where
  demand_eq _ := rfl
  step?_eq _ _ := rfl
  goOn_ongoing _ _ := rfl

theorem Check.fetches (plan : Plan) :
    Fetches (Check.demand plan) (Check.step? plan) plan .fetching
      fun _ step => Check.fetched plan step where
  demand_eq _ := rfl
  step?_eq _ _ := rfl
  goOn_ongoing _ _ := rfl

/-- How far a sync is that begins a page, after a number of moves, and what
happened since then. -/
def pageCourse (plan : Plan) (outcomes : Nat → Except Error Json) (progress : Progress)
    (tally : Tally) (moves : Nat) : Run × List Event :=
  converse (Run.demand plan) (Run.step? plan) (World.serving outcomes).reply? moves
    (.turning progress tally) []

section Pages

variable {plan : Plan} {outcomes : Nat → Except Error Json} {progress : Progress} {tally : Tally}
  {request : Request} {last : Nat} {e : Error}

theorem pageCourse_succ (moves : Nat) :
    pageCourse plan outcomes progress tally (moves + 1) =
      converse (Run.demand plan) (Run.step? plan) (World.serving outcomes).reply? moves
        (Run.beginPage plan progress tally) [⟨.proceed, .granted⟩] := by
  have hdemand : (Run.turning progress tally).demand plan =
      some (Event.mk .proceed .granted).demand := rfl
  exact (World.serving outcomes).converse_step hdemand rfl rfl moves

theorem pageCourse_of_request (hmore : plan.isEnough tally.pages = false)
    (hrequest : plan.request progress = .ok request)
    (hlast : IsLeast (settling plan.retry outcomes) last) :
    pageCourse plan outcomes progress tally (2 * last) =
      (Run.fetched plan progress tally (.sending request last) (.ofOutcome (outcomes last)),
        ⟨.proceed, .granted⟩ :: exchange plan request outcomes last) := by
  have hpositive : 1 ≤ last := hlast.1.1
  have hmoves : 2 * last = 2 * last - 1 + 1 := by omega
  have hbegin : Run.beginPage plan progress tally = .fetching progress tally (.start request) := by
    simp [Run.beginPage, hmore, hrequest]
  rw [hmoves, pageCourse_succ, hbegin,
    (Run.fetches plan progress tally).converse_exchange request rfl hlast]
  rfl

theorem pageCourse_of_request_error (hmore : plan.isEnough tally.pages = false)
    (hrequest : plan.request progress = .error e) (moves : Nat) :
    pageCourse plan outcomes progress tally (moves + 1) =
      (.aborted progress.cursor e, [⟨.proceed, .granted⟩]) := by
  have hbegin : Run.beginPage plan progress tally = .aborted progress.cursor e := by
    simp [Run.beginPage, hmore, hrequest]
  rw [pageCourse_succ, hbegin]
  cases moves <;> rfl

theorem checkCourse_of_request (hrequest : plan.request Check.progress = .ok request)
    (hlast : IsLeast (settling plan.retry outcomes) last) {moves : Nat}
    (hmoves : 2 * last - 1 ≤ moves) :
    (World.serving outcomes).checkCourse plan moves =
      (Check.fetched plan (.ofOutcome (outcomes last)), exchange plan request outcomes last) := by
  have hcourse : (World.serving outcomes).checkCourse plan (2 * last - 1) =
      (Check.fetched plan (.ofOutcome (outcomes last)), exchange plan request outcomes last) := by
    rw [World.checkCourse, Check.start_of_request hrequest,
      (Check.fetches plan).converse_exchange request rfl hlast, List.nil_append]
  have hover : ((World.serving outcomes).checkCourse plan (2 * last - 1)).1.demand plan = none := by
    rw [hcourse]
    cases outcomes last with
    | error e => rfl
    | ok body =>
        simp only [FetchStep.ofOutcome, Check.fetched]
        cases Check.judge plan body <;> rfl
  rw [(World.serving outcomes).checkCourse_of_over hover hmoves, hcourse]

theorem checkCourse_of_request_error (hrequest : plan.request Check.progress = .error e)
    (moves : Nat) : (World.serving outcomes).checkCourse plan moves = (.failed e, []) := by
  rw [World.checkCourse, Check.start_of_request_error hrequest]
  cases moves <;> rfl

end Pages

/-- A page is asked for until an outcome settles it, and the sync or the check goes
on with that outcome. In between there is one attempt for each outcome up to that
one, with the pauses that the policy sets, and no longer waited than the cap for each
of them. A request that cannot be formed is not sent at all. -/
theorem page_is_fetched_by_policy (plan : Plan) (outcomes : Nat → Except Error Json)
    (progress : Progress) (tally : Tally) (hmore : plan.isEnough tally.pages = false) :
    ∃ last, IsLeast (settling plan.retry outcomes) last ∧
      (∀ request, plan.request progress = .ok request →
        pageCourse plan outcomes progress tally (2 * last) =
          (Run.fetched plan progress tally (.sending request last) (.ofOutcome (outcomes last)),
            ⟨.proceed, .granted⟩ :: exchange plan request outcomes last)) ∧
      (∀ request, plan.request Check.progress = .ok request → ∀ moves, 2 * last - 1 ≤ moves →
        (World.serving outcomes).checkCourse plan moves =
          (Check.fetched plan (.ofOutcome (outcomes last)),
            exchange plan request outcomes last)) ∧
      (∀ request,
        sends (exchange plan request outcomes last) = last ∧
          waited (exchange plan request outcomes last) ≤ (last - 1) * plan.retry.cap) ∧
      (∀ e, plan.request progress = .error e → ∀ moves,
        pageCourse plan outcomes progress tally (moves + 1) =
          (.aborted progress.cursor e, [⟨.proceed, .granted⟩])) ∧
      ∀ e, plan.request Check.progress = .error e → ∀ moves,
        (World.serving outcomes).checkCourse plan moves = (.failed e, []) := by
  obtain ⟨last, hlast⟩ := exists_isLeast_settling plan.retry outcomes
  refine ⟨last, hlast, ?_, ?_, ?_, ?_, ?_⟩
  · intro request hrequest
    exact pageCourse_of_request hmore hrequest hlast
  · intro request hrequest moves hmoves
    exact checkCourse_of_request hrequest hlast hmoves
  · intro request
    exact ⟨sends_exchange plan request outcomes hlast.1.1,
      waited_exchange_le plan request outcomes last⟩
  · intro e hrequest moves
    exact pageCourse_of_request_error hmore hrequest moves
  · intro e hrequest moves
    exact checkCourse_of_request_error hrequest moves

namespace Sample

/-- Two failures that may pass, and then a page. -/
def thirdTime : Nat → Except Error Json
  | 1 => .error (.timeout 3)
  | 2 => .error (.httpStatus 503 "")
  | _ => .ok (page "1" "a" true)

theorem isLeast_thirdTime : IsLeast (settling {} thirdTime) 3 := by
  refine ⟨⟨by decide, .inl ⟨_, rfl⟩⟩, ?_⟩
  rintro attempt ⟨hfirst, hsettles⟩
  by_contra hless
  have hearly : attempt = 1 ∨ attempt = 2 := by omega
  rcases hearly with rfl | rfl
  · rcases settles_error_iff.mp hsettles with hfinal | hmost
    · cases hfinal
    · exact absurd hmost (by decide)
  · rcases settles_error_iff.mp hsettles with hfinal | hmost
    · cases hfinal
    · exact absurd hmost (by decide)

end Sample

/-- The third attempt brings the page, after one and a half seconds of waiting. -/
theorem page_comes_at_third_attempt :
    let plan : Plan := { connector := Sample.connector }
    plan.isEnough 0 = false ∧
      ∃ request, plan.request (.startingAt none) = .ok request ∧
        pageCourse plan Sample.thirdTime (.startingAt none) {} 6 =
          (Run.fetched plan (.startingAt none) {} (.sending request 3)
              (.body (Sample.page "1" "a" true)),
            ⟨.proceed, .granted⟩ :: exchange plan request Sample.thirdTime 3) ∧
        waited (exchange plan request Sample.thirdTime 3) = Duration.ofMillis 1500 := by
  intro plan
  obtain ⟨last, hlast, hsync, -⟩ :=
    page_is_fetched_by_policy plan Sample.thirdTime (.startingAt none) {} rfl
  obtain rfl : last = 3 := hlast.unique Sample.isLeast_thirdTime
  exact ⟨rfl, _, rfl, hsync _ rfl, by decide +kernel⟩

end PageHarvest.Sync
