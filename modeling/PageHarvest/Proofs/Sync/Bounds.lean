import PageHarvest.Proofs.Sync.Commitment
import PageHarvest.Proofs.Sync.World

/-!
A sync does a bounded amount of work. A page begins only while fewer were read
than are wanted, and a request is sent again only while attempts are left, so a
server that fails for ever or promises pages for ever can neither keep a sync
going nor make its attempt counter overflow. Without pagination the first page is
the last one, cap or no cap.
-/

namespace PageHarvest.Sync

namespace Event

def isSend : Event → Bool
  | ⟨.send _ _, _⟩ => true
  | _ => false

end Event

def sends (trace : List Event) : Nat := trace.countP Event.isSend

/-- The pages asked for so far, and the attempts at the last of them. -/
structure Asked where
  pages : Nat
  attempts : Nat

def Asked.after (asked : Asked) (event : Event) : Asked :=
  match event.demand with
  | .proceed => ⟨asked.pages, 0⟩
  | .send _ _ => ⟨asked.pages + if asked.attempts = 0 then 1 else 0, asked.attempts + 1⟩
  | _ => asked

def pagesAsked (trace : List Event) : Nat := (trace.foldl Asked.after ⟨0, 0⟩).pages

theorem asked_attempts (trace : List Event) :
    (trace.foldl Asked.after ⟨0, 0⟩).attempts = attemptsOfPage trace := by
  induction trace using List.reverseRecOn with
  | nil => rfl
  | append_singleton rest event ih =>
      obtain ⟨demand, reply⟩ := event
      cases demand <;> simp_all [attemptsOfPage, Asked.after]

theorem pagesAsked_concat_send (trace : List Event) (request : Request) (timeout : Nat)
    (reply : Reply) :
    pagesAsked (trace ++ [⟨.send request timeout, reply⟩]) =
      pagesAsked trace + if attemptsOfPage trace = 0 then 1 else 0 := by
  simp [pagesAsked, Asked.after, asked_attempts]

theorem sends_concat_send (trace : List Event) (request : Request) (timeout : Nat)
    (reply : Reply) : sends (trace ++ [⟨.send request timeout, reply⟩]) = sends trace + 1 := by
  simp [sends, Event.isSend]

theorem pagesAsked_concat (trace : List Event) {event : Event} (hsend : event.isSend = false) :
    pagesAsked (trace ++ [event]) = pagesAsked trace := by
  obtain ⟨demand, reply⟩ := event
  cases demand with
  | send request timeout => cases hsend
  | _ => simp [pagesAsked, Asked.after]

theorem sends_concat (trace : List Event) {event : Event} (hsend : event.isSend = false) :
    sends (trace ++ [event]) = sends trace := by
  simp [sends, hsend]

/-- A sync that reads this number of pages at most, because it is told to or
because there is only one. -/
def Plan.ReadsAtMost (plan : Plan) (pages : Nat) : Prop :=
  plan.maxPages = some pages ∨ plan.connector.pagination = .none ∧ pages = 1

/-- All that was sent was sent for the pages that are done. -/
structure Within (plan : Plan) (pages : Nat) (trace : List Event) (done : Nat) : Prop where
  done_le : done ≤ pages
  asked : pagesAsked trace ≤ done
  sent : sends trace ≤ done * plan.retry.mostAttempts

/-- A page is asked for after those that are done, and there is an attempt left. -/
structure Attempting (plan : Plan) (pages : Nat) (trace : List Event) (done : Nat) : Prop where
  done_lt : done < pages
  asked : pagesAsked trace ≤ done + min 1 (attemptsOfPage trace)
  sent : sends trace ≤ done * plan.retry.mostAttempts + attemptsOfPage trace
  attempts_lt : attemptsOfPage trace < plan.retry.mostAttempts

variable {plan : Plan} {pages done : Nat} {trace : List Event} {event : Event}

theorem Within.concat (h : Within plan pages trace done) (hsend : event.isSend = false) :
    Within plan pages (trace ++ [event]) done where
  done_le := h.done_le
  asked := by simpa [pagesAsked_concat trace hsend] using h.asked
  sent := by simpa [sends_concat trace hsend] using h.sent

theorem Within.begin (h : Within plan pages trace done) (hless : done < pages) :
    Attempting plan pages (trace ++ [⟨.proceed, .granted⟩]) done where
  done_lt := hless
  asked := by
    rw [pagesAsked_concat trace rfl, Run.attemptsOfPage_concat_proceed]
    exact h.asked
  sent := by
    rw [sends_concat trace rfl, Run.attemptsOfPage_concat_proceed]
    exact h.sent
  attempts_lt := by
    rw [Run.attemptsOfPage_concat_proceed]
    exact Nat.lt_of_lt_of_le Nat.one_pos (Nat.le_max_left 1 _)

theorem Within.bounds (h : Within plan pages trace done) :
    pagesAsked trace ≤ pages ∧ sends trace ≤ pages * plan.retry.mostAttempts :=
  ⟨Nat.le_trans h.asked h.done_le, Nat.le_trans h.sent (Nat.mul_le_mul_right _ h.done_le)⟩

/-- The page is done with this attempt. -/
theorem Attempting.finish (h : Attempting plan pages trace done) (request : Request)
    (timeout : Nat) (reply : Reply) :
    Within plan pages (trace ++ [⟨.send request timeout, reply⟩]) (done + 1) where
  done_le := h.done_lt
  asked := by
    have hasked := h.asked
    rw [pagesAsked_concat_send]
    split <;> omega
  sent := by
    have hsent := h.sent
    have hattempts := h.attempts_lt
    rw [sends_concat_send, Nat.add_mul]
    omega

/-- The page is not done with this attempt, but it was not the last one. -/
theorem Attempting.again (h : Attempting plan pages trace done) (request : Request)
    (timeout : Nat) (reply : Reply)
    (hleft : attemptsOfPage trace + 1 < plan.retry.mostAttempts) :
    Attempting plan pages (trace ++ [⟨.send request timeout, reply⟩]) done where
  done_lt := h.done_lt
  asked := by
    have hasked := h.asked
    rw [pagesAsked_concat_send, Run.attemptsOfPage_concat_send]
    split <;> omega
  sent := by
    have hsent := h.sent
    rw [sends_concat_send, Run.attemptsOfPage_concat_send]
    omega
  attempts_lt := by
    rw [Run.attemptsOfPage_concat_send]
    exact hleft

theorem Attempting.wait (h : Attempting plan pages trace done) (delay : Duration)
    (reply : Reply) : Attempting plan pages (trace ++ [⟨.wait delay, reply⟩]) done where
  done_lt := h.done_lt
  asked := by
    rw [pagesAsked_concat trace rfl, Run.attemptsOfPage_concat_wait]
    exact h.asked
  sent := by
    rw [sends_concat trace rfl, Run.attemptsOfPage_concat_wait]
    exact h.sent
  attempts_lt := by
    rw [Run.attemptsOfPage_concat_wait]
    exact h.attempts_lt

/-- The attempts made so far are those of one page. -/
theorem Attempting.within (h : Attempting plan pages trace done) :
    Within plan pages trace (done + 1) where
  done_le := h.done_lt
  asked := by
    have hasked := h.asked
    omega
  sent := by
    have hsent := h.sent
    have hattempts := h.attempts_lt
    rw [Nat.add_mul]
    omega

namespace Run

variable {run next : Run}

/-- How far a sync that reads a number of pages at most can have come, by its
state. -/
def Paced (plan : Plan) (pages : Nat) (trace : List Event) : Run → Prop
  | .loading => trace = []
  | .turning _ tally =>
      Within plan pages trace tally.pages ∧ (plan.connector.pagination = .none → tally.pages = 0)
  | .fetching _ tally _ => Attempting plan pages trace tally.pages
  | .delivering _ tally _ _ => Within plan pages trace tally.pages
  | .committing _ next tally =>
      Within plan pages trace tally.pages ∧
        (plan.connector.pagination = .none → next.hasMore = false)
  | .finished _ | .aborted _ _ => ∃ done, Within plan pages trace done

theorem lt_of_not_enough {progress : Progress} {tally : Tally} (hpages : plan.ReadsAtMost pages)
    (h : (Run.turning progress tally).Paced plan pages trace)
    (hmore : plan.isEnough tally.pages = false) : tally.pages < pages := by
  obtain ⟨hwithin, hfirst⟩ := h
  rcases hpages with hcap | ⟨hkey, rfl⟩
  · simpa [Plan.isEnough, hcap] using hmore
  · rw [hfirst hkey]
    exact Nat.one_pos

theorem Paced.move (hpages : plan.ReadsAtMost pages) (hagrees : run.Agrees plan trace)
    (h : run.Paced plan pages trace) (hmove : Move plan run event next) :
    next.Paced plan pages (trace ++ [event]) := by
  cases hmove with
  | loaded cursor =>
      subst h
      exact ⟨⟨Nat.zero_le pages, Nat.le_refl 0, Nat.zero_le _⟩, fun _ => rfl⟩
  | loadFailed e =>
      subst h
      exact ⟨0, Nat.zero_le pages, Nat.le_refl 0, Nat.zero_le _⟩
  | stopped | capped | unasked => exact ⟨_, h.1.concat rfl⟩
  | asked progress tally request hmore hrequest =>
      exact h.1.begin (lt_of_not_enough hpages h hmore)
  | interrupted progress tally fetch =>
      cases fetch with
      | sending request attempt => exact ⟨_, Attempting.finish h request _ _⟩
      | waiting request attempt delay => exact ⟨_, Attempting.within (Attempting.wait h delay _)⟩
  | retrying progress tally request attempt e hretry =>
      obtain ⟨-, rfl⟩ := hagrees
      exact Attempting.again h request _ _ (RetryPolicy.lt_of_shouldRetry hretry)
  | retried progress tally request attempt delay => exact Attempting.wait h delay _
  | unanswered | refused => exact ⟨_, Attempting.finish h _ _ _⟩
  | received progress tally request attempt body hbody => exact Attempting.finish h request _ _
  | undelivered | unextracted | unpaged => exact ⟨_, Within.concat h rfl⟩
  | delivered progress tally data found verdict next hfound hnext =>
      refine ⟨Within.concat h rfl, ?_⟩
      intro hkey
      rw [hkey] at hnext
      cases hnext
      rfl
  | unsaved progress next tally e => exact ⟨_, h.1.concat rfl⟩
  | turned progress next tally hmore =>
      refine ⟨h.1.concat rfl, ?_⟩
      -- Without pagination the first page is the last one, so this move is not made.
      intro hkey
      exact absurd (h.2 hkey) (by simp [hmore])
  | completed progress next tally hmore => exact ⟨_, h.1.concat rfl⟩

theorem Reaches.paced (hpages : plan.ReadsAtMost pages) (h : Reaches plan trace run) :
    run.Paced plan pages trace := by
  induction h with
  | start => rfl
  | move hreaches hmove ih => exact ih.move hpages hreaches.agrees hmove

theorem Paced.bounds (h : run.Paced plan pages trace) :
    pagesAsked trace ≤ pages ∧ sends trace ≤ pages * plan.retry.mostAttempts := by
  cases run with
  | loading =>
      subst h
      exact ⟨Nat.zero_le pages, Nat.zero_le _⟩
  | turning progress tally => exact h.1.bounds
  | fetching progress tally fetch => exact (Attempting.within h).bounds
  | delivering progress tally data found => exact Within.bounds h
  | committing progress next tally => exact h.1.bounds
  | finished report =>
      obtain ⟨done, hdone⟩ := h
      exact hdone.bounds
  | aborted lastCursor cause =>
      obtain ⟨done, hdone⟩ := h
      exact hdone.bounds

theorem Paced.attempts_lt {progress : Progress} {tally : Tally} {fetch : Fetch}
    (h : (Run.fetching progress tally fetch).Paced plan pages trace)
    (hagrees : (Run.fetching progress tally fetch).Agrees plan trace) :
    fetch.attempts < UInt32.size := by
  have hless : attemptsOfPage trace < plan.retry.mostAttempts := Attempting.attempts_lt h
  have hsize : plan.retry.mostAttempts < UInt32.size := plan.retry.mostAttempts_lt_size
  cases fetch with
  | sending request attempt =>
      obtain ⟨-, rfl⟩ := hagrees
      exact Nat.lt_of_le_of_lt hless hsize
  | waiting request attempt delay =>
      obtain ⟨-, rfl⟩ := hagrees
      exact Nat.lt_trans hless hsize

end Run

/-- A sync that reads a number of pages at most ends, whatever the world answers.
It asks for no more pages than that and for each as often as the policy allows,
and its attempt counter stays within 32 bits. -/
theorem work_is_bounded (world : World) (hpages : plan.ReadsAtMost pages) :
    (∃ moves result, (world.course plan moves).1.result? = some result) ∧
      ∀ moves run trace, world.course plan moves = (run, trace) →
        pagesAsked trace ≤ pages ∧
          sends trace ≤ pages * max 1 plan.retry.maxAttempts.toNat ∧
          ∀ progress tally fetch, run = .fetching progress tally fetch →
            fetch.attempts < UInt32.size := by
  have hpaced : ∀ moves, (world.course plan moves).1.Paced plan pages
      (world.course plan moves).2 :=
    fun moves => (world.reaches_course plan moves).paced hpages
  constructor
  · have hless : ∀ moves event next, 0 ≤ moves →
        Run.Move plan (world.course plan moves).1 event next →
        event.reply = world.reply (world.course plan moves).2 event.demand →
        next.movesLeft plan pages < (world.course plan moves).1.movesLeft plan pages := by
      intro moves event next _ hmove _
      apply hmove.movesLeft_lt
      intro progress tally hturning _ hmore
      have hnow := hpaced moves
      rw [hturning] at hnow
      exact Run.lt_of_not_enough hpages hnow hmore
    obtain ⟨moves, result, -, hresult⟩ := world.exists_over (Run.movesLeft plan pages) 0 hless
    exact ⟨moves, result, hresult⟩
  · intro moves run trace hcourse
    have hnow := hpaced moves
    have hagrees := (world.reaches_course plan moves).agrees
    rw [hcourse] at hnow hagrees
    obtain ⟨hasked, hsent⟩ := hnow.bounds
    refine ⟨hasked, hsent, ?_⟩
    intro progress tally fetch hfetching
    subst hfetching
    exact hnow.attempts_lt hagrees

namespace Sample

def endless : World where
  reply trace demand :=
    match demand with
    | .load => .loaded (.ok none)
    | .proceed => .granted
    | .send _ _ => .answered (.ok (page "1" (toString trace.length) true))
    | .wait _ => .elapsed
    | .accept _ => .accepted (.ok ())
    | .save _ => .saved (.ok ())
  fits _ demand := by cases demand <;> trivial

def twoPagesAtMost : Plan where
  connector := connector
  maxPages := some 2
  retry := { maxAttempts := 0 }

end Sample

theorem endless_pages_are_capped :
    Sample.twoPagesAtMost.ReadsAtMost 2 ∧
      (∃ moves result, (Sample.endless.course Sample.twoPagesAtMost moves).1.result? =
        some result) ∧
      ∀ moves run trace, Sample.endless.course Sample.twoPagesAtMost moves = (run, trace) →
        pagesAsked trace ≤ 2 ∧ sends trace ≤ 2 := by
  have hpages : Sample.twoPagesAtMost.ReadsAtMost 2 := .inl rfl
  obtain ⟨hends, hbounds⟩ := work_is_bounded Sample.endless hpages
  refine ⟨hpages, hends, ?_⟩
  intro moves run trace hcourse
  obtain ⟨hasked, hsent, -⟩ := hbounds moves run trace hcourse
  exact ⟨hasked, hsent⟩

end PageHarvest.Sync
