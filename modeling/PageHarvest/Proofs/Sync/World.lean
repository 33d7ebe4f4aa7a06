import PageHarvest.Proofs.Sync.Moves

/-!
A sync in a world that answers whatever it is asked, in any way that fits. What
the world answers may depend on all that happened before, so it can be as hostile
as it likes: it may fail every request, promise pages without end, or tell the
sync to stop at the worst moment. The sync ends in it if something gets less with
every move.
-/

namespace PageHarvest

namespace RetryPolicy

def mostAttempts (policy : RetryPolicy) : Nat := max 1 policy.maxAttempts.toNat

def movesOfPage (policy : RetryPolicy) : Nat := 2 * policy.mostAttempts + 6

theorem lt_of_shouldRetry {policy : RetryPolicy} {e : Error} {attempt : Nat}
    (h : policy.shouldRetry e attempt = true) : attempt < policy.mostAttempts := by
  have hless : attempt < policy.maxAttempts.toNat := by
    simp only [shouldRetry, Bool.and_eq_true, decide_eq_true_eq] at h
    exact h.1
  exact Nat.lt_of_lt_of_le hless (Nat.le_max_right 1 _)

theorem mostAttempts_lt_size (policy : RetryPolicy) : policy.mostAttempts < UInt32.size :=
  Nat.max_lt.mpr ⟨by decide, policy.maxAttempts.toNat_lt⟩

end RetryPolicy

namespace Sync

/-- Whether a reply is one to a demand. -/
def Demand.Fits : Demand → Reply → Prop
  | .load, .loaded _ => True
  | .proceed, .granted | .proceed, .cancelled => True
  | .send _ _, .answered _ | .send _ _, .cancelled => True
  | .wait _, .elapsed | .wait _, .cancelled => True
  | .accept _, .accepted _ => True
  | .save _, .saved _ => True
  | _, _ => False

/-- A page is fetched on after exactly the replies that fit what it asks for. -/
theorem Fetch.step?_isSome_iff (policy : RetryPolicy) (fetch : Fetch) (timeout : Nat)
    (reply : Reply) :
    (fetch.step? policy reply).isSome = true ↔ (fetch.demand timeout).Fits reply := by
  cases fetch with
  | sending request attempt =>
      cases reply with
      | answered result => cases result <;> simp [step?, demand, Demand.Fits]
      | _ => simp [step?, demand, Demand.Fits]
  | waiting request attempt delay =>
      cases reply with
      | answered result => cases result <;> simp [step?, demand, Demand.Fits]
      | _ => simp [step?, demand, Demand.Fits]

namespace Run

variable {plan : Plan} {run : Run}

/-- A sync goes on after exactly the replies that fit what it asks for. -/
theorem step?_isSome_iff {demand : Demand} {reply : Reply}
    (hdemand : run.demand plan = some demand) :
    (run.step? plan reply).isSome = true ↔ demand.Fits reply := by
  cases run with
  | loading =>
      cases hdemand
      cases reply with
      | loaded result => cases result <;> simp [step?, Demand.Fits]
      | _ => simp [step?, Demand.Fits]
  | turning progress tally =>
      cases hdemand
      cases reply <;> simp [step?, Demand.Fits]
  | fetching progress tally fetch =>
      cases hdemand
      simpa [step?] using fetch.step?_isSome_iff plan.retry plan.connector.timeout reply
  | delivering progress tally data found =>
      cases hdemand
      cases reply with
      | accepted result => cases result <;> simp [step?, Demand.Fits]
      | _ => simp [step?, Demand.Fits]
  | committing progress next tally =>
      cases hdemand
      cases reply with
      | saved result => cases result <;> simp [step?, Demand.Fits]
      | _ => simp [step?, Demand.Fits]
  | finished report => cases hdemand
  | aborted lastCursor cause => cases hdemand

theorem result?_of_demand_eq_none (h : run.demand plan = none) :
    ∃ result, run.result? = some result := by
  cases run with
  | finished report => exact ⟨_, rfl⟩
  | aborted lastCursor cause => exact ⟨_, rfl⟩
  | _ => cases h

end Run

/-- All that answers a sync: the store, the server, the receiver of the records,
the clock, and whoever may tell the sync to stop. -/
structure World where
  /-- The reply to a demand, after all that happened before. -/
  reply : List Event → Demand → Reply
  fits : ∀ (trace : List Event) (demand : Demand), demand.Fits (reply trace demand)

namespace World

open Run (Move Reaches)

def reply? (world : World) (trace : List Event) (demand : Demand) :
    Option (Reply × List Event) :=
  some (world.reply trace demand, trace ++ [⟨demand, world.reply trace demand⟩])

/-- How far a sync is in this world after a number of moves, and what happened
until then. -/
def course (world : World) (plan : Plan) (moves : Nat) : Run × List Event :=
  converse (Run.demand plan) (Run.step? plan) world.reply? moves .loading []

variable (world : World) {plan : Plan}

/-- Whoever goes on after every reply that fits makes one move after the other. -/
theorem converse_succ {σ : Type} {demand : σ → Option Demand} {step? : σ → Reply → Option σ}
    (hgoes : ∀ state asked reply, demand state = some asked → asked.Fits reply →
      (step? state reply).isSome = true)
    (moves : Nat) (state : σ) (trace : List Event) :
    converse demand step? world.reply? (moves + 1) state trace =
      let (last, after) := converse demand step? world.reply? moves state trace
      converse demand step? world.reply? 1 last after := by
  induction moves generalizing state trace with
  | zero => rfl
  | succ moves ih =>
      cases hdemand : demand state with
      | none => simp [converse, hdemand]
      | some asked =>
          have hsome := hgoes state asked _ hdemand (world.fits trace asked)
          obtain ⟨next, hstep⟩ := Option.isSome_iff_exists.mp hsome
          have hrest := ih next (trace ++ [⟨asked, world.reply trace asked⟩])
          rw [converse, converse]
          simpa [hdemand, reply?, hstep] using hrest

theorem course_succ_eq (plan : Plan) (moves : Nat) :
    world.course plan (moves + 1) =
      converse (Run.demand plan) (Run.step? plan) world.reply? 1
        (world.course plan moves).1 (world.course plan moves).2 := by
  apply world.converse_succ
  intro run demand reply hdemand
  exact (Run.step?_isSome_iff hdemand).mpr

theorem course_succ_of_move {moves : Nat} {event : Event} {next : Run}
    (hmove : Move plan (world.course plan moves).1 event next)
    (hreply : event.reply = world.reply (world.course plan moves).2 event.demand) :
    world.course plan (moves + 1) = (next, (world.course plan moves).2 ++ [event]) := by
  obtain ⟨demand, reply⟩ := event
  obtain ⟨hdemand, hstep⟩ := Run.move_iff.mp hmove
  dsimp only at hdemand hstep hreply
  subst hreply
  simp [course_succ_eq, converse, reply?, hdemand, hstep]

/-- As long as the sync asks for something, its next move is the one to which
the world replies. -/
theorem course_succ {moves : Nat} {demand : Demand}
    (hdemand : (world.course plan moves).1.demand plan = some demand) :
    ∃ event next, Move plan (world.course plan moves).1 event next ∧
      event.reply = world.reply (world.course plan moves).2 event.demand ∧
      world.course plan (moves + 1) = (next, (world.course plan moves).2 ++ [event]) := by
  have hfits := world.fits (world.course plan moves).2 demand
  have hsome := (Run.step?_isSome_iff hdemand).mpr hfits
  obtain ⟨next, hstep⟩ := Option.isSome_iff_exists.mp hsome
  have hmove := Run.move_of_step? hdemand hstep
  exact ⟨_, next, hmove, rfl, world.course_succ_of_move hmove rfl⟩

theorem course_succ_of_over {moves : Nat}
    (hdemand : (world.course plan moves).1.demand plan = none) :
    world.course plan (moves + 1) = world.course plan moves := by
  simp [course_succ_eq, converse, hdemand]

/-- What holds at the start, and is kept by every move that the world replies to,
holds however far the sync is. -/
theorem course_invariant (Holds : List Event → Run → Prop) (hstart : Holds [] .loading)
    (hkeep : ∀ trace run event next, Holds trace run → Move plan run event next →
      event.reply = world.reply trace event.demand → Holds (trace ++ [event]) next)
    (moves : Nat) : Holds (world.course plan moves).2 (world.course plan moves).1 := by
  induction moves with
  | zero => exact hstart
  | succ moves ih =>
      cases hdemand : (world.course plan moves).1.demand plan with
      | none =>
          rw [course_succ_of_over world hdemand]
          exact ih
      | some demand =>
          obtain ⟨event, next, hmove, hreply, hnext⟩ := world.course_succ hdemand
          rw [hnext]
          exact hkeep _ _ event next ih hmove hreply

theorem reaches_course (plan : Plan) (moves : Nat) :
    Reaches plan (world.course plan moves).2 (world.course plan moves).1 := by
  apply world.course_invariant (Reaches plan) .start
  intro trace run event next hreaches hmove _
  exact hreaches.move hmove

/-- A sync is over some time if from some point on every move makes a measure
smaller. -/
theorem exists_over (measure : Run → Nat) (start : Nat)
    (hless : ∀ moves event next, start ≤ moves →
      Move plan (world.course plan moves).1 event next →
      event.reply = world.reply (world.course plan moves).2 event.demand →
      measure next < measure (world.course plan moves).1) :
    ∃ moves result, start ≤ moves ∧ (world.course plan moves).1.result? = some result := by
  -- The measure at the start is what the induction is on, so the start has to move.
  induction hmeasure : measure (world.course plan start).1 using Nat.strongRecOn
    generalizing start with
  | _ left ih =>
      cases hdemand : (world.course plan start).1.demand plan with
      | none =>
          obtain ⟨result, hresult⟩ := Run.result?_of_demand_eq_none hdemand
          exact ⟨start, result, Nat.le_refl start, hresult⟩
      | some demand =>
          obtain ⟨event, next, hmove, hreply, hnext⟩ := world.course_succ hdemand
          have hsmaller : measure (world.course plan (start + 1)).1 < left := by
            rw [hnext, ← hmeasure]
            exact hless start event next (Nat.le_refl start) hmove hreply
          obtain ⟨moves, result, hstart, hresult⟩ := ih _ hsmaller (start + 1)
            (fun moves event next hmoves => hless moves event next (by omega)) rfl
          exact ⟨moves, result, by omega, hresult⟩

end World

namespace Run

variable {plan : Plan} {run next : Run} {event : Event}

/-- The moves that are left at most where a number of pages may still begin: two
for every attempt, and a few for each page besides. -/
def movesLeft (plan : Plan) (pages : Nat) : Run → Nat
  | .loading => 2 + pages * plan.retry.movesOfPage
  | .turning _ tally => 1 + (pages - tally.pages) * plan.retry.movesOfPage
  | .fetching _ tally (.sending _ attempt) =>
      5 + 2 * (plan.retry.mostAttempts - attempt) +
        (pages - (tally.pages + 1)) * plan.retry.movesOfPage
  | .fetching _ tally (.waiting _ attempt _) =>
      6 + 2 * (plan.retry.mostAttempts - (attempt + 1)) +
        (pages - (tally.pages + 1)) * plan.retry.movesOfPage
  | .delivering _ tally _ _ => 3 + (pages - tally.pages) * plan.retry.movesOfPage
  | .committing _ _ tally => 2 + (pages - tally.pages) * plan.retry.movesOfPage
  | .finished _ | .aborted _ _ => 0

/-- Every move is one move less, if a page begins only where one may. -/
theorem Move.movesLeft_lt {pages : Nat} (h : Move plan run event next)
    (hbegin : ∀ progress tally, run = .turning progress tally → event.reply = .granted →
      plan.isEnough tally.pages = false → tally.pages < pages) :
    next.movesLeft plan pages < run.movesLeft plan pages := by
  cases h with
  | loaded cursor => simp [movesLeft]
  | asked progress tally request hmore hrequest =>
      have hpages : tally.pages < pages := hbegin progress tally rfl rfl hmore
      have hmost : 1 ≤ plan.retry.mostAttempts := Nat.le_max_left 1 _
      have hpage : pages - tally.pages = pages - (tally.pages + 1) + 1 := by omega
      simp only [movesLeft, Fetch.start, hpage, Nat.add_mul, RetryPolicy.movesOfPage]
      omega
  | retrying progress tally request attempt e hretry =>
      have hless : attempt < plan.retry.mostAttempts := RetryPolicy.lt_of_shouldRetry hretry
      simp only [movesLeft]
      omega
  | retried progress tally request attempt delay =>
      simp only [movesLeft]
      omega
  | interrupted progress tally fetch => cases fetch <;> simp only [movesLeft] <;> omega
  | received progress tally request attempt body hbody =>
      simp only [movesLeft, Tally.addPage, Tally.addFetch]
      omega
  | delivered progress tally data found verdict next hfound hnext =>
      simp only [movesLeft, Tally.addRecords]
      omega
  | turned progress next tally hmore =>
      simp only [movesLeft]
      omega
  | _ =>
      simp only [movesLeft]
      omega

end Run

end Sync

end PageHarvest
