import PageHarvest.Files.Tree

/-!
Scripts on files that fail. Every step of a script is carried out in full, or it
fails with some fault, or the script is stopped at it. A step that fails or is
stopped may leave a part of its work: some of the directories that were to be
made, or any bytes in the file that was to be written. Files are moved and
removed in full or not at all. That there is nothing to read or to remove is
said only where there is nothing.
-/

namespace PageHarvest.Files

/-- How a script ended. -/
inductive Outcome (α : Type) where
  | returned (value : α)
  /-- It was stopped when it had nothing left to do but to return. -/
  | unheard (value : α)
  /-- It was stopped before. -/
  | stopped
deriving DecidableEq

def Outcome.value? {α : Type} : Outcome α → Option α
  | .returned value | .unheard value => some value
  | .stopped => none

variable {α : Type}

namespace Script

def isDone : Script α → Bool
  | .done _ => true
  | _ => false

/-- What is left of a script and of the files after a step. -/
def step? (t : FileTree) : Script α → Option (Script α × FileTree)
  | .done _ => none
  | .read path next => some (next (t.read path), t)
  | .probe path next => some (next (t.probe path), t)
  | .makeDirectories path next => some (next (t.makeDirectories path).1, (t.makeDirectories path).2)
  | .write path bytes next => some (next (t.write path bytes).1, (t.write path bytes).2)
  | .rename source target next => some (next (t.rename source target).1, (t.rename source target).2)
  | .remove path next => some (next (t.remove path).1, (t.remove path).2)

/-- What is left of a script after a step that failed. -/
def fail? (f : Fault) : Script α → Option (Script α)
  | .done _ | .probe .. => none
  | .read _ next => if f = .notFound then none else some (next (.error f))
  | .remove _ next => if f = .notFound then none else some (next (.error f))
  | .makeDirectories _ next | .write _ _ next | .rename _ _ next => some (next (.error f))

end Script

/-- What an unfinished step can leave of the files. -/
inductive Leaves : FileTree → Script α → FileTree → Prop where
  | nothing {t : FileTree} {s : Script α} (hopen : s.isDone = false) : Leaves t s t
  | directories (t : FileTree) (path : String) (next : Except Fault Unit → Script α)
      (count : Nat) :
      Leaves t (.makeDirectories path next) (t.makeFrom [] ((names path).take count)).2
  | bytes (t : FileTree) (path : String) (bytes : List UInt8)
      (next : Except Fault Unit → Script α) (part : List UInt8) :
      Leaves t (.write path bytes next) (t.write path part).2

/-- A script that is carried out on files that may fail, or that is stopped. -/
inductive Carried : FileTree → Script α → Outcome α → FileTree → Prop where
  | returns (t : FileTree) (value : α) : Carried t (.done value) (.returned value) t
  | unheard (t : FileTree) (value : α) : Carried t (.done value) (.unheard value) t
  | stops {t u : FileTree} {s : Script α} (hleft : Leaves t s u) : Carried t s .stopped u
  | fails {t u v : FileTree} {s rest : Script α} {f : Fault} {outcome : Outcome α}
      (hleft : Leaves t s u) (hfail : s.fail? f = some rest)
      (hrest : Carried u rest outcome v) : Carried t s outcome v
  | goes {t u v : FileTree} {s rest : Script α} {outcome : Outcome α}
      (hstep : s.step? t = some (rest, u)) (hrest : Carried u rest outcome v) :
      Carried t s outcome v

/-- Nothing needs to fail: a script can be carried out as it is on files in memory. -/
theorem Carried.carryOut (t : FileTree) (s : Script α) :
    Carried t s (.returned (t.carryOut s).1) (t.carryOut s).2 := by
  induction s generalizing t with
  | done value => exact .returns t value
  | read path next ih => exact .goes rfl (ih _ t)
  | probe path next ih => exact .goes rfl (ih _ t)
  | makeDirectories path next ih => exact .goes rfl (ih _ _)
  | write path bytes next ih => exact .goes rfl (ih _ _)
  | rename source target next ih => exact .goes rfl (ih _ _)
  | remove path next ih => exact .goes rfl (ih _ _)

theorem Carried.of_done {t u : FileTree} {value : α} {outcome : Outcome α}
    (h : Carried t (.done value) outcome u) : u = t ∧ outcome.value? = some value := by
  cases h with
  | returns => exact ⟨rfl, rfl⟩
  | unheard => exact ⟨rfl, rfl⟩
  | stops hleft => cases hleft with | nothing hopen => cases hopen
  | fails _ hfail => cases hfail
  | goes hstep => cases hstep

end PageHarvest.Files
