import PageHarvest.Extraction
import PageHarvest.Http.Request
import PageHarvest.Retry

/-!
What a sync and its surroundings say to each other. A sync asks for one thing at
a time and waits for the reply. Sending a request and waiting before a retry may
be cut short, so these demands and the one that stands before every page may be
answered by a cancellation.
-/

namespace PageHarvest.Sync

/-- What a sync asks for. -/
inductive Demand where
  /-- The cursor that was committed last. -/
  | load
  /-- Leave to begin another page. -/
  | proceed
  /-- The answer to a request, given up after a number of seconds. -/
  | send (request : Request) (timeout : Nat)
  /-- The passing of time. -/
  | wait (delay : Duration)
  /-- That the records of a page be taken over. -/
  | accept (records : List Record)
  /-- That a cursor be committed. -/
  | save (cursor : Option String)
deriving DecidableEq

/-- What a sync is told. -/
inductive Reply where
  /-- The cursor that was committed last. -/
  | loaded (result : Except Error (Option String))
  /-- Nothing stands against another page. -/
  | granted
  /-- The sync is to stop. -/
  | cancelled
  /-- The server's answer to a request. -/
  | answered (result : Except Error Json)
  /-- The time has passed. -/
  | elapsed
  /-- Whether the records were taken over. -/
  | accepted (result : Except Error Unit)
  /-- Whether the cursor was committed. -/
  | saved (result : Except Error Unit)

/-- A demand together with its reply. -/
structure Event where
  demand : Demand
  reply : Reply

/-- Lets two sides talk for a number of replies at most. It ends where the one
asks for nothing, or where the other would never reply. -/
def converse {σ ω : Type} (demand : σ → Option Demand) (step? : σ → Reply → Option σ)
    (reply? : ω → Demand → Option (Reply × ω)) : Nat → σ → ω → σ × ω
  | 0, asking, replying => (asking, replying)
  | n + 1, asking, replying =>
      match (demand asking).bind (reply? replying) with
      | none => (asking, replying)
      | some (reply, after) =>
          match step? asking reply with
          | none => (asking, after)
          | some next => converse demand step? reply? n next after

end PageHarvest.Sync
