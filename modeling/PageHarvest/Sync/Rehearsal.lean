import PageHarvest.Sync.Check
import PageHarvest.Sync.Run

/-!
Rehearsing a sync: the server, the store and the receiver of the records follow
a script, and time passes only when somebody waits. What is to go wrong, and
when the sync is told to stop, stands in the script too, so that a rehearsal can
be repeated.
-/

namespace PageHarvest.Sync

/-- What the server does when a request comes in. -/
structure Cue where
  /-- The answer; without one the server stays silent for ever. -/
  answer : Option (Except Error Json)
  /-- How long the answer takes. -/
  delay : Duration := 0
  /-- Whether the sync is told to stop as the request comes in. -/
  stops : Bool := false

namespace Cue

instance : Inhabited Cue := ⟨{ answer := none }⟩

def exhausted : Cue := { answer := some (.error (.other "script exhausted")) }

end Cue

/-- What goes wrong besides the answers. Commits and deliveries are numbered from
one over the whole rehearsal. -/
structure Mishaps where
  load : Bool := false
  saves : List Nat := []
  accepts : List Nat := []
  /-- Deliveries during which the sync is told to stop. -/
  stops : List Nat := []
deriving DecidableEq, Repr

structure Sending where
  request : Request
  timeout : Nat
  time : Duration
deriving DecidableEq

structure Scene where
  cues : List Cue
  mishaps : Mishaps := {}
  /-- The committed cursor, if one was ever committed. -/
  record : Option (Option String) := none
  clock : Duration := 0
  /-- Whether the sync was told to stop. -/
  stopped : Bool := false
  /-- When the sync will be told to stop. -/
  alarm : Option Duration := none
  /-- The commits tried so far. -/
  saves : Nat := 0
  /-- The deliveries tried so far. -/
  accepts : Nat := 0
  /-- The pages taken over. -/
  pages : List (List Record) := []
  /-- The requests sent. -/
  sent : List Sending := []

namespace Scene

/-- Waits. False if the sync is told to stop while time is left; what happens at
the very end of the wait counts as after it. -/
def wait (s : Scene) (delay : Duration) : Bool × Scene :=
  let later := (true, { s with clock := s.clock + delay })
  if s.stopped then (false, s)
  else
    match s.alarm with
    | none => later
    | some time =>
        if time < s.clock + delay then
          (false, { s with clock := max s.clock time, stopped := true, alarm := none })
        else later

/-- Waits until the sync is told to stop, if it ever is. -/
def waitForStop (s : Scene) : Option Scene :=
  if s.stopped then some s
  else s.alarm.map fun time =>
    { s with clock := max s.clock time, stopped := true, alarm := none }

def receive (s : Scene) (request : Request) (timeout : Nat) : Cue × Scene :=
  let cue := s.cues.headD .exhausted
  (cue, { s with
    cues := s.cues.tail
    stopped := s.stopped || cue.stops
    sent := s.sent ++ [⟨request, timeout, s.clock⟩] })

/-- Answers a request as a cue says. An answer that takes no time comes before
the sync can be told to stop. -/
def respond (s : Scene) (cue : Cue) : Option (Reply × Scene) :=
  match cue.answer with
  | none => s.waitForStop.map fun s => (.cancelled, s)
  | some answer =>
      if cue.delay = 0 then some (.answered answer, s)
      else
        let (done, s) := s.wait cue.delay
        some (if done then .answered answer else .cancelled, s)

def save (s : Scene) (cursor : Option String) : Except Error Unit × Scene :=
  let s := { s with saves := s.saves + 1 }
  if s.mishaps.saves.contains s.saves then (.error (.state "save refused"), s)
  else (.ok (), { s with record := some cursor })

def reset (s : Scene) : Scene := { s with record := none }

def accept (s : Scene) (records : List Record) : Except Error Unit × Scene :=
  let n := s.accepts + 1
  let s := { s with accepts := n, stopped := s.stopped || s.mishaps.stops.contains n }
  if s.mishaps.accepts.contains n then (.error (.other "sink refused"), s)
  else (.ok (), { s with pages := s.pages ++ [records] })

/-- The reply to a demand, unless the sync would wait for ever. -/
def reply? (s : Scene) : Demand → Option (Reply × Scene)
  | .load =>
      let result := if s.mishaps.load then .error (.state "load refused") else .ok s.record.join
      some (.loaded result, s)
  | .proceed => some (if s.stopped then .cancelled else .granted, s)
  | .send request timeout =>
      let (cue, s) := s.receive request timeout
      s.respond cue
  | .wait delay =>
      let (done, s) := s.wait delay
      some (if done then .elapsed else .cancelled, s)
  | .accept records =>
      let (result, s) := s.accept records
      some (.accepted result, s)
  | .save cursor =>
      let (result, s) := s.save cursor
      some (.saved result, s)

/-- Enough replies for any sync: each cue brings at most leave to begin a page,
an answer, and either a delay or a delivery and a commit. -/
def replies (s : Scene) : Nat := 4 * s.cues.length + 8

def run (s : Scene) (plan : Plan) : Run × Scene :=
  converse (Run.demand plan) (Run.step? plan) reply? s.replies .loading s

def check (s : Scene) (plan : Plan) : Check × Scene :=
  converse (Check.demand plan) (Check.step? plan) reply? s.replies (.start plan) s

def stop (s : Scene) : Scene := { s with stopped := true }

/-- The scene for another sync, which was not told to stop. -/
def renew (s : Scene) : Scene := { s with stopped := false }

/-- The scene with nothing recorded yet, where the sync will be told to stop
after a time. -/
def begin (s : Scene) (stopAfter : Option Duration) : Scene :=
  { s with pages := [], sent := [], alarm := stopAfter.map (s.clock + ·) }

end Scene

end PageHarvest.Sync
