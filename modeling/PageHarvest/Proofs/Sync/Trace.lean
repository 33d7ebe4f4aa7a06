import Mathlib.Data.List.Induction
import PageHarvest.Sync.Run

/-!
What a trace of a sync shows to those around it: the cursor that it began with,
the pages that were taken over, and the cursors that were committed. The cursor
committed last and what became of each page are read off the trace alone.
-/

namespace PageHarvest.Sync

namespace Event

def loaded? : Event → Option (Option String)
  | ⟨.load, .loaded (.ok cursor)⟩ => some cursor
  | _ => none

def answer? : Event → Option (Request × Json)
  | ⟨.send request _, .answered (.ok body)⟩ => some (request, body)
  | _ => none

def taken? : Event → Option (List Record)
  | ⟨.accept records, .accepted (.ok ())⟩ => some records
  | _ => none

def committed? : Event → Option (Option String)
  | ⟨.save cursor, .saved (.ok ())⟩ => some cursor
  | _ => none

theorem loaded?_cancelled (demand : Demand) : loaded? ⟨demand, .cancelled⟩ = none := by
  cases demand <;> rfl

theorem taken?_cancelled (demand : Demand) : taken? ⟨demand, .cancelled⟩ = none := by
  cases demand <;> rfl

theorem committed?_cancelled (demand : Demand) : committed? ⟨demand, .cancelled⟩ = none := by
  cases demand <;> rfl

end Event

def answers (trace : List Event) : List (Request × Json) := trace.filterMap Event.answer?

def takenPages (trace : List Event) : List (List Record) := trace.filterMap Event.taken?

def commits (trace : List Event) : List (Option String) := trace.filterMap Event.committed?

def loadedCursor? (trace : List Event) : Option (Option String) := trace.findSome? Event.loaded?

/-- The cursor that is stored after a trace: the one that was committed last, or
else the one that was stored before. -/
def storedAfter (stored : Option String) (trace : List Event) : Option String :=
  (commits trace).getLast?.getD stored

/-- The cursor that was committed last; before the first commit, the one that
the sync began with. -/
def lastCommitted (trace : List Event) : Option String :=
  storedAfter (loadedCursor? trace).join trace

@[simp] theorem answers_concat (trace : List Event) (event : Event) :
    answers (trace ++ [event]) = answers trace ++ event.answer?.toList := by
  cases h : event.answer? <;> simp [answers, h]

@[simp] theorem takenPages_concat (trace : List Event) (event : Event) :
    takenPages (trace ++ [event]) = takenPages trace ++ event.taken?.toList := by
  cases h : event.taken? <;> simp [takenPages, h]

@[simp] theorem commits_concat (trace : List Event) (event : Event) :
    commits (trace ++ [event]) = commits trace ++ event.committed?.toList := by
  cases h : event.committed? <;> simp [commits, h]

theorem storedAfter_concat_save (stored : Option String) (trace : List Event)
    (cursor : Option String) :
    storedAfter stored (trace ++ [⟨.save cursor, .saved (.ok ())⟩]) = cursor := by
  simp [storedAfter, Event.committed?]

theorem storedAfter_concat (stored : Option String) (trace : List Event) {event : Event}
    (hsave : event.committed? = none) :
    storedAfter stored (trace ++ [event]) = storedAfter stored trace := by
  simp [storedAfter, hsave]

theorem loadedCursor?_concat (trace : List Event) {event : Event} (hload : event.loaded? = none) :
    loadedCursor? (trace ++ [event]) = loadedCursor? trace := by
  simp [loadedCursor?, List.findSome?_append, hload]

theorem lastCommitted_concat_save (trace : List Event) (cursor : Option String) :
    lastCommitted (trace ++ [⟨.save cursor, .saved (.ok ())⟩]) = cursor := by
  rw [lastCommitted, storedAfter_concat_save]

/-- Neither a beginning nor a commit, an event leaves the committed cursor
alone. -/
theorem lastCommitted_concat (trace : List Event) {event : Event} (hload : event.loaded? = none)
    (hsave : event.committed? = none) :
    lastCommitted (trace ++ [event]) = lastCommitted trace := by
  rw [lastCommitted, loadedCursor?_concat trace hload, storedAfter_concat _ trace hsave,
    lastCommitted]

/-- A page that was taken over, and whether a cursor was committed after it. -/
structure Delivery where
  records : List Record
  committed : Bool

namespace Delivery

/-- What an event makes of the deliveries before it. A commit is one of the page
that was taken over last. -/
def after (before : List Delivery) (event : Event) : List Delivery :=
  match event.taken?, event.committed? with
  | some records, _ => before ++ [⟨records, false⟩]
  | none, some _ =>
      before.dropLast ++ (before.getLast?.map fun last => ⟨last.records, true⟩).toList
  | none, none => before

end Delivery

/-- The pages that were taken over, in order, with what became of each. -/
def deliveries (trace : List Event) : List Delivery := trace.foldl Delivery.after []

theorem deliveries_concat (trace : List Event) (event : Event) :
    deliveries (trace ++ [event]) = Delivery.after (deliveries trace) event := by
  simp [deliveries]

theorem deliveries_concat_other (trace : List Event) {event : Event} (htaken : event.taken? = none)
    (hcommitted : event.committed? = none) : deliveries (trace ++ [event]) = deliveries trace := by
  simp [deliveries_concat, Delivery.after, htaken, hcommitted]

theorem deliveries_concat_accept (trace : List Event) (records : List Record) :
    deliveries (trace ++ [⟨.accept records, .accepted (.ok ())⟩]) =
      deliveries trace ++ [⟨records, false⟩] := by
  simp [deliveries_concat, Delivery.after, Event.taken?]

theorem deliveries_concat_save (trace : List Event) (records : List Record)
    (cursor : Option String) :
    deliveries (trace ++ [⟨.accept records, .accepted (.ok ())⟩] ++
        [⟨.save cursor, .saved (.ok ())⟩]) = deliveries trace ++ [⟨records, true⟩] := by
  rw [deliveries_concat, deliveries_concat_accept]
  simp [Delivery.after, Event.taken?, Event.committed?]

theorem map_deliveries (trace : List Event) :
    (deliveries trace).map Delivery.records = takenPages trace := by
  induction trace using List.reverseRecOn with
  | nil => rfl
  | append_singleton rest event ih =>
      rw [takenPages_concat, deliveries_concat, ← ih]
      cases htaken : event.taken? with
      | some records => simp [Delivery.after, htaken]
      | none =>
          cases hcommitted : event.committed? with
          | none => simp [Delivery.after, htaken, hcommitted]
          | some cursor =>
              cases hlast : (deliveries rest).getLast? with
              | none =>
                  have hnil : deliveries rest = [] := by simpa using hlast
                  simp [Delivery.after, htaken, hcommitted, hnil]
              | some last =>
                  obtain ⟨front, hfront⟩ := List.getLast?_eq_some_iff.mp hlast
                  simp [Delivery.after, htaken, hcommitted, hfront]

namespace Sample

def users : DottedPath where
  segments := ["users"]
  segments_ne_nil := by decide
  isSegment := by
    simp only [List.mem_singleton, forall_eq, IsSegment]
    decide

def nodes : DottedPath where
  segments := ["users", "nodes"]
  segments_ne_nil := by decide
  isSegment := by
    simp only [List.mem_cons, List.not_mem_nil, or_false, forall_eq_or_imp, forall_eq, IsSegment]
    decide

def connector : Connector where
  endpoint := ⟨"https", some ⟨"", "api.example.com", none⟩, "/graphql", none, none⟩
  method := .post
  credentials := .none
  query := "query($after: String) \x7b users \x7d"
  fixedVariables := []
  headers := .empty
  idMap := ⟨Table.empty.insert nodes "id"⟩
  pagination := .cursor users
  timeout := 30

def page (id endCursor : String) (hasNextPage : Bool) : Json :=
  .object [("users", .object
    [("nodes", .array [.object [("id", .string id)]]),
      ("pageInfo", .object
        [("endCursor", .string endCursor), ("hasNextPage", .bool hasNextPage)])])]

def secondPageFails : List Reply :=
  [.loaded (.ok none), .granted, .answered (.ok (page "1" "a" true)), .accepted (.ok ()),
    .saved (.ok ()), .granted, .answered (.error (.timeout 3)), .elapsed,
    .answered (.error (.httpStatus 404 ""))]

end Sample

end PageHarvest.Sync
