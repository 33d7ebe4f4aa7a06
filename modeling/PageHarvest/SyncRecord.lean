import PageHarvest.Instant
import PageHarvest.Json.Document
import PageHarvest.Json.Printer

/-!
The durable record of how far a sync has come: the last committed cursor and
when it was committed. Its text is JSON, an object of the two or an array with
both in order. Members that are not known do not matter, whatever they hold.
-/

namespace PageHarvest

structure SyncRecord where
  /-- The cursor of the last committed page. -/
  lastCursor : Option String
  /-- When the record was written. -/
  updatedAt : Instant
deriving DecidableEq, Repr

namespace SyncRecord

def members (r : SyncRecord) : List (String × Json) :=
  [("last_cursor", Json.ofOption r.lastCursor), ("updated_at", .string r.updatedAt.text)]

def render (r : SyncRecord) : String := (Json.object r.members).pretty

/-- A cursor, or null for none. -/
def readCursor : Json.Document → Option (Option String)
  | .null => some none
  | .string (some s) => some (some s)
  | _ => none

def readInstant : Json.Document → Option Instant
  | .string (some s) => Instant.parse? s
  | _ => none

/-- The members read so far. -/
structure Found where
  cursor : Option (Option String) := none
  instant : Option Instant := none

/-- Goes through the members of an object. A known one may not be repeated. -/
def readMembers (found : Found) :
    List (Option String × Json.Document) → Option Found
  | [] => some found
  | (none, _) :: _ => none
  | (some name, value) :: rest =>
      if name = "last_cursor" then
        match found.cursor with
        | some _ => none
        | none => do readMembers { found with cursor := some (← readCursor value) } rest
      else if name = "updated_at" then
        match found.instant with
        | some _ => none
        | none => do readMembers { found with instant := some (← readInstant value) } rest
      else readMembers found rest

def ofDocument? : Json.Document → Option SyncRecord
  | .object members => do
      let found ← readMembers {} members
      return ⟨found.cursor.getD none, ← found.instant⟩
  | .array [cursor, instant] => do return ⟨← readCursor cursor, ← readInstant instant⟩
  | _ => none

def parse? (text : String) : Option SyncRecord := do
  ofDocument? (← Json.Document.parse? text.toList)

end SyncRecord

end PageHarvest
