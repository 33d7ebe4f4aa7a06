import PageHarvest.Proofs.Instant
import PageHarvest.Proofs.Json.Strings
import PageHarvest.SyncRecord

/-!
The text of a record is read back to that record, whatever its cursor is. The
text is an object of two members over several lines; the reader passes over the
blanks between the tokens, and each member is read back on its own.
-/

namespace PageHarvest.SyncRecord

open Json

def cursorDocument : Option String → Document
  | none => .null
  | some cursor => .string (some cursor)

theorem readValue_space (fuel : Nat) (s : List Char) :
    readValue (fuel + 1) (' ' :: s) = readValue (fuel + 1) s := by
  simp [readValue, skipSpace, isSpace]

theorem skipSpace_newLine (depth : Nat) (s : List Char) :
    skipSpace (newLine depth ++ s) = skipSpace s := by
  have hspace : ∀ c ∈ newLine depth, isSpace c = true := by
    intro c hc
    rcases List.mem_cons.mp hc with rfl | hc
    · decide
    · rw [List.eq_of_mem_replicate hc]
      decide
  exact List.dropWhile_append_of_pos hspace

theorem readMembers_newLine (fuel depth : Nat) (s : List Char) :
    Json.readMembers (fuel + 1) (newLine depth ++ s) = Json.readMembers (fuel + 1) s := by
  rw [Json.readMembers, Json.readMembers, skipSpace_newLine]

theorem readValue_cursor (fuel depth : Nat) (cursor : Option String) (rest : List Char) :
    readValue (fuel + 1) (renderPretty depth (Json.ofOption cursor) ++ rest) =
      some (cursorDocument cursor, rest) := by
  cases cursor with
  | none => simp [Json.ofOption, renderPretty, readValue, skipSpace, isSpace, cursorDocument]
  | some s => exact readValue_quoted fuel s rest

def memberDocuments (r : SyncRecord) : List (Option String × Document) :=
  [(some "last_cursor", cursorDocument r.lastCursor),
    (some "updated_at", .string (some r.updatedAt.text))]

def memberText (r : SyncRecord) : List Char :=
  newLine 1 ++ (quoted "last_cursor" ++ ':' :: (' ' :: (renderPretty 1 (.ofOption r.lastCursor) ++
    (',' :: (newLine 1 ++ (quoted "updated_at" ++ ':' :: (' ' ::
      (quoted r.updatedAt.text ++ (newLine 0 ++ ['}'])))))))))

theorem toList_render (r : SyncRecord) : r.render.toList = '{' :: r.memberText := by
  simp [render, members, pretty, renderPretty, prettyMembers, memberText]

theorem readMembers_memberText (r : SyncRecord) (fuel : Nat) :
    Json.readMembers (fuel + 3) r.memberText = some (r.memberDocuments, []) := by
  have hcursor (rest : List Char) :
      readValue (fuel + 2) (' ' :: (renderPretty 1 (.ofOption r.lastCursor) ++ rest)) =
        some (cursorDocument r.lastCursor, rest) := by
    rw [readValue_space, readValue_cursor]
  have hinstant (rest : List Char) :
      readValue (fuel + 1) (' ' :: (quoted r.updatedAt.text ++ rest)) =
        some (.string (some r.updatedAt.text), rest) := by
    rw [readValue_space, readValue_quoted]
  rw [memberText, readMembers_newLine, readMembers_cons "last_cursor" (hcursor _) rfl,
    readMembers_newLine, readMembers_last "updated_at" (hinstant _) (skipSpace_newLine ..)]
  rfl

/-- The text of a record is the document of its members. -/
theorem parse?_document (r : SyncRecord) :
    Document.parse? r.render.toList = some (.object r.memberDocuments) := by
  have hfirst : skipSpace r.memberText = _ := skipSpace_newLine 1 _
  rw [quoted_append] at hfirst
  rw [toList_render, parse?_object hfirst r.readMembers_memberText]

/-- A record whose time exists is read back from its text. -/
theorem parse?_render {r : SyncRecord} (h : r.updatedAt.isValid = true) :
    parse? r.render = some r := by
  have hinstant : readInstant (.string (some r.updatedAt.text)) = some r.updatedAt :=
    Instant.parse?_text h
  have hcursor : readCursor (cursorDocument r.lastCursor) = some r.lastCursor := by
    cases r.lastCursor <;> rfl
  rw [parse?, parse?_document]
  simp [ofDocument?, memberDocuments, readMembers, hcursor, hinstant]

end PageHarvest.SyncRecord
