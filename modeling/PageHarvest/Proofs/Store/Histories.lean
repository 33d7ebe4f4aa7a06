import PageHarvest.Proofs.Store

/-!
Histories of a store in a file: loads, saves and resets, one after another, each
of which may fail or be stopped at any of its steps. At every point of a history
a load gives what the operations that ended well would have left in memory.
-/

namespace PageHarvest.Store

open Files Files.FileTree

/-- An operation on the store and how it ended. -/
inductive Event where
  | load (outcome : Outcome (Except Error (Option SyncRecord)))
  | save (cursor : Option String) (now : Instant)
      (outcome : Outcome (Except Error SyncRecord × Store))
  | reset (outcome : Outcome (Except Error Unit × Store))

def Happens (path : String) (t : FileTree) : Event → FileTree → Prop
  | .load outcome, u => Carried t (Store.load (.file path)) outcome u
  | .save cursor now outcome, u =>
      now.isValid = true ∧ Carried t (Store.save (.file path) cursor now) outcome u
  | .reset outcome, u => Carried t (Store.reset (.file path)) outcome u

/-- Operations one after another. -/
inductive History (path : String) : FileTree → List Event → FileTree → Prop where
  | nil (t : FileTree) : History path t [] t
  | cons {t u v : FileTree} {event : Event} {events : List Event}
      (hevent : Happens path t event u) (hrest : History path u events v) :
      History path t (event :: events) v

/-- What a load is to give after an operation, by what it would have given
before: the record of a save that ended well, nothing after a reset that ended
well, and the same as before in any other case. -/
def standingAfter (before : Except Error (Option SyncRecord)) :
    Event → Except Error (Option SyncRecord)
  | .load _ => before
  | .save _ _ outcome =>
      match success? outcome with
      | some record => .ok (some record)
      | none => before
  | .reset outcome => if (success? outcome).isSome then .ok none else before

def standing (start : Except Error (Option SyncRecord)) (events : List Event) :
    Except Error (Option SyncRecord) :=
  events.foldl standingAfter start

def mirrorAfter (store : Store) : Event → Store
  | .load _ => store
  | .save cursor now outcome =>
      if (success? outcome).isSome then (FileTree.empty.carryOut (store.save cursor now)).1.2
      else store
  | .reset outcome =>
      if (success? outcome).isSome then (FileTree.empty.carryOut store.reset).1.2 else store

def mirror (store : Store) (events : List Event) : Store := events.foldl mirrorAfter store

section Events

variable {path : String} {t u v : FileTree} {event : Event} {events : List Event}

/-- One operation leaves what it should for the next load. -/
theorem happens_loaded (h : t.PlainFile path) (hevent : Happens path t event u) :
    u.PlainFile path ∧ loaded path u = standingAfter (loaded path t) event := by
  cases event with
  | load outcome =>
      obtain ⟨rfl, -⟩ := load_carried hevent
      exact ⟨h, rfl⟩
  | save cursor now outcome =>
      obtain ⟨hnow, hcarried⟩ := hevent
      obtain ⟨hplain, ⟨hsuccess, hplace⟩ | ⟨hsuccess, hplace⟩⟩ := save_carried h hcarried
      · refine ⟨hplain, ?_⟩
        simp only [loaded_record hplain hplace hnow, standingAfter, hsuccess]
      · refine ⟨hplain, ?_⟩
        simp only [loaded_congr h hplain hplace, standingAfter, hsuccess]
  | reset outcome =>
      obtain ⟨hplain, ⟨hsuccess, hplace⟩ | ⟨hsuccess, hplace⟩⟩ := reset_carried h hevent
      · refine ⟨hplain, ?_⟩
        rw [loaded_none hplain hplace, standingAfter, hsuccess]
        rfl
      · refine ⟨hplain, ?_⟩
        rw [loaded_congr h hplain hplace, standingAfter, hsuccess]
        rfl

theorem history_loaded (h : t.PlainFile path) (hevents : History path t events u) :
    u.PlainFile path ∧ loaded path u = standing (loaded path t) events := by
  induction hevents with
  | nil t => exact ⟨h, rfl⟩
  | cons hevent hrest ih =>
      obtain ⟨hplain, hloaded⟩ := happens_loaded h hevent
      obtain ⟨hplain', hloaded'⟩ := ih hplain
      exact ⟨hplain', by rw [hloaded', hloaded]; rfl⟩

/-- One operation does the same to a store in memory. -/
theorem mirrorAfter_memory (h : t.PlainFile path) (hevent : Happens path t event u)
    (record : Option SyncRecord) :
    ∃ kept, mirrorAfter (.memory record) event = .memory kept ∧
      standingAfter (.ok record) event = .ok kept := by
  cases event with
  | load outcome => exact ⟨record, rfl, rfl⟩
  | save cursor now outcome =>
      obtain ⟨-, ⟨hsuccess, -⟩ | ⟨hsuccess, -⟩⟩ := save_carried h hevent.2
      · exact ⟨some ⟨cursor, now⟩, by rw [mirrorAfter, hsuccess]; rfl,
          by simp only [standingAfter, hsuccess]⟩
      · exact ⟨record, by rw [mirrorAfter, hsuccess]; rfl,
          by simp only [standingAfter, hsuccess]⟩
  | reset outcome =>
      cases hsuccess : success? outcome with
      | none => exact ⟨record, by rw [mirrorAfter, hsuccess]; rfl,
          by rw [standingAfter, hsuccess]; rfl⟩
      | some _ => exact ⟨none, by rw [mirrorAfter, hsuccess]; rfl,
          by rw [standingAfter, hsuccess]; rfl⟩

theorem mirror_memory (h : t.PlainFile path) (hevents : History path t events u)
    (record : Option SyncRecord) :
    ∃ kept, mirror (.memory record) events = .memory kept ∧
      standing (.ok record) events = .ok kept := by
  induction hevents generalizing record with
  | nil t => exact ⟨record, rfl, rfl⟩
  | cons hevent hrest ih =>
      obtain ⟨next, hmirror, hstanding⟩ := mirrorAfter_memory h hevent record
      obtain ⟨hplain, -⟩ := happens_loaded h hevent
      obtain ⟨kept, hmirror', hstanding'⟩ := ih hplain next
      refine ⟨kept, ?_, ?_⟩
      · rw [← hmirror', ← hmirror]
        rfl
      · rw [← hstanding', ← hstanding]
        rfl

/-- A history can be cut at any point. -/
theorem history_append {front back : List Event} (h : History path t (front ++ back) v) :
    ∃ u, History path t front u ∧ History path u back v := by
  induction front generalizing t with
  | nil => exact ⟨t, .nil t, h⟩
  | cons event front ih =>
      cases h with
      | cons hevent hrest =>
          obtain ⟨u, hfront, hback⟩ := ih hrest
          exact ⟨u, .cons hevent hfront, hback⟩

end Events

/-- The store in a file loads what the store in memory does. After any history,
in which every operation may fail or be stopped at any step, a load gives what
stands by the saves and resets that ended well; each load of the history gave
that, unless reading failed; a store in memory that took part in the operations
that ended well gives the same; and a file left beside the place does not
matter. -/
theorem file_store_matches_memory_store {path : String} {t u : FileTree} {events : List Event}
    (hplain : t.PlainFile path) (h : History path t events u) :
    loaded path u = standing (loaded path t) events ∧
    (∀ front outcome back result, events = front ++ .load outcome :: back →
      outcome.value? = some result → result = standing (loaded path t) front ∨
        ∃ f : Fault, f ≠ .notFound ∧
          result = .error (fault ("read state file " ++ path) f.message)) ∧
    (∀ record front back, loaded path t = .ok record → events = front ++ back →
      (u.carryOut (load (mirror (.memory record) front))).1 = standing (loaded path t) front) ∧
    ∀ bytes, loaded path (u.write (temporary path) bytes).2 = loaded path u := by
  obtain ⟨hafter, hloaded⟩ := history_loaded hplain h
  refine ⟨hloaded, ?_, ?_, ?_⟩
  · rintro front outcome back result rfl hresult
    obtain ⟨v, hfront, hback⟩ := history_append h
    cases hback with
    | cons hevent hrest =>
        obtain ⟨-, hgiven⟩ := load_carried hevent
        rw [← (history_loaded hplain hfront).2]
        exact hgiven result hresult
  · rintro record front back hstart rfl
    obtain ⟨v, hfront, -⟩ := history_append h
    obtain ⟨kept, hmirror, hstanding⟩ := mirror_memory hplain hfront record
    rw [hmirror, hstart, hstanding]
    rfl
  · intro bytes
    obtain ⟨name, hname, -⟩ := hafter.named
    obtain ⟨hwritten, hplace⟩ := hafter.write_beside (beside_temporary hname) bytes
    exact loaded_congr hafter hwritten hplace

namespace Sample

def path : String := "state/cursor.json"

def now : Instant := Instant.ofUnix 1700000000 0

def record (cursor : String) : SyncRecord := ⟨some cursor, now⟩

/-- The files after a save that was stopped when it had written one byte. -/
def cut : FileTree := ((FileTree.empty.makeDirectories "state").2.write (temporary path) [0x7B]).2

/-- The files after a save that met no fault. -/
def saved : FileTree := (cut.carryOut (save (.file path) (some "second") now)).2

def kept : FileTree :=
  (saved.write (temporary path) (Text.utf8Bytes (record "third").render.toList)).2

def stuck : Outcome (Except Error SyncRecord × Store) :=
  .returned (.error (fault "rename state file" "Input/output error (os error 5)"), .file path)

def events : List Event :=
  [.save (some "first") now .stopped,
    .save (some "second") now (.returned (.ok (record "second"), .file path)),
    .save (some "third") now stuck]

theorem plainFile_empty : FileTree.empty.PlainFile path where
  noNull := by decide
  named := ⟨"cursor.json", by decide, by decide⟩
  short := by decide
  passable := by decide
  apart := by decide
  noDirectory := by decide
  reached := fun h => absurd rfl h

theorem history_events : History path FileTree.empty events kept := by
  have hparent : (parent? path).filter (· != "") = some "state" := by decide
  have hsave (cursor : String) : save (.file path) (some cursor) now =
      .makeDirectories "state" (guarded "create state directory" path
        (writing path (record cursor))) := by
    rw [save_file, hparent]
    rfl
  have hfirst : Happens path .empty (.save (some "first") now .stopped) cut := by
    refine ⟨by decide, ?_⟩
    rw [hsave]
    exact .goes rfl (.stops (.bytes _ _ _ _ _))
  have hwell : (cut.carryOut (save (.file path) (some "second") now)).1 =
      (.ok (record "second"), .file path) := by
    decide +kernel
  have hsecond : Happens path cut
      (.save (some "second") now (.returned (.ok (record "second"), .file path))) saved :=
    ⟨by decide, hwell ▸ Carried.carryOut cut _⟩
  have hthird : Happens path saved (.save (some "third") now stuck) kept := by
    refine ⟨by decide, ?_⟩
    rw [hsave]
    have hfail : (moving path (record "third")).fail? (.other "Input/output error (os error 5)") =
        some (guarded "rename state file" path (.done (.ok (record "third"), .file path))
          (.error (.other "Input/output error (os error 5)"))) :=
      rfl
    exact .goes rfl (.goes rfl (.fails (.nothing rfl) hfail (.returns kept _)))
  exact .cons hfirst (.cons hsecond (.cons hthird (.nil _)))

end Sample

/-- Neither the save that was cut off nor the one that failed is ever loaded. -/
theorem unfinished_saves_are_not_loaded :
    FileTree.empty.PlainFile Sample.path ∧
      History Sample.path FileTree.empty Sample.events Sample.kept ∧
      loaded Sample.path Sample.kept = .ok (some (Sample.record "second")) := by
  refine ⟨Sample.plainFile_empty, Sample.history_events, ?_⟩
  have hloaded :=
    (file_store_matches_memory_store Sample.plainFile_empty Sample.history_events).1
  rw [hloaded]
  rfl

end PageHarvest.Store
