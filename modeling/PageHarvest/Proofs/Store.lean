import PageHarvest.Proofs.Files.Faults
import PageHarvest.Proofs.Files.PlainFile
import PageHarvest.Proofs.SyncRecord
import PageHarvest.Proofs.Text.Utf8
import PageHarvest.Store

/-!
A store in a file against a store in memory. Whatever fails or stops, what is
loaded from the file is what the last complete save or reset left there: a
record is written beside its place, where no one reads, and it is moved there
by the last step of the save.
-/

namespace PageHarvest.Store

open Files Files.FileTree

/-- A record that was written is read back. -/
theorem recordOf_render (path : String) {record : SyncRecord}
    (h : record.updatedAt.isValid = true) :
    recordOf path (Text.utf8Bytes record.render.toList) = .ok record := by
  have htext : textOf (Text.utf8Bytes record.render.toList) = .ok record.render := by
    rw [textOf, Text.utf8Chars?_utf8Bytes]
    simp
  rw [recordOf, htext]
  simp only [SyncRecord.parse?_render h]

def ofRead (path : String) : Except Fault (List UInt8) → Except Error (Option SyncRecord)
  | .ok bytes => (recordOf path bytes).map some
  | .error .notFound => .ok none
  | .error f => .error (fault ("read state file " ++ path) f.message)

theorem load_file (path : String) :
    load (.file path) = .read path fun r => .done (ofRead path r) := by
  rw [load]
  congr
  funext r
  rcases r with f | bytes
  · cases f <;> rfl
  · rfl

theorem ofRead_error (path : String) {f : Fault} (h : f ≠ .notFound) :
    ofRead path (.error f) = .error (fault ("read state file " ++ path) f.message) := by
  cases f with
  | notFound => exact absurd rfl h
  | _ => rfl

def ofRemove : Except Fault Unit → Except Error Unit
  | .ok () | .error .notFound => .ok ()
  | .error f => .error (fault "remove state file" f.message)

theorem reset_file (path : String) :
    reset (.file path) = .remove path fun r => .done (ofRemove r, .file path) := by
  rw [reset]
  congr
  funext r
  rcases r with f | _
  · cases f <;> rfl
  · rfl

theorem ofRemove_error {f : Fault} (h : f ≠ .notFound) :
    ofRemove (.error f) = .error (fault "remove state file" f.message) := by
  cases f with
  | notFound => exact absurd rfl h
  | _ => rfl

def loaded (path : String) (t : FileTree) : Except Error (Option SyncRecord) :=
  (t.carryOut (load (.file path))).1

def success? {α : Type} (outcome : Outcome (Except Error α × Store)) : Option α :=
  match outcome.value? with
  | some (.ok result, _) => some result
  | _ => none

section Success

variable {α : Type} {outcome : Outcome (Except Error α × Store)} {store : Store}

theorem success?_ok {result : α} (h : outcome.value? = some (.ok result, store)) :
    success? outcome = some result := by
  rw [success?, h]

theorem success?_error {e : Error} (h : outcome.value? = some (.error e, store)) :
    success? outcome = none := by
  rw [success?, h]

end Success

section Operations

variable {t u : FileTree} {path : String}

theorem loaded_eq_ofRead (path : String) (t : FileTree) :
    loaded path t = ofRead path (t.read path) := by
  rw [loaded, load_file]
  rfl

/-- What is loaded depends on what stands at the place of the file alone. -/
theorem loaded_eq (h : t.PlainFile path) :
    loaded path t =
      match t.entry? (place path) with
      | some (.file bytes) => (recordOf path bytes).map some
      | _ => .ok none := by
  rw [loaded_eq_ofRead, h.read_eq]
  cases hentry : t.entry? (place path) with
  | none => rfl
  | some e =>
      cases e with
      | directory => exact absurd hentry h.noDirectory
      | file bytes => rfl

theorem loaded_congr (ht : t.PlainFile path) (hu : u.PlainFile path)
    (h : u.entry? (place path) = t.entry? (place path)) : loaded path u = loaded path t := by
  rw [loaded_eq ht, loaded_eq hu, h]

theorem loaded_none (h : t.PlainFile path) (hentry : t.entry? (place path) = none) :
    loaded path t = .ok none := by
  rw [loaded_eq h, hentry]

theorem loaded_record (h : t.PlainFile path) {record : SyncRecord}
    (hentry : t.entry? (place path) = some (.file (Text.utf8Bytes record.render.toList)))
    (hvalid : record.updatedAt.isValid = true) :
    loaded path t = .ok (some record) := by
  rw [loaded_eq h, hentry]
  simp only [recordOf_render path hvalid]
  rfl

theorem beside_temporary {name : String} (h : fileName? path = some name) :
    Beside (temporary path) path := by
  have hlength : (name ++ ".tmp").toList.length = name.toList.length + 4 := by simp
  have hdiffers : ∀ other : String, other.toList.length ≠ name.toList.length + 4 →
      name ++ ".tmp" ≠ other := by
    rintro other hother rfl
    exact hother hlength
  have hslash : '/' ∉ name.toList :=
    (isName_of_mem_names (List.mem_of_getLast? (fileName?_eq_some h).1)).2.2
  have hname : IsName (name ++ ".tmp") :=
    ⟨hdiffers "" (by simp), hdiffers "." (by simp), by simp [hslash]⟩
  rw [temporary, h]
  exact beside_sibling h hname (hdiffers ".." (by simp)) (hdiffers name (by omega))

/-- A load changes nothing. It gives what is there, unless reading fails. -/
theorem load_carried {outcome : Outcome (Except Error (Option SyncRecord))}
    (h : Carried t (load (.file path)) outcome u) :
    u = t ∧ ∀ result, outcome.value? = some result → result = loaded path t ∨
      ∃ f : Fault, f ≠ .notFound ∧
        result = .error (fault ("read state file " ++ path) f.message) := by
  rw [load_file] at h
  cases h with
  | stops hleft =>
      cases hleft with
      | nothing => exact ⟨rfl, by simp [Outcome.value?]⟩
  | @fails _ _ _ _ _ f _ hleft hfail hrest =>
      cases hleft with
      | nothing =>
          rw [Script.fail?] at hfail
          split at hfail
          · cases hfail
          · next hf =>
              cases hfail
              obtain ⟨rfl, hvalue⟩ := hrest.of_done
              refine ⟨rfl, fun result hresult => .inr ⟨f, hf, ?_⟩⟩
              rw [← ofRead_error path hf]
              exact Option.some.inj (hresult.symm.trans hvalue)
  | goes hstep hrest =>
      cases hstep
      obtain ⟨rfl, hvalue⟩ := hrest.of_done
      refine ⟨rfl, fun result hresult => .inl ?_⟩
      rw [loaded_eq_ofRead]
      exact Option.some.inj (hresult.symm.trans hvalue)

/-- A reset forgets the record if it says so, and otherwise leaves it. -/
theorem reset_carried {outcome : Outcome (Except Error Unit × Store)} (h : t.PlainFile path)
    (hreset : Carried t (reset (.file path)) outcome u) :
    u.PlainFile path ∧ (success? outcome = some () ∧ u.entry? (place path) = none ∨
      success? outcome = none ∧ u.entry? (place path) = t.entry? (place path)) := by
  rw [reset_file] at hreset
  cases hreset with
  | stops hleft =>
      cases hleft with
      | nothing => exact ⟨h, .inr ⟨rfl, rfl⟩⟩
  | @fails _ _ _ _ _ f _ hleft hfail hrest =>
      cases hleft with
      | nothing =>
          rw [Script.fail?] at hfail
          split at hfail
          · cases hfail
          · next hf =>
              cases hfail
              obtain ⟨rfl, hvalue⟩ := hrest.of_done
              rw [ofRemove_error hf] at hvalue
              exact ⟨h, .inr ⟨success?_error hvalue, rfl⟩⟩
  | goes hstep hrest =>
      cases hstep
      obtain ⟨rfl, hvalue⟩ := hrest.of_done
      rcases h.remove_cases with ⟨hremove, hnone⟩ | ⟨hremove, hplain, hnone⟩
      · rw [hremove] at hvalue ⊢
        exact ⟨h, .inl ⟨success?_ok hvalue, hnone⟩⟩
      · rw [hremove] at hvalue ⊢
        exact ⟨hplain, .inl ⟨success?_ok hvalue, hnone⟩⟩

end Operations

section Saving

variable {t u v : FileTree} {path : String} {record : SyncRecord}
  {outcome : Outcome (Except Error SyncRecord × Store)}

/-- How a save ends: with the new record at the place of the file, or with what
stood there before. -/
def Saves (path : String) (record : SyncRecord) (t : FileTree)
    (outcome : Outcome (Except Error SyncRecord × Store)) (u : FileTree) : Prop :=
  u.PlainFile path ∧
    (success? outcome = some record ∧
        u.entry? (place path) = some (.file (Text.utf8Bytes record.render.toList)) ∨
      success? outcome = none ∧ u.entry? (place path) = t.entry? (place path))

theorem Saves.of_stopped (h : u.PlainFile path)
    (hplace : u.entry? (place path) = t.entry? (place path)) :
    Saves path record t .stopped u :=
  ⟨h, .inr ⟨rfl, hplace⟩⟩

theorem Saves.of_kept (hplace : u.entry? (place path) = t.entry? (place path))
    (h : Saves path record u outcome v) : Saves path record t outcome v := by
  rw [Saves, hplace] at h
  exact h

def guarded (action path : String) (rest : Script (Except Error SyncRecord × Store)) :
    Except Fault Unit → Script (Except Error SyncRecord × Store)
  | .error f => .done (.error (fault action f.message), .file path)
  | .ok () => rest

theorem guarded_error {action : String} {rest : Script (Except Error SyncRecord × Store)}
    {f : Fault} (h : t.PlainFile path)
    (hrest : Carried t (guarded action path rest (.error f)) outcome u) :
    Saves path record t outcome u := by
  obtain ⟨rfl, hvalue⟩ := hrest.of_done
  exact ⟨h, .inr ⟨success?_error hvalue, rfl⟩⟩

def moving (path : String) (record : SyncRecord) : Script (Except Error SyncRecord × Store) :=
  .rename (temporary path) path
    (guarded "rename state file" path (.done (.ok record, .file path)))

def writing (path : String) (record : SyncRecord) : Script (Except Error SyncRecord × Store) :=
  .write (temporary path) (Text.utf8Bytes record.render.toList)
    (guarded "write state file" path (moving path record))

theorem replaceFile_bind (path : String) (record : SyncRecord) :
    (replaceFile path record).bind (fun r => .done (r, .file path)) = writing path record := by
  rw [replaceFile, writing, Script.bind]
  congr
  funext r
  rcases r with f | _
  · rfl
  · rw [guarded, moving, Script.bind]
    congr
    funext r
    cases r <;> rfl

theorem save_file (path : String) (cursor : Option String) (now : Instant) :
    save (.file path) cursor now =
      match (parent? path).filter (· != "") with
      | none => writing path ⟨cursor, now⟩
      | some directory =>
          .makeDirectories directory
            (guarded "create state directory" path (writing path ⟨cursor, now⟩)) := by
  rw [save, saveFile]
  cases (parent? path).filter (· != "") with
  | none => exact replaceFile_bind path ⟨cursor, now⟩
  | some directory =>
      simp only [Script.bind]
      congr
      funext r
      rcases r with f | _
      · rfl
      · exact replaceFile_bind path ⟨cursor, now⟩

theorem moving_saves (h : t.PlainFile path)
    (hwritten : t.entry? (place (temporary path)) =
      some (.file (Text.utf8Bytes record.render.toList)))
    (hmoving : Carried t (moving path record) outcome u) : Saves path record t outcome u := by
  obtain ⟨name, hname, -⟩ := h.named
  cases hmoving with
  | stops hleft => cases hleft with | nothing => exact .of_stopped h rfl
  | fails hleft hfail hrest =>
      cases hleft with
      | nothing =>
          cases hfail
          exact guarded_error h hrest
  | goes hstep hrest =>
      cases hstep
      rcases h.rename_beside (beside_temporary hname) with
        ⟨f, hrename⟩ | ⟨bytes, moved, hbytes, hrename, hplain, hplace⟩
      · rw [hrename] at hrest
        exact guarded_error h hrest
      · rw [hrename] at hrest
        obtain ⟨rfl, hvalue⟩ := hrest.of_done
        cases hbytes.symm.trans hwritten
        exact ⟨hplain, .inl ⟨success?_ok hvalue, hplace⟩⟩

theorem writing_saves (h : t.PlainFile path)
    (hwriting : Carried t (writing path record) outcome u) : Saves path record t outcome u := by
  obtain ⟨name, hname, -⟩ := h.named
  have hbeside := beside_temporary hname
  cases hwriting with
  | stops hleft =>
      cases hleft with
      | nothing => exact .of_stopped h rfl
      | bytes _ _ _ part =>
          obtain ⟨hplain, hplace⟩ := h.write_beside hbeside part
          exact .of_stopped hplain hplace
  | fails hleft hfail hrest =>
      cases hfail
      cases hleft with
      | nothing => exact guarded_error h hrest
      | bytes _ _ _ part =>
          obtain ⟨hplain, hplace⟩ := h.write_beside hbeside part
          exact .of_kept hplace (guarded_error hplain hrest)
  | goes hstep hrest =>
      cases hstep
      obtain ⟨hplain, hplace⟩ := h.write_beside hbeside (Text.utf8Bytes record.render.toList)
      obtain ⟨other, hother⟩ := hbeside.named
      rcases write_cases (t := t) hother (Text.utf8Bytes record.render.toList) with
        ⟨f, hwrite⟩ | ⟨hwrite, -⟩
      · rw [hwrite] at hrest
        exact guarded_error h hrest
      · rw [hwrite] at hrest hplain hplace
        exact .of_kept hplace (moving_saves hplain (entry?_put_self (place_ne_nil hother) rfl) hrest)

theorem names_directory {directory : String}
    (h : (parent? path).filter (· != "") = some directory) :
    names directory = (names path).dropLast := by
  have hparent := (Option.filter_eq_some_iff.mp h).1
  rw [parent?] at hparent
  split at hparent
  · cases hparent
  · cases hparent
    exact names_ofNames _ fun n hn => isName_of_mem_names (List.dropLast_subset _ hn)

theorem makeDirectories_kept {directory : String} (h : t.PlainFile path)
    (hdirectory : (parent? path).filter (· != "") = some directory) :
    (t.makeDirectories directory).2.PlainFile path ∧
      entry? (t.makeDirectories directory).2 (place path) = t.entry? (place path) := by
  rw [makeDirectories, names_directory hdirectory]
  split
  · exact ⟨h, rfl⟩
  · have hmade := h.makeFrom (names path).dropLast.length
    rwa [List.take_length] at hmade

/-- A save leaves its record if it says so, and otherwise what was there. -/
theorem save_carried {cursor : Option String} {now : Instant} (h : t.PlainFile path)
    (hsave : Carried t (save (.file path) cursor now) outcome u) :
    Saves path ⟨cursor, now⟩ t outcome u := by
  rw [save_file] at hsave
  split at hsave
  · exact writing_saves h hsave
  · next directory hdirectory =>
      have hnames := names_directory hdirectory
      cases hsave with
      | stops hleft =>
          cases hleft with
          | nothing => exact .of_stopped h rfl
          | directories _ _ count =>
              rw [hnames]
              obtain ⟨hplain, hplace⟩ := h.makeFrom count
              exact .of_stopped hplain hplace
      | fails hleft hfail hrest =>
          cases hfail
          cases hleft with
          | nothing => exact guarded_error h hrest
          | directories _ _ count =>
              rw [hnames] at hrest
              obtain ⟨hplain, hplace⟩ := h.makeFrom count
              exact .of_kept hplace (guarded_error hplain hrest)
      | goes hstep hrest =>
          cases hstep
          obtain ⟨hplain, hplace⟩ := makeDirectories_kept h hdirectory
          cases hresult : (t.makeDirectories directory).1 with
          | error f =>
              rw [hresult] at hrest
              exact .of_kept hplace (guarded_error hplain hrest)
          | ok =>
              rw [hresult] at hrest
              exact .of_kept hplace (writing_saves hplain hrest)

end Saving

end PageHarvest.Store
