import PageHarvest.Proofs.Files.Tree

/-!
Paths that lead to a file, or to a place where a file can stand once the missing
directories on the way are made. Reading such a path depends on what stands at
its place alone. What is done to a file beside it leaves the place as it is,
until that file is moved there.
-/

namespace PageHarvest.Files

def place (path : String) : Location :=
  walk [] (names path).dropLast ++ (names path).getLast?.toList

def way (path : String) : List Location := passed [] (names path).dropLast

section Name

variable {path name : String}

theorem fileName?_eq_some (h : fileName? path = some name) :
    (names path).getLast? = some name ∧ name ≠ ".." := by
  obtain ⟨hlast, hup⟩ := Option.filter_eq_some_iff.mp h
  exact ⟨hlast, by simpa using hup⟩

theorem place_of_fileName (h : fileName? path = some name) :
    place path = walk [] (names path).dropLast ++ [name] := by
  rw [place, (fileName?_eq_some h).1]
  rfl

theorem place_ne_nil (h : fileName? path = some name) : place path ≠ [] := by
  simp [place_of_fileName h]

theorem isName_place (path : String) : ∀ n ∈ place path, IsName n := by
  have hwalk : ∀ n ∈ walk [] (names path).dropLast, IsName n :=
    isName_walk (by simp) fun n hn => isName_of_mem_names (List.dropLast_subset _ hn)
  intro n hn
  rcases List.mem_append.mp hn with hmem | hmem
  · exact hwalk n hmem
  · exact isName_of_mem_names (List.mem_of_getLast? (Option.mem_toList.mp hmem))

theorem isName_way (path : String) : ∀ m ∈ way path, ∀ n ∈ m, IsName n :=
  isName_passed (by simp) fun _ hn => isName_of_mem_names (List.dropLast_subset _ hn)

end Name

/-- Two paths of different files in one directory. -/
structure Beside (other path : String) : Prop where
  named : ∃ name, fileName? other = some name
  way_eq : way other = way path
  place_ne : (place other).path ≠ (place path).path

/-- A path is beside the one from which it is made by another name. -/
theorem beside_sibling {path name other : String} (hname : fileName? path = some name)
    (hother : IsName other) (hup : other ≠ "..") (hne : other ≠ name) :
    Beside (sibling path other) path := by
  have hnames : names (sibling path other) = (names path).dropLast ++ [other] := by
    rw [sibling, hname]
    refine names_ofNames _ fun n hn => ?_
    rcases List.mem_append.mp hn with hmem | hmem
    · exact isName_of_mem_names (List.dropLast_subset _ hmem)
    · rw [List.mem_singleton.mp hmem]
      exact hother
  have hfile : fileName? (sibling path other) = some other := by
    simp [fileName?, hnames, hup]
  refine ⟨⟨other, hfile⟩, by simp [way, hnames], fun heq => hne ?_⟩
  have hplaces := Location.path_injective (isName_place _) (isName_place _) heq
  rw [place_of_fileName hfile, place_of_fileName hname, hnames, List.dropLast_concat] at hplaces
  simpa using hplaces

namespace FileTree

variable {t u : FileTree} {k m : Location} {e : Entry} {path : String}

theorem path_ne_of_directory (hk : t.entry? k ≠ some .directory) (hroot : m ≠ [])
    (hm : t.entry? m = some .directory) : k.path ≠ m.path := by
  have hne : k ≠ [] := by
    rintro rfl
    exact hk rfl
  exact fun heq => hk ((entry?_congr hne hroot heq).trans hm)

theorem directory_put (hk : t.entry? k ≠ some .directory) (hm : t.entry? m = some .directory) :
    entry? (t.put k e) m = some .directory := by
  by_cases hroot : m = []
  · simp [hroot, entry?]
  · rw [entry?_put_of_ne (path_ne_of_directory hk hroot hm), hm]

theorem directory_take (hk : t.entry? k ≠ some .directory) (hm : t.entry? m = some .directory) :
    entry? (t.take k) m = some .directory := by
  by_cases hroot : m = []
  · simp [hroot, entry?]
  · rw [entry?_take_of_ne (path_ne_of_directory hk hroot hm), hm]

/-- A path that leads anywhere leads to its place, through directories. -/
theorem target_ok {name : String} {target : Target} (hname : fileName? path = some name)
    (h : t.target path = .ok target) :
    (∀ m ∈ way path, t.entry? m = some .directory) ∧ target.location = place path ∧
      target.entry = t.entry? (place path) := by
  obtain ⟨hlast, hup⟩ := fileName?_eq_some hname
  rw [FileTree.target] at h
  split at h
  · cases h
  split at h
  · cases h
  cases hfollow : t.follow [] (names path).dropLast with
  | error f =>
      simp [hfollow, bind, Except.bind] at h
  | ok above =>
      obtain ⟨rfl, hway⟩ := follow_ok hfollow
      rw [place_of_fileName hname]
      simp only [hfollow, hlast, bind, Except.bind] at h
      split at h
      · cases h
      · cases h
        exact ⟨hway, rfl, rfl⟩

theorem fileLocation_ok {target : Target} (h : fileLocation target = .ok k) :
    k = target.location ∧ target.entry ≠ some .directory := by
  obtain ⟨l, entry, asDirectory⟩ := target
  rcases entry with _ | _ | bytes <;> cases asDirectory <;> simp_all [fileLocation]

theorem target_fileLocation {name : String} (hname : fileName? path = some name)
    (h : t.target path >>= fileLocation = .ok k) :
    k = place path ∧ t.entry? (place path) ≠ some .directory ∧
      ∀ m ∈ way path, t.entry? m = some .directory := by
  cases htarget : t.target path with
  | error f => simp [htarget, bind, Except.bind] at h
  | ok target =>
      rw [htarget] at h
      obtain ⟨hway, hlocation, hentry⟩ := target_ok hname htarget
      obtain ⟨rfl, hfile⟩ := fileLocation_ok h
      exact ⟨hlocation, hentry ▸ hfile, hway⟩

/-- Writing a file fails and changes nothing, or puts the file at its place. -/
theorem write_cases {name : String} (hname : fileName? path = some name) (bytes : List UInt8) :
    (∃ f, t.write path bytes = (.error f, t)) ∨
      t.write path bytes = (.ok (), t.put (place path) (.file bytes)) ∧
        t.entry? (place path) ≠ some .directory ∧
        ∀ m ∈ way path, t.entry? m = some .directory := by
  rw [FileTree.write]
  cases hlocation : t.target path >>= fileLocation with
  | error f => exact .inl ⟨f, rfl⟩
  | ok k =>
      obtain ⟨rfl, hfile, hway⟩ := target_fileLocation hname hlocation
      exact .inr ⟨rfl, hfile, hway⟩

theorem read_ok {bytes : List UInt8} (h : t.read path = .ok bytes) :
    ∃ target, t.target path = .ok target ∧ target.entry = some (.file bytes) := by
  cases htarget : t.target path with
  | error f => simp [FileTree.read, htarget, bind, Except.bind] at h
  | ok target =>
      obtain ⟨l, entry, asDirectory⟩ := target
      refine ⟨_, rfl, ?_⟩
      rcases entry with _ | _ | found <;> cases asDirectory <;>
        simp_all [FileTree.read, bind, Except.bind, pure, Except.pure, throw, throwThe,
          MonadExceptOf.throw]

/-- Moving a file fails and changes nothing, or puts the file at its new place. -/
theorem rename_cases {source name before : String} (hname : fileName? path = some name)
    (hsource : fileName? source = some before) :
    (∃ f, t.rename source path = (.error f, t)) ∨
      ∃ bytes, t.entry? (place source) = some (.file bytes) ∧
        t.rename source path =
          (.ok (), (t.take (place source)).put (place path) (.file bytes)) ∧
        t.entry? (place path) ≠ some .directory ∧
        ∀ m ∈ way path, t.entry? m = some .directory := by
  rw [FileTree.rename]
  cases hread : t.read source with
  | error f => exact .inl ⟨f, rfl⟩
  | ok bytes =>
      obtain ⟨target, htarget, hbytes⟩ := read_ok hread
      obtain ⟨-, hplace, hentry⟩ := target_ok hsource htarget
      cases hlocation : t.target path >>= fileLocation with
      | error f => exact .inl ⟨f, by simp [htarget, bind, Except.bind]⟩
      | ok k =>
          obtain ⟨rfl, hfile, hway⟩ := target_fileLocation hname hlocation
          refine .inr ⟨bytes, hentry ▸ hbytes, ?_, hfile, hway⟩
          simp [htarget, hplace, bind, Except.bind, pure, Except.pure]

/-- A path to a file, or to a place for a file. -/
structure PlainFile (t : FileTree) (path : String) : Prop where
  noNull : path.toList.contains (Char.ofNat 0) = false
  /-- The path ends in the name of a file. -/
  named : ∃ name, fileName? path = some name ∧
    (Text.split '/' path.toList).getLast? = some name.toList
  short : ∀ name ∈ names path, isTooLong name = false
  /-- No file is in the way. -/
  passable : ∀ m ∈ way path, t.entry? m = some .directory ∨ t.entry? m = none
  /-- The way does not lead through the file itself. -/
  apart : place path ∉ way path
  noDirectory : t.entry? (place path) ≠ some .directory
  /-- What stands at the place can be reached. -/
  reached : t.entry? (place path) ≠ none → ∀ m ∈ way path, t.entry? m = some .directory

namespace PlainFile

theorem place_path_ne (h : t.PlainFile path) (hm : m ∈ way path) : m.path ≠ (place path).path := by
  intro heq
  have hplace := Location.path_injective (isName_way path m hm) (isName_place path) heq
  exact h.apart (hplace ▸ hm)

/-- A path to a file leads to its place, unless directories are missing. -/
theorem target_eq (h : t.PlainFile path) :
    t.target path = .ok ⟨place path, t.entry? (place path), false⟩ ∨
      t.target path = .error .notFound ∧ t.entry? (place path) = none := by
  obtain ⟨name, hname, hend⟩ := h.named
  obtain ⟨hlast, hup⟩ := fileName?_eq_some hname
  have hmem : name ∈ names path := List.mem_of_getLast? hlast
  have hshort : ∀ n ∈ (names path).dropLast, isTooLong n = false := fun n hn =>
    h.short n (List.dropLast_subset _ hn)
  have hproper : IsName name := isName_of_mem_names hmem
  have hnonempty : path.toList.isEmpty = false := by
    cases hpath : path.toList with
    | nil => simp [names, hpath, Text.split] at hmem
    | cons => rfl
  have hslash : name.toList ≠ [] := fun hnil => hproper.1 (String.toList_eq_nil_iff.mp hnil)
  have hdot : name.toList ≠ ['.'] := fun hsingle =>
    hproper.2.1 (String.toList_injective hsingle)
  rw [FileTree.target, h.noNull, hnonempty]
  cases hfollow : t.follow [] (names path).dropLast with
  | error f =>
      obtain ⟨rfl, m, hm, hmissing⟩ := follow_error hshort h.passable hfollow
      refine .inr ⟨by simp [hfollow, bind, Except.bind], ?_⟩
      refine Decidable.of_not_not fun hthere => ?_
      cases (h.reached hthere m hm).symm.trans hmissing
  | ok above =>
      obtain ⟨rfl, hway⟩ := follow_ok hfollow
      rw [place_of_fileName hname]
      refine .inl ?_
      simp [hfollow, hlast, hend, h.short name hmem, hproper.1, hdot, bind, Except.bind, pure,
        Except.pure]

/-- What is read at a path is what stands at its place. -/
theorem read_eq (h : t.PlainFile path) :
    t.read path =
      match t.entry? (place path) with
      | some (.file bytes) => .ok bytes
      | _ => .error .notFound := by
  rcases h.target_eq with htarget | ⟨htarget, hnone⟩
  · rw [FileTree.read, htarget]
    cases hentry : t.entry? (place path) with
    | none => simp [bind, Except.bind, throw, throwThe, MonadExceptOf.throw]
    | some e =>
        cases e with
        | directory => exact absurd hentry h.noDirectory
        | file bytes => simp [bind, Except.bind, pure, Except.pure]
  · rw [FileTree.read, htarget, hnone]
    rfl

/-- A path still leads to its file when directories were made on the way. -/
theorem of_made (h : t.PlainFile path) (hplace : u.entry? (place path) = t.entry? (place path))
    (hway : ∀ m ∈ way path, u.entry? m = t.entry? m ∨
      t.entry? m = none ∧ u.entry? m = some .directory) : u.PlainFile path where
  noNull := h.noNull
  named := h.named
  short := h.short
  apart := h.apart
  noDirectory := by rw [hplace]; exact h.noDirectory
  passable := by
    intro m hm
    rcases hway m hm with hsame | ⟨-, hmade⟩
    · rw [hsame]
      exact h.passable m hm
    · exact .inl hmade
  reached := by
    intro hthere m hm
    rcases hway m hm with hsame | ⟨-, hmade⟩
    · rw [hsame]
      exact h.reached (hplace ▸ hthere) m hm
    · exact hmade

/-- A path leads to its file when all directories on the way are there. -/
theorem of_reached (h : t.PlainFile path) (hplace : u.entry? (place path) ≠ some .directory)
    (hway : ∀ m ∈ way path, u.entry? m = some .directory) : u.PlainFile path where
  noNull := h.noNull
  named := h.named
  short := h.short
  apart := h.apart
  noDirectory := hplace
  passable := fun m hm => .inl (hway m hm)
  reached := fun _ => hway

/-- Making the directories on the way, all or some, changes nothing at the place. -/
theorem makeFrom (h : t.PlainFile path) (count : Nat) :
    let made := (t.makeFrom [] ((names path).dropLast.take count)).2
    made.PlainFile path ∧ made.entry? (place path) = t.entry? (place path) := by
  intro made
  have hchange := entry?_makeFrom t [] ((names path).dropLast.take count)
  have hplace : made.entry? (place path) = t.entry? (place path) := by
    rcases hchange (place path) with hsame | ⟨-, -, k, hk, hpath⟩
    · exact hsame
    · exact absurd hpath (h.place_path_ne (passed_take_subset _ _ _ hk))
  refine ⟨h.of_made hplace fun m _ => ?_, hplace⟩
  rcases hchange m with hsame | ⟨hnone, hmade, -⟩
  · exact .inl hsame
  · exact .inr ⟨hnone, hmade⟩

/-- Writing a file beside the place changes nothing there. -/
theorem write_beside {other : String} (h : t.PlainFile path) (hother : Beside other path)
    (bytes : List UInt8) :
    (t.write other bytes).2.PlainFile path ∧
      entry? (t.write other bytes).2 (place path) = t.entry? (place path) := by
  obtain ⟨name, hname⟩ := hother.named
  rcases write_cases hname bytes with ⟨f, hwrite⟩ | ⟨hwrite, hfile, hway⟩
  · rw [hwrite]
    exact ⟨h, rfl⟩
  · rw [hwrite]
    rw [hother.way_eq] at hway
    have hplace : entry? (t.put (place other) (.file bytes)) (place path) =
        t.entry? (place path) := entry?_put_of_ne hother.place_ne
    exact ⟨h.of_reached (hplace ▸ h.noDirectory) fun m hm => directory_put hfile (hway m hm), hplace⟩

/-- Moving a file from beside the place leaves at the place what the file held. -/
theorem rename_beside {other : String} (h : t.PlainFile path) (hother : Beside other path) :
    (∃ f, t.rename other path = (.error f, t)) ∨
      ∃ bytes moved, t.entry? (place other) = some (.file bytes) ∧
        t.rename other path = (.ok (), moved) ∧ moved.PlainFile path ∧
        moved.entry? (place path) = some (.file bytes) := by
  obtain ⟨before, hbefore⟩ := hother.named
  obtain ⟨name, hname, -⟩ := h.named
  rcases rename_cases hname hbefore with hfailed | ⟨bytes, hbytes, hrename, hfile, hway⟩
  · exact .inl hfailed
  have htaken : entry? (t.take (place other)) (place path) = t.entry? (place path) :=
    entry?_take_of_ne hother.place_ne
  have hmoved := entry?_put_self (t := t.take (place other)) (e := .file bytes)
    (place_ne_nil hname) rfl
  refine .inr ⟨bytes, _, hbytes, hrename, h.of_reached (by simp [hmoved]) fun m hm => ?_, hmoved⟩
  have hkept := directory_take (by simp [hbytes] : t.entry? (place other) ≠ _) (hway m hm)
  exact directory_put (htaken ▸ hfile) hkept

/-- Removing a file leaves nothing at its place. -/
theorem remove_cases (h : t.PlainFile path) :
    (t.remove path = (.error .notFound, t) ∧ t.entry? (place path) = none) ∨
      t.remove path = (.ok (), t.take (place path)) ∧ (t.take (place path)).PlainFile path ∧
        entry? (t.take (place path)) (place path) = none := by
  obtain ⟨name, hname, -⟩ := h.named
  have hgone := entry?_take_self (t := t) (place_ne_nil hname)
  rw [FileTree.remove]
  rcases h.target_eq with htarget | ⟨htarget, hnone⟩
  · rw [htarget]
    cases hentry : t.entry? (place path) with
    | none => exact .inl ⟨rfl, rfl⟩
    | some e =>
        cases e with
        | directory => exact absurd hentry h.noDirectory
        | file bytes =>
            have hway := h.reached (by simp [hentry])
            refine .inr ⟨rfl, h.of_reached (by simp [hgone]) fun m hm => ?_, hgone⟩
            exact directory_take h.noDirectory (hway m hm)
  · rw [htarget]
    exact .inl ⟨rfl, hnone⟩

end PlainFile

end FileTree

end PageHarvest.Files
