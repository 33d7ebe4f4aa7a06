import PageHarvest.Proofs.IdMap.Calls

/-!
The map that a setting describes. Its members are added one after the other, and the
path of a member may be written in several ways. Where two members name one path, the
map has the field of the later one, so a mapping is lost exactly if members that name
one path disagree about the field.
-/

namespace PageHarvest

namespace IdMap

def memberOf (entry : String × String) : String × Json := (entry.1, .string entry.2)

def mappings (members : List (String × Json)) : List (String × String) :=
  members.filterMap fun member => member.2.string?.map fun idField => (member.1, idField)

def callOf (entry : String × String) : Call := ⟨entry.1, entry.2, true⟩

variable {map last : IdMap} {entries : List (String × String)}

theorem mappings_map_memberOf (entries : List (String × String)) :
    mappings (entries.map memberOf) = entries := by
  rw [mappings, List.filterMap_map]
  exact List.filterMap_some

/-- Members are added by calls that all succeed. -/
theorem insertAll_ok {members : List (String × Json)} (h : map.insertAll members = .ok last) :
    ∃ entries : List (String × String), members = entries.map memberOf ∧
      (∀ entry ∈ entries, (callOf entry).IsValid) ∧
      last = (entries.map callOf).foldl Call.after map := by
  induction members generalizing map with
  | nil =>
      cases h
      exact ⟨[], rfl, List.forall_mem_nil _, rfl⟩
  | cons member rest ih =>
      obtain ⟨path, value⟩ := member
      cases value with
      | string idField =>
          obtain ⟨next, hinsert, hrest⟩ := ok_of_bind h
          obtain ⟨entries, rfl, hvalid, rfl⟩ := ih hrest
          have hrun : (callOf (path, idField)).run map = .ok () next := put_of_insert hinsert
          have hcall : (callOf (path, idField)).IsValid := by
            by_contra hrefused
            obtain ⟨e, herror⟩ := Call.run_of_not_isValid hrefused map
            rw [hrun] at herror
            cases herror
          have hafter : (callOf (path, idField)).after map = next := by rw [Call.after, hrun]
          refine ⟨(path, idField) :: entries, rfl, List.forall_mem_cons.mpr ⟨hcall, hvalid⟩, ?_⟩
          rw [List.map_cons, List.foldl_cons, hafter]
      | _ => cases h

theorem ofSetting_afterCalls {value : Json} {members : List (String × Json)}
    (hholds : value.HoldsObject members) (h : ofSetting value = .ok map) :
    ∃ entries : List (String × String), members = entries.map memberOf ∧
      (∀ entry ∈ entries, (callOf entry).IsValid) ∧ map = afterCalls (entries.map callOf) := by
  obtain ⟨found, hfound, h⟩ := ok_of_bind h
  rw [objectSetting_of_holdsObject hholds] at hfound
  cases hfound
  dsimp only at h
  split at h
  · cases h
  · exact insertAll_ok h

/-- The field of the last entry that names a path. -/
def lastGiven? (entries : List (String × String)) (path : String) : Option String :=
  (entries.filter fun entry => DottedPath.pieces entry.1 = DottedPath.pieces path).getLast?.map
    fun entry => Text.trim entry.2

theorem lastField?_map_callOf (hvalid : ∀ entry ∈ entries, (callOf entry).IsValid)
    (path : String) : lastField? (entries.map callOf) path = lastGiven? entries path := by
  have hfilter : (entries.filter fun entry =>
      (callOf entry).IsValid ∧ (callOf entry).Names path) =
      entries.filter fun entry => DottedPath.pieces entry.1 = DottedPath.pieces path := by
    refine List.filter_congr fun entry hentry => ?_
    have hcall := hvalid entry hentry
    simp only [hcall, true_and]
    rfl
  rw [lastField?, List.filter_map, List.getLast?_map, Option.map_map, lastGiven?, ← hfilter]
  rfl

theorem lastGiven?_of_mem {entry : String × String} (h : entry ∈ entries) :
    ∃ last ∈ entries, DottedPath.pieces last.1 = DottedPath.pieces entry.1 ∧
      lastGiven? entries entry.1 = some (Text.trim last.2) := by
  have hmem : entry ∈ entries.filter fun other =>
      DottedPath.pieces other.1 = DottedPath.pieces entry.1 :=
    List.mem_filter.mpr ⟨h, by simp⟩
  obtain ⟨last, hlast⟩ := Option.isSome_iff_exists.mp
    (List.getLast?_isSome.mpr (List.ne_nil_of_mem hmem))
  obtain ⟨hin, hsame⟩ := List.mem_filter.mp (List.mem_of_getLast? hlast)
  exact ⟨last, hin, by simpa using hsame, by rw [lastGiven?, hlast]; rfl⟩

/-- Entries that name one path give it one field. -/
def Agree (entries : List (String × String)) : Prop :=
  ∀ d ∈ entries, ∀ e ∈ entries, DottedPath.pieces d.1 = DottedPath.pieces e.1 →
    Text.trim d.2 = Text.trim e.2

/-- Each path has the field of the last member that names it. So every member finds its
field under its path exactly if the members agree. -/
theorem last_spelling_counts {value : Json} {members : List (String × Json)}
    (hholds : value.HoldsObject members) (h : ofSetting value = .ok map) :
    (∀ path, map.get? path = lastGiven? (mappings members) path) ∧
      ((∀ entry ∈ mappings members, map.get? entry.1 = some (Text.trim entry.2)) ↔
        Agree (mappings members)) := by
  obtain ⟨entries, rfl, hvalid, rfl⟩ := ofSetting_afterCalls hholds h
  rw [mappings_map_memberOf]
  have hget : ∀ path, (afterCalls (entries.map callOf)).get? path = lastGiven? entries path := by
    intro path
    rw [afterCalls_get?, lastField?_map_callOf hvalid]
  refine ⟨hget, ?_⟩
  constructor
  · intro hkept d hd e he hsame
    have hshared : lastGiven? entries d.1 = lastGiven? entries e.1 := by
      unfold lastGiven?
      rw [hsame]
    rw [← hget, ← hget, hkept d hd, hkept e he] at hshared
    exact Option.some.inj hshared
  · intro hagree entry hentry
    obtain ⟨last, hlast, hsame, hfield⟩ := lastGiven?_of_mem hentry
    rw [hget, hfield, hagree last hlast entry hentry hsame]

namespace Sample

def members : List (String × Json) := [("users", .string "id"), ("users ", .string " uid ")]

theorem members_read : ∃ map, ofSetting (.object members) = .ok map := by
  cases hmap : ofSetting (.object members) with
  | ok map => exact ⟨map, rfl⟩
  | error e =>
      have hok : (ofSetting (.object members)).toOption.isSome = true := by decide +kernel
      rw [hmap] at hok
      cases hok

end Sample

/-- The later of two members that name one path gives it the field. -/
theorem later_spelling_is_found :
    ∃ map, (Json.object Sample.members).HoldsObject Sample.members ∧
      ofSetting (.object Sample.members) = .ok map ∧ map.get? "users" = some "uid" := by
  obtain ⟨map, hmap⟩ := Sample.members_read
  obtain ⟨hget, -⟩ := last_spelling_counts (.inl rfl) hmap
  exact ⟨map, .inl rfl, hmap, (hget "users").trans (by decide +kernel)⟩

/-- Both members are accepted, and the field of the earlier one is lost. -/
theorem earlier_spelling_is_dropped :
    ∃ map, (Json.object Sample.members).HoldsObject Sample.members ∧
      ofSetting (.object Sample.members) = .ok map ∧
      ("users", Json.string "id") ∈ Sample.members ∧
      map.get? "users" ≠ some (Text.trim "id") := by
  obtain ⟨map, hmap⟩ := Sample.members_read
  have hfound : ((ofSetting (.object Sample.members)).toOption.bind fun map => map.get? "users") ≠
      some (Text.trim "id") := by
    decide +kernel
  rw [hmap] at hfound
  exact ⟨map, .inl rfl, hmap, by decide +kernel, hfound⟩

end IdMap

end PageHarvest
