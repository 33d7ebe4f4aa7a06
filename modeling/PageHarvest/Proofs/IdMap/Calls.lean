import Mathlib.Data.List.Dedup
import Mathlib.Data.List.Induction
import PageHarvest.Proofs.IdMap
import PageHarvest.Proofs.Path.Text
import PageHarvest.Proofs.Text.ByteOrder

/-!
A map of id fields that is built call by call. Calls may fail, and one that fails
leaves the map as it is; the others add up to a finite map from paths to fields. All
the ways to write a path, with white space around its segments or without, lead to
one entry, which has the field that was given last.
-/

namespace PageHarvest

namespace IdMap

structure Call where
  path : String
  idField : String
  /-- Whether the map at hand is changed, or the new one is taken in its place. -/
  inPlace : Bool
deriving DecidableEq

namespace Call

def run (call : Call) : EStateM Error IdMap Unit :=
  if call.inPlace then put call.path call.idField
  else do set (← ofExcept ((← get).insert call.path call.idField))

def after (map : IdMap) (call : Call) : IdMap :=
  match call.run map with
  | .ok _ next | .error _ next => next

def IsValid (call : Call) : Prop :=
  [] ∉ DottedPath.pieces call.path ∧ Text.isBlank call.idField = false

instance (call : Call) : Decidable call.IsValid :=
  inferInstanceAs (Decidable (_ ∧ _))

/-- The path that the call gives a field to, if it does. -/
def target? (call : Call) : Option DottedPath :=
  if call.IsValid then DottedPath.parse? call.path else none

/-- The path of the call is written otherwise at most. -/
def Names (call : Call) (path : String) : Prop :=
  DottedPath.pieces call.path = DottedPath.pieces path

instance (call : Call) (path : String) : Decidable (call.Names path) :=
  inferInstanceAs (Decidable (_ = _))

end Call

def afterCalls (calls : List Call) : IdMap := calls.foldl Call.after empty

/-- The field that the last of the calls that succeed gives to a path. -/
def lastField? (calls : List Call) (path : String) : Option String :=
  (calls.filter fun call => call.IsValid ∧ call.Names path).getLast?.map fun call =>
    Text.trim call.idField

variable {calls : List Call} {call : Call} {map : IdMap} {path : String}

theorem Call.run_of_isValid (h : call.IsValid) :
    ∃ p, call.target? = some p ∧
      ∀ map, call.run map = .ok () ⟨map.entries.insert p (Text.trim call.idField)⟩ := by
  obtain ⟨p, hpath⟩ := Option.ne_none_iff_exists'.mp (mt DottedPath.parse?_eq_none_iff.mp h.1)
  refine ⟨p, by rw [target?, if_pos h, hpath], fun map => ?_⟩
  have hput := put_ok hpath h.2 map
  unfold run
  split
  · exact hput
  · have hinsert : map.insert call.path call.idField =
        .ok ⟨map.entries.insert p (Text.trim call.idField)⟩ := by rw [insert, hput]
    change (ofExcept (map.insert call.path call.idField) >>= set : EStateM Error IdMap Unit) map = _
    rw [hinsert]
    rfl

theorem Call.run_of_not_isValid (h : ¬ call.IsValid) (map : IdMap) :
    ∃ e, call.run map = .error e map := by
  have hrefused : DottedPath.parse? call.path = none ∨ Text.isBlank call.idField = true := by
    by_cases hfield : Text.isBlank call.idField = true
    · exact .inr hfield
    · refine .inl (DottedPath.parse?_eq_none_iff.mpr ?_)
      by_contra hpath
      exact h ⟨hpath, by simpa using hfield⟩
  obtain ⟨e, hput⟩ := put_error hrefused map
  refine ⟨e, ?_⟩
  unfold run
  split
  · exact hput
  · have hinsert : map.insert call.path call.idField = .error e := by rw [insert, hput]
    change (ofExcept (map.insert call.path call.idField) >>= set : EStateM Error IdMap Unit) map = _
    rw [hinsert]
    rfl

theorem Call.path_of_target {p : DottedPath} (h : call.target? = some p) :
    call.IsValid ∧ DottedPath.parse? call.path = some p := by
  unfold target? at h
  split at h
  · rename_i hvalid
    exact ⟨hvalid, h⟩
  · cases h

theorem get?_insert_entry {raw idField : String} {p : DottedPath}
    (hraw : DottedPath.parse? raw = some p) (map : IdMap) (path : String) :
    (IdMap.mk (map.entries.insert p idField)).get? path =
      if DottedPath.pieces raw = DottedPath.pieces path then some idField else map.get? path := by
  unfold get?
  split
  · rename_i hsame
    rw [(DottedPath.parse?_eq_some_iff_pieces hraw).mpr hsame]
    exact Table.get?_insert_self map.entries p idField
  · rename_i hother
    cases hpath : DottedPath.parse? path with
    | none => rfl
    | some q =>
        refine Table.get?_insert_of_ne map.entries ?_ idField
        rintro rfl
        exact hother ((DottedPath.parse?_eq_some_iff_pieces hraw).mp hpath)

/-- A call changes what is found under the path that it names, if it succeeds. -/
theorem get?_after (map : IdMap) (call : Call) (path : String) :
    (call.after map).get? path =
      if call.IsValid ∧ call.Names path then some (Text.trim call.idField)
      else map.get? path := by
  by_cases hvalid : call.IsValid
  · obtain ⟨p, htarget, hrun⟩ := Call.run_of_isValid hvalid
    rw [Call.after, hrun, get?_insert_entry (Call.path_of_target htarget).2]
    simp only [hvalid, true_and, Call.Names]
  · obtain ⟨e, hrun⟩ := Call.run_of_not_isValid hvalid map
    rw [Call.after, hrun, if_neg (fun h => hvalid h.1)]

theorem Clean.after (hclean : map.Clean) (call : Call) : (call.after map).Clean := by
  by_cases hvalid : call.IsValid
  · obtain ⟨p, -, hrun⟩ := Call.run_of_isValid hvalid
    rw [Call.after, hrun]
    intro entry hentry
    rcases Entries.mem_insert hentry with rfl | hbefore
    · exact ⟨(Text.isBlank_trim call.idField).trans hvalid.2, Text.trim_trim call.idField⟩
    · exact hclean entry hbefore
  · obtain ⟨e, hrun⟩ := Call.run_of_not_isValid hvalid map
    rw [Call.after, hrun]
    exact hclean

theorem lastField?_concat (calls : List Call) (call : Call) (path : String) :
    lastField? (calls ++ [call]) path =
      if call.IsValid ∧ call.Names path then some (Text.trim call.idField)
      else lastField? calls path := by
  unfold lastField?
  rw [List.filter_append]
  by_cases hmatch : call.IsValid ∧ call.Names path
  · rw [List.filter_cons_of_pos (by simpa using hmatch), List.filter_nil, List.getLast?_concat,
      if_pos hmatch]
    rfl
  · rw [List.filter_cons_of_neg (by simpa using hmatch), List.filter_nil, List.append_nil,
      if_neg hmatch]

theorem afterCalls_get? (calls : List Call) (path : String) :
    (afterCalls calls).get? path = lastField? calls path := by
  -- From the end: either the last call decides or those before it do.
  induction calls using List.reverseRecOn with
  | nil =>
      cases hpath : DottedPath.parse? path with
      | none => simp [afterCalls, lastField?, get?, hpath]
      | some p => simp [afterCalls, lastField?, get?, hpath, empty]
  | append_singleton calls call ih =>
      rw [lastField?_concat, ← ih, afterCalls, List.foldl_concat]
      exact get?_after _ call path

theorem afterCalls_clean (calls : List Call) : (afterCalls calls).Clean := by
  induction calls using List.reverseRecOn with
  | nil =>
      intro entry hentry
      cases hentry
  | append_singleton calls call ih =>
      rw [afterCalls, List.foldl_concat]
      exact ih.after call

theorem Call.target?_eq_some_iff {p : DottedPath} :
    call.target? = some p ↔ call.IsValid ∧ call.Names p.text := by
  constructor
  · intro htarget
    obtain ⟨hvalid, hpath⟩ := path_of_target htarget
    exact ⟨hvalid, (DottedPath.parse?_eq_some_iff_pieces hpath).mp p.parse?_text⟩
  · rintro ⟨hvalid, hnames⟩
    rw [target?, if_pos hvalid, DottedPath.parse?_congr hnames, p.parse?_text]

theorem mem_paths_iff (map : IdMap) (p : DottedPath) :
    p ∈ map.toList.map Prod.fst ↔ map.get? p.text ≠ none := by
  rw [Option.ne_none_iff_exists', get?, p.parse?_text, List.mem_map]
  constructor
  · rintro ⟨⟨q, idField⟩, hentry, rfl⟩
    exact ⟨idField, Entries.get?_of_mem map.entries.sorted.distinct hentry⟩
  · rintro ⟨idField, hget⟩
    exact ⟨(p, idField), Entries.mem_of_get? hget, rfl⟩

theorem lastField?_ne_none_iff :
    lastField? calls path ≠ none ↔ ∃ call ∈ calls, call.IsValid ∧ call.Names path := by
  simp [lastField?]

/-- The paths of the map are those that a call has given a field to. -/
theorem mem_paths_afterCalls {p : DottedPath} :
    p ∈ (afterCalls calls).toList.map Prod.fst ↔ p ∈ calls.filterMap Call.target? := by
  rw [mem_paths_iff, afterCalls_get?, lastField?_ne_none_iff, List.mem_filterMap]
  simp only [Call.target?_eq_some_iff]

theorem nodup_paths (map : IdMap) : (map.toList.map Prod.fst).Nodup := by
  refine List.pairwise_map.mpr (map.entries.sorted.distinct.imp ?_)
  intro d e hne heq
  exact hne (congrArg DottedPath.text heq)

theorem size_afterCalls (calls : List Call) :
    (afterCalls calls).size = (calls.filterMap Call.target?).dedup.length := by
  have hperm : ((afterCalls calls).toList.map Prod.fst).Perm
      (calls.filterMap Call.target?).dedup := by
    refine (List.perm_ext_iff_of_nodup (nodup_paths _) (List.nodup_dedup _)).mpr fun p => ?_
    rw [mem_paths_afterCalls, List.mem_dedup]
  have hlength := hperm.length_eq
  rw [List.length_map] at hlength
  exact hlength

/-- A map as it follows from the calls that made it. -/
structure IsMapOf (map : IdMap) (calls : List Call) : Prop where
  get? : ∀ path, map.get? path = lastField? calls path
  get?_of_blank_piece : ∀ path, [] ∈ DottedPath.pieces path → map.get? path = none
  /-- Each path that a call has given a field to is there, and no other. -/
  paths : ∀ p, p ∈ map.toList.map Prod.fst ↔ p ∈ calls.filterMap Call.target?
  /-- The paths increase in the order of the bytes of their texts. -/
  sorted : map.toList.Pairwise fun d e => Text.bytes d.1.text < Text.bytes e.1.text
  size : map.size = (calls.filterMap Call.target?).dedup.length
  clean : ∀ entry ∈ map.toList,
    (Text.trim entry.1.text = entry.1.text ∧ Text.isBlank entry.1.text = false) ∧
      Text.trim entry.2 = entry.2 ∧ Text.isBlank entry.2 = false

theorem Call.fails_iff (call : Call) (map : IdMap) :
    (∃ e next, call.run map = .error e next) ↔ ¬ call.IsValid := by
  constructor
  · rintro ⟨e, next, hrun⟩ hvalid
    obtain ⟨p, -, hsuccess⟩ := run_of_isValid hvalid
    rw [hsuccess] at hrun
    cases hrun
  · intro hvalid
    obtain ⟨e, hrun⟩ := run_of_not_isValid hvalid map
    exact ⟨e, map, hrun⟩

theorem afterCalls_isMapOf (calls : List Call) : (afterCalls calls).IsMapOf calls where
  get? := afterCalls_get? calls
  get?_of_blank_piece path hblank := by
    rw [IdMap.get?, DottedPath.parse?_eq_none_iff.mpr hblank]
    rfl
  paths _ := mem_paths_afterCalls
  sorted := (afterCalls calls).entries.pairwise_bytes_lt
  size := size_afterCalls calls
  clean entry hentry :=
    ⟨entry.1.trim_text, (afterCalls_clean calls entry hentry).symm⟩

/-- A call fails exactly if it names no path or its field is blank, and then it leaves
the map as it was. The calls that succeed make a finite map from the paths, however
they are written, to the fields that were given last. -/
theorem calls_make_finite_map (calls : List Call) :
    (∀ (call : Call) (map : IdMap),
      ((∃ e next, call.run map = .error e next) ↔
        [] ∈ DottedPath.pieces call.path ∨ Text.isBlank call.idField = true) ∧
      ((∃ e next, call.run map = .error e next) → call.after map = map)) ∧
    (afterCalls calls).IsMapOf calls := by
  refine ⟨fun call map => ⟨?_, fun hfails => ?_⟩, afterCalls_isMapOf calls⟩
  · rw [call.fails_iff, Call.IsValid, not_and_or, not_not, Bool.not_eq_false]
  · obtain ⟨e, hrun⟩ := Call.run_of_not_isValid ((call.fails_iff map).mp hfails) map
    rw [Call.after, hrun]

/-- Calls that write one path in several ways, with two among them that fail. -/
def Sample.spellings : List Call :=
  [⟨"users.nodes", "id", true⟩, ⟨"orgs", " ", true⟩, ⟨" users .\u00a0nodes\t", " uid\n", false⟩,
    ⟨"users..nodes", "key", false⟩, ⟨"orgs", "name", true⟩]

/-- However it is written, the path has the field of the third call. -/
theorem spellings_share_an_entry :
    (afterCalls Sample.spellings).get? "users. nodes" = some "uid" ∧
      (afterCalls Sample.spellings).get? "users..nodes" = none ∧
      (afterCalls Sample.spellings).size = 2 := by
  obtain ⟨-, hmap⟩ := calls_make_finite_map Sample.spellings
  exact ⟨(hmap.get? _).trans (by decide +kernel), hmap.get?_of_blank_piece _ (by decide +kernel),
    hmap.size.trans (by decide +kernel)⟩

end IdMap

end PageHarvest
