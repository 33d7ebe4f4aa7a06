import PageHarvest.Proofs.Files.Path

/-!
Following a path through files in memory. What stands at a location depends only
on what was put there last; a path that can be followed leads through
directories, and making directories fills in those that are missing.
-/

namespace PageHarvest.Files

namespace FileTree

variable {t : FileTree} {l m : Location} {e : Entry}

theorem entry?_put_self (hm : m ≠ []) (h : l.path = m.path) : entry? (t.put l e) m = some e := by
  simp [put, entry?, hm, h, Table.get?_insert_self]

theorem entry?_put_of_ne (h : l.path ≠ m.path) : entry? (t.put l e) m = t.entry? m := by
  simp [put, entry?, Table.get?_insert_of_ne _ h]

theorem entry?_take_self (hl : l ≠ []) : entry? (t.take l) l = none := by
  simp [take, entry?, hl, Table.get?_erase_self]

theorem entry?_take_of_ne (h : l.path ≠ m.path) : entry? (t.take l) m = t.entry? m := by
  simp [take, entry?, Table.get?_erase_of_ne _ h]

theorem entry?_congr (hl : l ≠ []) (hm : m ≠ []) (h : l.path = m.path) :
    t.entry? l = t.entry? m := by
  simp [hl, entry?, hm, h]

end FileTree

def enter (l : Location) (name : String) : Location :=
  if name = ".." then l.dropLast else l ++ [name]

def walk (l : Location) (ns : List String) : Location := ns.foldl enter l

def passed (l : Location) : List String → List Location
  | [] => []
  | name :: rest =>
      if name = ".." then passed l.dropLast rest else (l ++ [name]) :: passed (l ++ [name]) rest

theorem passed_append (l : Location) (ns more : List String) :
    passed l (ns ++ more) = passed l ns ++ passed (walk l ns) more := by
  induction ns generalizing l with
  | nil => rfl
  | cons name rest ih =>
      by_cases hup : name = ".."
      · simp [passed, walk, enter, hup, ih]
      · simp [passed, walk, enter, hup, ih]

theorem passed_take_subset (l : Location) (ns : List String) (count : Nat) :
    passed l (ns.take count) ⊆ passed l ns := by
  have happend := passed_append l (ns.take count) (ns.drop count)
  rw [List.take_append_drop] at happend
  rw [happend]
  exact List.subset_append_left ..

section Names

variable {l : Location} {ns : List String}

theorem isName_enter {name : String} (hl : ∀ n ∈ l, IsName n) (hname : IsName name) :
    ∀ n ∈ enter l name, IsName n := by
  intro n hn
  rw [enter] at hn
  split at hn
  · exact hl n (List.dropLast_subset _ hn)
  · rcases List.mem_append.mp hn with hmem | hmem
    · exact hl n hmem
    · rw [List.mem_singleton.mp hmem]
      exact hname

theorem isName_walk (hl : ∀ n ∈ l, IsName n) (hns : ∀ n ∈ ns, IsName n) :
    ∀ n ∈ walk l ns, IsName n := by
  induction ns generalizing l with
  | nil => exact hl
  | cons name rest ih =>
      exact ih (isName_enter hl (hns name (by simp))) fun n hn => hns n (by simp [hn])

theorem isName_passed (hl : ∀ n ∈ l, IsName n) (hns : ∀ n ∈ ns, IsName n) :
    ∀ m ∈ passed l ns, ∀ n ∈ m, IsName n := by
  induction ns generalizing l with
  | nil => simp [passed]
  | cons name rest ih =>
      have hnext := isName_enter hl (hns name (by simp))
      have hrest := ih hnext fun n hn => hns n (by simp [hn])
      rw [passed]
      split
      · next hup => simpa [enter, hup] using hrest
      · next hup =>
          simp only [enter, if_neg hup] at hnext hrest
          intro m hm
          rcases List.mem_cons.mp hm with rfl | hm
          · exact hnext
          · exact hrest m hm

end Names

namespace FileTree

variable {t : FileTree} {l : Location} {ns : List String}

/-- Names that can be followed lead through directories. -/
theorem follow_ok {m : Location} (h : t.follow l ns = .ok m) :
    m = walk l ns ∧ ∀ k ∈ passed l ns, t.entry? k = some .directory := by
  induction ns generalizing l with
  | nil =>
      cases h
      exact ⟨rfl, by simp [passed]⟩
  | cons name rest ih =>
      rw [follow] at h
      split at h
      · next hup => simpa [passed, walk, enter, hup] using ih h
      · next hup =>
          split at h
          · cases h
          · split at h
            · next hthere =>
                obtain ⟨hm, hrest⟩ := ih h
                refine ⟨by simpa [walk, enter, hup] using hm, ?_⟩
                rw [passed, if_neg hup]
                intro k hk
                rcases List.mem_cons.mp hk with rfl | hk
                · exact hthere
                · exact hrest k hk
            · cases h
            · cases h

/-- If no file is in the way, names cannot be followed only where a directory is
missing. -/
theorem follow_error {f : Fault} (hshort : ∀ name ∈ ns, isTooLong name = false)
    (hway : ∀ m ∈ passed l ns, t.entry? m = some .directory ∨ t.entry? m = none)
    (h : t.follow l ns = .error f) : f = .notFound ∧ ∃ m ∈ passed l ns, t.entry? m = none := by
  induction ns generalizing l with
  | nil => cases h
  | cons name rest ih =>
      have hname : isTooLong name = false := hshort name (by simp)
      have hrest : ∀ n ∈ rest, isTooLong n = false := fun n hn => hshort n (by simp [hn])
      by_cases hup : name = ".."
      · rw [passed, if_pos hup] at hway ⊢
        rw [follow, if_pos hup] at h
        exact ih hrest hway h
      · rw [passed, if_neg hup] at hway ⊢
        rw [follow, if_neg hup, hname, if_neg (by decide)] at h
        rcases hway (l ++ [name]) (by simp) with hthere | hmissing
        · rw [hthere] at h
          obtain ⟨hf, m, hm, hnone⟩ := ih hrest (fun m hm => hway m (by simp [hm])) h
          exact ⟨hf, m, by simp [hm], hnone⟩
        · rw [hmissing] at h
          cases h
          exact ⟨rfl, l ++ [name], by simp, hmissing⟩

/-- Making directories changes nothing but locations on the way at which nothing
stood. -/
theorem entry?_makeFrom (t : FileTree) (l : Location) (ns : List String) (m : Location) :
    entry? (t.makeFrom l ns).2 m = t.entry? m ∨
      t.entry? m = none ∧ entry? (t.makeFrom l ns).2 m = some .directory ∧
        ∃ k ∈ passed l ns, k.path = m.path := by
  induction ns generalizing t l with
  | nil => exact .inl rfl
  | cons name rest ih =>
      rw [makeFrom, passed]
      split
      · exact ih t l.dropLast
      · split
        · exact .inl rfl
        · split
          · rcases ih t (l ++ [name]) with hsame | ⟨hnone, hmade, k, hk, hpath⟩
            · exact .inl hsame
            · exact .inr ⟨hnone, hmade, k, by simp [hk], hpath⟩
          · exact .inl rfl
          · next hmissing =>
              by_cases hm : m = []
              · exact .inl (by simp [hm, entry?])
              by_cases hpath : (l ++ [name]).path = m.path
              · have hnone : t.entry? m = none :=
                  (entry?_congr (by simp) hm hpath).symm.trans hmissing
                have hput := entry?_put_self (t := t) (e := .directory) hm hpath
                refine .inr ⟨hnone, ?_, l ++ [name], by simp, hpath⟩
                rcases ih (t.put (l ++ [name]) .directory) (l ++ [name]) with hsame | ⟨hnone', -, -⟩
                · exact hsame.trans hput
                · cases hput.symm.trans hnone'
              · have hput := entry?_put_of_ne (t := t) (e := .directory) hpath
                rcases ih (t.put (l ++ [name]) .directory) (l ++ [name]) with
                  hsame | ⟨hnone, hmade, k, hk, hkm⟩
                · exact .inl (hsame.trans hput)
                · exact .inr ⟨hput.symm.trans hnone, hmade, k, by simp [hk], hkm⟩

end FileTree

end PageHarvest.Files
