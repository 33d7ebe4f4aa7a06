/-!
Finite tables from keys to values, held as lists of entries in strictly
increasing order of the keys' text. A key occurs once, and the last value put
under it is the one that counts. The lemmas say that insertion keeps the order
and give the lookup after it. As no key occurs twice, it finds exactly the entries
that are there.
-/

namespace PageHarvest

/-- Keys that are told apart and ordered by a text. The order of texts is that
of their UTF-8 bytes, which is the order of their code points. -/
class TextKey (κ : Type) where
  /-- The text that stands for a key. -/
  text : κ → String
  text_injective : ∀ {a b : κ}, text a = text b → a = b

instance : TextKey String := ⟨id, id⟩

namespace Entries

variable {κ α β : Type} [TextKey κ]

/-- The keys increase strictly. -/
def Sorted (es : List (κ × α)) : Prop :=
  es.Pairwise fun a b => TextKey.text a.1 < TextKey.text b.1

def get? (es : List (κ × α)) (k : κ) : Option α :=
  match es with
  | [] => none
  | e :: rest => if TextKey.text e.1 = TextKey.text k then some e.2 else get? rest k

def insert (es : List (κ × α)) (k : κ) (v : α) : List (κ × α) :=
  match es with
  | [] => [(k, v)]
  | e :: rest =>
      if TextKey.text k < TextKey.text e.1 then (k, v) :: e :: rest
      else if TextKey.text k = TextKey.text e.1 then (k, v) :: rest
      else e :: insert rest k v

/-- Inserts entries in turn, so that the last of those with one key stays. -/
def ofList (es : List (κ × α)) : List (κ × α) :=
  es.foldl (fun table e => insert table e.1 e.2) []

def erase (es : List (κ × α)) (k : κ) : List (κ × α) :=
  es.filter fun e => TextKey.text e.1 ≠ TextKey.text k

theorem mem_insert {es : List (κ × α)} {k : κ} {v : α} {e : κ × α} (h : e ∈ insert es k v) :
    e = (k, v) ∨ e ∈ es := by
  induction es with
  | nil => simpa [insert] using h
  | cons d rest ih =>
      rw [insert] at h
      split at h
      · simpa using h
      · split at h
        · simp only [List.mem_cons] at h ⊢
          exact h.imp id Or.inr
        · rcases List.mem_cons.mp h with h | h
          · exact Or.inr (by simp [h])
          · exact (ih h).imp id (List.mem_cons_of_mem _)

theorem sorted_insert {es : List (κ × α)} (h : Sorted es) (k : κ) (v : α) :
    Sorted (insert es k v) := by
  induction es with
  | nil => simp [insert, Sorted]
  | cons d rest ih =>
      obtain ⟨hd, hrest⟩ := List.pairwise_cons.mp h
      rw [insert]
      split
      · rename_i hlt
        refine List.pairwise_cons.mpr ⟨?_, h⟩
        intro e he
        rcases List.mem_cons.mp he with rfl | he
        · exact hlt
        · exact String.lt_trans hlt (hd e he)
      · split
        · rename_i _ heq
          refine List.pairwise_cons.mpr ⟨?_, hrest⟩
          intro e he
          have := hd e he
          simpa [heq] using this
        · rename_i hnlt hne
          refine List.pairwise_cons.mpr ⟨?_, ih hrest⟩
          intro e he
          rcases mem_insert he with rfl | he
          · have hle : TextKey.text d.1 ≤ TextKey.text k := String.not_lt.mp hnlt
            exact Std.lt_of_le_of_ne hle (Ne.symm hne)
          · exact hd e he

theorem sorted_erase {es : List (κ × α)} (h : Sorted es) (k : κ) : Sorted (erase es k) :=
  List.Pairwise.filter _ h

theorem get?_erase (es : List (κ × α)) (k k' : κ) :
    get? (erase es k) k' =
      if TextKey.text k = TextKey.text k' then none else get? es k' := by
  induction es with
  | nil => simp [erase, get?]
  | cons d rest ih =>
      unfold erase at ih ⊢
      by_cases hd : TextKey.text d.1 = TextKey.text k
      · by_cases hk : TextKey.text k = TextKey.text k' <;> simp_all [get?]
      · by_cases hk : TextKey.text d.1 = TextKey.text k'
        · have : ¬ TextKey.text k = TextKey.text k' := fun he => hd (hk.trans he.symm)
          simp_all [get?]
        · simp_all [get?]

theorem get?_insert (es : List (κ × α)) (k k' : κ) (v : α) :
    get? (insert es k v) k' =
      if TextKey.text k = TextKey.text k' then some v else get? es k' := by
  induction es with
  | nil => simp [insert, get?]
  | cons d rest ih =>
      rw [insert]
      split
      · simp [get?]
      · split
        · rename_i heq
          by_cases hk : TextKey.text d.1 = TextKey.text k' <;> simp [get?, heq, hk]
        · rename_i hne
          by_cases hk : TextKey.text d.1 = TextKey.text k'
          · have : ¬ TextKey.text k = TextKey.text k' := hk ▸ hne
            simp [get?, hk, this]
          · simp [get?, hk, ih]

theorem sorted_ofList (es : List (κ × α)) : Sorted (ofList es) := by
  have step : ∀ (es table : List (κ × α)), Sorted table →
      Sorted (es.foldl (fun t e => insert t e.1 e.2) table) := by
    intro es
    induction es with
    | nil => exact fun _ h => h
    | cons e rest ih => exact fun table h => ih _ (sorted_insert h e.1 e.2)
  exact step es [] List.Pairwise.nil

theorem mem_ofList {es : List (κ × α)} {e : κ × α} (h : e ∈ ofList es) : e ∈ es := by
  have step : ∀ es table : List (κ × α),
      e ∈ es.foldl (fun t e => insert t e.1 e.2) table → e ∈ es ∨ e ∈ table := by
    intro es
    induction es with
    | nil => exact fun _ h => Or.inr h
    | cons d rest ih =>
        intro table h
        rcases ih _ h with hrest | htable
        · exact Or.inl (List.mem_cons_of_mem _ hrest)
        · exact (mem_insert htable).imp (fun heq => by simp [heq]) id
  simpa using step es [] h

theorem mem_of_get? {es : List (κ × α)} {k : κ} {v : α} (h : get? es k = some v) :
    (k, v) ∈ es := by
  induction es with
  | nil => cases h
  | cons e rest ih =>
      rw [get?] at h
      split at h
      · rename_i hkey
        obtain rfl : e.1 = k := TextKey.text_injective hkey
        cases h
        exact List.mem_cons_self
      · exact List.mem_cons_of_mem _ (ih h)

def Distinct (es : List (κ × α)) : Prop :=
  es.Pairwise fun a b => TextKey.text a.1 ≠ TextKey.text b.1

theorem Sorted.distinct {es : List (κ × α)} (h : Sorted es) : Distinct es := by
  refine List.Pairwise.imp ?_ h
  intro a b hlt heq
  rw [heq] at hlt
  exact String.lt_irrefl _ hlt

theorem Distinct.of_nodup {es : List (κ × α)} (h : (es.map fun e => TextKey.text e.1).Nodup) :
    Distinct es :=
  List.pairwise_map.mp h

theorem Distinct.perm {es fs : List (κ × α)} (h : Distinct es) (hperm : es.Perm fs) :
    Distinct fs :=
  List.Pairwise.perm h hperm Ne.symm

theorem get?_of_mem {es : List (κ × α)} (h : Distinct es) {e : κ × α} (he : e ∈ es) :
    get? es e.1 = some e.2 := by
  induction es with
  | nil => cases he
  | cons d rest ih =>
      obtain ⟨hd, hrest⟩ := List.pairwise_cons.mp h
      rcases List.mem_cons.mp he with rfl | he
      · simp [get?]
      · simp [get?, hd e he, ih hrest he]

/-- What a key leads to is the entry with this key. -/
theorem get?_eq_some_iff {es : List (κ × α)} (h : Distinct es) {k : κ} {v : α} :
    get? es k = some v ↔ (k, v) ∈ es :=
  ⟨mem_of_get?, get?_of_mem h⟩

theorem Distinct.eq_of_mem {es : List (κ × α)} (h : Distinct es) {d e : κ × α} (hd : d ∈ es)
    (he : e ∈ es) (hkey : d.1 = e.1) : d = e := by
  have hvalue := get?_of_mem h hd
  rw [hkey, get?_of_mem h he] at hvalue
  exact Prod.ext hkey (Option.some.inj hvalue).symm

theorem get?_of_perm {es fs : List (κ × α)} (h : Distinct es) (hperm : es.Perm fs) (k : κ) :
    get? es k = get? fs k := by
  apply Option.ext
  intro v
  rw [get?_eq_some_iff h, get?_eq_some_iff (h.perm hperm), hperm.mem_iff]

theorem get?_append (es fs : List (κ × α)) (k : κ) :
    get? (es ++ fs) k = (get? es k).or (get? fs k) := by
  induction es with
  | nil => rfl
  | cons e rest ih =>
      by_cases h : TextKey.text e.1 = TextKey.text k <;> simp [get?, h, ih]

/-- Of entries with one key the last counts. -/
theorem get?_ofList (es : List (κ × α)) (k : κ) : get? (ofList es) k = get? es.reverse k := by
  have step : ∀ (es table : List (κ × α)),
      get? (es.foldl (fun t e => insert t e.1 e.2) table) k =
        (get? es.reverse k).or (get? table k) := by
    intro es
    induction es with
    | nil => exact fun _ => rfl
    | cons e rest ih =>
        intro table
        rw [List.foldl_cons, ih, get?_insert, List.reverse_cons, get?_append, Option.or_assoc]
        by_cases h : TextKey.text e.1 = TextKey.text k <;> simp [get?, h]
  rw [ofList, step, get?, Option.or_none]

theorem insert_of_lt {es : List (κ × α)} {k : κ} (v : α)
    (h : ∀ e ∈ es, TextKey.text e.1 < TextKey.text k) : insert es k v = es ++ [(k, v)] := by
  induction es with
  | nil => rfl
  | cons e rest ih =>
      have he : TextKey.text e.1 < TextKey.text k := h e (by simp)
      have hnot : ¬ TextKey.text k < TextKey.text e.1 := String.lt_asymm he
      have hne : ¬ TextKey.text k = TextKey.text e.1 :=
        fun heq => String.lt_irrefl _ (heq ▸ he)
      rw [insert, if_neg hnot, if_neg hne, ih fun e he => h e (by simp [he])]
      rfl

/-- Entries in order are put in as they stand. -/
theorem ofList_of_sorted {es : List (κ × α)} (h : Sorted es) : ofList es = es := by
  have step : ∀ (es table : List (κ × α)), Sorted (table ++ es) →
      es.foldl (fun t e => insert t e.1 e.2) table = table ++ es := by
    intro es
    induction es with
    | nil => simp
    | cons e rest ih =>
        intro table hsorted
        obtain ⟨-, -, hlt⟩ := List.pairwise_append.mp hsorted
        have hlast : insert table e.1 e.2 = table ++ [e] :=
          insert_of_lt e.2 fun d hd => hlt d hd e (by simp)
        rw [List.foldl_cons, hlast, ih _ (by simpa using hsorted)]
        simp
  exact step es [] h

theorem sorted_map {es : List (κ × α)} (h : Sorted es) (f : α → β) :
    Sorted (es.map fun e => (e.1, f e.2)) :=
  List.pairwise_map.mpr h

theorem get?_map (es : List (κ × α)) (f : α → β) (k : κ) :
    get? (es.map fun e => (e.1, f e.2)) k = (get? es k).map f := by
  induction es with
  | nil => rfl
  | cons e rest ih =>
      by_cases h : TextKey.text e.1 = TextKey.text k <;> simp [get?, h, ih]

end Entries

/-- A finite map whose entries stand in strictly increasing order of keys. -/
structure Table (κ α : Type) [TextKey κ] where
  /-- The entries, one for each key. -/
  entries : List (κ × α)
  sorted : Entries.Sorted entries

namespace Table

variable {κ α β : Type} [TextKey κ]

instance [DecidableEq κ] [DecidableEq α] : DecidableEq (Table κ α) := fun a b =>
  if h : a.entries = b.entries then
    isTrue (by cases a; cases b; simp_all)
  else isFalse fun hab => h (congrArg entries hab)

def empty : Table κ α := ⟨[], List.Pairwise.nil⟩

instance : EmptyCollection (Table κ α) := ⟨empty⟩
instance : Inhabited (Table κ α) := ⟨empty⟩

def get? (t : Table κ α) (k : κ) : Option α := Entries.get? t.entries k

def insert (t : Table κ α) (k : κ) (v : α) : Table κ α :=
  ⟨Entries.insert t.entries k v, Entries.sorted_insert t.sorted k v⟩

def erase (t : Table κ α) (k : κ) : Table κ α :=
  ⟨Entries.erase t.entries k, Entries.sorted_erase t.sorted k⟩

def ofList (es : List (κ × α)) : Table κ α :=
  ⟨Entries.ofList es, Entries.sorted_ofList es⟩

/-- The entries in the order of their keys. -/
def toList (t : Table κ α) : List (κ × α) := t.entries

def size (t : Table κ α) : Nat := t.entries.length

def map (t : Table κ α) (f : α → β) : Table κ β :=
  ⟨t.entries.map fun e => (e.1, f e.2), Entries.sorted_map t.sorted f⟩

def isEmpty (t : Table κ α) : Bool := t.entries.isEmpty

@[simp] theorem get?_empty (k : κ) : (empty : Table κ α).get? k = none := rfl

theorem get?_insert_self (t : Table κ α) (k : κ) (v : α) :
    (t.insert k v).get? k = some v := by
  simp [get?, insert, Entries.get?_insert]

theorem get?_insert_of_ne (t : Table κ α) {k k' : κ} (h : k ≠ k') (v : α) :
    (t.insert k v).get? k' = t.get? k' := by
  have : ¬ TextKey.text k = TextKey.text k' := fun he => h (TextKey.text_injective he)
  simp [get?, insert, Entries.get?_insert, this]

theorem get?_erase_self (t : Table κ α) (k : κ) : (t.erase k).get? k = none := by
  simp [get?, erase, Entries.get?_erase]

theorem get?_erase_of_ne (t : Table κ α) {k k' : κ} (h : k ≠ k') :
    (t.erase k).get? k' = t.get? k' := by
  have : ¬ TextKey.text k = TextKey.text k' := fun he => h (TextKey.text_injective he)
  simp [get?, erase, Entries.get?_erase, this]

theorem get?_map (t : Table κ α) (f : α → β) (k : κ) : (t.map f).get? k = (t.get? k).map f :=
  Entries.get?_map t.entries f k

/-- A table is made of its entries. -/
theorem ofList_toList (t : Table κ α) : ofList t.toList = t := by
  cases t with
  | mk entries sorted => simp [ofList, toList, Entries.ofList_of_sorted sorted]

end Table

end PageHarvest
