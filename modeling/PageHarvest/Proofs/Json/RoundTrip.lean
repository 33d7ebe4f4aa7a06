import PageHarvest.Proofs.Json.Numerals
import PageHarvest.Proofs.Json.Reals
import PageHarvest.Proofs.Json.Strings

/-!
Values that are printed and read again. What a text holds is nested to a bounded
depth, its whole numbers fit, and the members of its objects stand in order. Every
value that was read is of this kind, and every value of this kind is read from its
compact text with the floating-point numbers that the reader makes of the printed
ones and without any other change.
-/

namespace PageHarvest.Json

open Text (digitsValue)

def Number.IsReadable : Number → Prop
  | .int n => fits n = true
  | .real _ => True

/-- The values that a text can hold whose arrays and objects are nested at most
`depth` deep. -/
inductive Readable : Nat → Json → Prop where
  | null {depth : Nat} : Readable depth .null
  | bool {depth : Nat} (value : Bool) : Readable depth (.bool value)
  | number {depth : Nat} {n : Number} (hnumber : n.IsReadable) : Readable depth (.number n)
  | string {depth : Nat} (s : String) : Readable depth (.string s)
  | array {depth : Nat} {items : List Json} (hitems : ∀ item ∈ items, Readable depth item) :
      Readable (depth + 1) (.array items)
  | object {depth : Nat} {members : List (String × Json)} (hsorted : Entries.Sorted members)
      (hmembers : ∀ member ∈ members, Readable depth member.2) :
      Readable (depth + 1) (.object members)

theorem Readable.succ {depth : Nat} {v : Json} (h : Readable depth v) : Readable (depth + 1) v := by
  induction h with
  | null => exact .null
  | bool value => exact .bool value
  | number hnumber => exact .number hnumber
  | string s => exact .string s
  | array _ ih => exact .array ih
  | object hsorted _ ih => exact .object hsorted ih

/-- A text is read as a document with the given value, whatever follows it, as long
as no number goes on there. Two calls are left for each of its characters. -/
def Spells (real : Numeral → Option Binary64) (depth : Nat) (text : List Char) (v : Json) : Prop :=
  ∃ document : Document, document.value? real depth = some v ∧
    ∀ fuel rest, 2 * text.length ≤ fuel → EndsNumber rest →
      readValue fuel (text ++ rest) = some (document, rest)

section Steps

variable {depth fuel : Nat} {text rest after : List Char} {document : Document}

theorem head_of_readNumber {n : Numeral} (h : readNumber text = some (n, rest)) :
    ∃ c cs, text = c :: cs ∧ '-'.toNat ≤ c.toNat ∧ c.toNat ≤ '9'.toNat := by
  cases text with
  | nil => cases h
  | cons c cs =>
      refine ⟨c, cs, rfl, ?_⟩
      by_cases hminus : c = '-'
      · subst hminus
        decide
      · have hdigit : c.isDigit = true := by
          by_contra hother
          simp [readNumber, hminus, Text.spanDigits, hother] at h
        obtain ⟨hlow, hhigh⟩ := Text.isDigit_range hdigit
        exact ⟨Nat.le_trans (by decide) hlow, hhigh⟩

theorem readValue_number {n : Numeral} (h : readNumber text = some (n, rest)) (fuel : Nat) :
    readValue (fuel + 1) text = some (.number n, rest) := by
  obtain ⟨c, cs, rfl, hlow, hhigh⟩ := head_of_readNumber h
  have hother : ∀ d : Char, d.toNat < '-'.toNat ∨ '9'.toNat < d.toNat → c ≠ d := by
    rintro d hd rfl
    omega
  have hskip : skipSpace (c :: cs) = c :: cs := by
    simp [skipSpace, isSpace, hother ' ' (by decide), hother '\t' (by decide),
      hother '\n' (by decide), hother '\r' (by decide)]
  simp [readValue, hskip, hother 'n' (by decide), hother 't' (by decide), hother 'f' (by decide),
    hother '"' (by decide), hother '[' (by decide), hother '\x7b' (by decide), h]

/-- A closing bracket is not read as an item. -/
theorem skipSpace_of_readValue (h : readValue fuel text = some (document, rest))
    (more : List Char) :
    skipSpace text ≠ ']' :: more := by
  intro hclose
  cases fuel with
  | zero => simp [readValue] at h
  | succ fuel => simp [readValue, hclose, readNumber, Text.spanDigits] at h

theorem readItems_cons {items : List Document} {more : List Char}
    (hitem : readValue fuel text = some (document, ',' :: rest))
    (hitems : readItems fuel rest = some (items, more)) :
    readItems (fuel + 1) text = some (document :: items, more) := by
  have hcomma : skipSpace (',' :: rest) = ',' :: rest := rfl
  simp [readItems, hitem, hcomma, hitems]

theorem readItems_last (hitem : readValue fuel text = some (document, ']' :: rest)) :
    readItems (fuel + 1) text = some ([document], rest) := by
  have hclose : skipSpace (']' :: rest) = ']' :: rest := rfl
  simp [readItems, hitem, hclose]

theorem readValue_array {items : List Document} (h : readItems fuel text = some (items, rest)) :
    readValue (fuel + 1) ('[' :: text) = some (.array items, rest) := by
  have hopen : skipSpace ('[' :: text) = '[' :: text := rfl
  have hfirst : ∀ more, skipSpace text ≠ ']' :: more := by
    cases fuel with
    | zero => simp [readItems] at h
    | succ fuel =>
        cases hitem : readValue fuel text with
        | none => simp [readItems, hitem] at h
        | some item => exact skipSpace_of_readValue hitem
  -- The array is not empty, for `hfirst` rules out the bracket that would close it.
  simp [readValue, hopen, h]

end Steps

theorem endsNumber_cons {c : Char} (hc : c.isDigit = false ∧ c ≠ '.' ∧ c ≠ 'e' ∧ c ≠ 'E')
    (rest : List Char) : EndsNumber (c :: rest) := by
  intro first hfirst
  obtain rfl : c = first := by simpa using hfirst
  exact hc

section Nested

-- Arrays and objects are read with whatever values their parts are read with.
variable {real : Numeral → Option Binary64} {depth : Nat} {f : Json → Json}

/-- The items after the first are read one after the other, up to the bracket. -/
theorem readItems_render {first : Json} {items : List Json}
    (hfirst : Spells real depth (render first) (f first))
    (hitems : ∀ item ∈ items, Spells real depth (render item) (f item)) :
    ∃ documents, Document.values? real depth documents = some ((first :: items).map f) ∧
      ∀ fuel rest, 2 * (renderItems (first :: items)).length ≤ fuel →
        readItems fuel (renderItems (first :: items) ++ rest) = some (documents, rest) := by
  induction items generalizing first with
  | nil =>
      obtain ⟨document, hvalue, hread⟩ := hfirst
      refine ⟨[document], by simp [Document.values?, hvalue], ?_⟩
      intro fuel rest hfuel
      simp only [renderItems, renderMoreItems, List.length_append, List.length_singleton] at hfuel
      obtain ⟨fuel, rfl⟩ := Nat.exists_eq_add_of_le' (show 1 ≤ fuel by omega)
      have hclose := hread fuel (']' :: rest) (by omega) (endsNumber_cons (by decide) rest)
      simpa [renderItems, renderMoreItems] using readItems_last hclose
  | cons second items ih =>
      obtain ⟨document, hvalue, hread⟩ := hfirst
      obtain ⟨documents, hvalues, hmore⟩ := ih (hitems second List.mem_cons_self)
        fun item hitem => hitems item (List.mem_cons_of_mem _ hitem)
      refine ⟨document :: documents, by simp [Document.values?, hvalue, hvalues], ?_⟩
      intro fuel rest hfuel
      simp only [renderItems, renderMoreItems, List.length_append, List.length_cons] at hfuel hmore
      obtain ⟨fuel, rfl⟩ := Nat.exists_eq_add_of_le' (show 1 ≤ fuel by omega)
      have hitem := hread fuel (',' :: (render second ++ renderMoreItems items ++ rest)) (by omega)
        (endsNumber_cons (by decide) _)
      have hrest := hmore fuel rest (by omega)
      simpa [renderItems, renderMoreItems] using readItems_cons hitem hrest

theorem readMembers_render {first : String × Json} {members : List (String × Json)}
    (hfirst : Spells real depth (render first.2) (f first.2))
    (hmembers : ∀ member ∈ members, Spells real depth (render member.2) (f member.2)) :
    ∃ documents, Document.members? real depth documents =
        some ((first :: members).map fun member => (member.1, f member.2)) ∧
      ∀ fuel rest, 2 * (renderMembers (first :: members)).length ≤ fuel →
        readMembers fuel (renderMembers (first :: members) ++ rest) = some (documents, rest) := by
  induction members generalizing first with
  | nil =>
      obtain ⟨name, v⟩ := first
      dsimp only at hfirst
      obtain ⟨document, hvalue, hread⟩ := hfirst
      refine ⟨[(some name, document)], by simp [Document.members?, hvalue], ?_⟩
      intro fuel rest hfuel
      simp only [renderMembers, renderMoreMembers, List.length_append, List.length_cons,
        List.length_nil] at hfuel
      obtain ⟨fuel, rfl⟩ := Nat.exists_eq_add_of_le' (show 1 ≤ fuel by omega)
      have hclose := hread fuel ('\x7d' :: rest) (by omega) (endsNumber_cons (by decide) rest)
      simpa [renderMembers, renderMoreMembers] using readMembers_last name hclose rfl
  | cons second members ih =>
      obtain ⟨name, v⟩ := first
      obtain ⟨nextName, next⟩ := second
      dsimp only at hfirst
      obtain ⟨document, hvalue, hread⟩ := hfirst
      obtain ⟨documents, hvalues, hmore⟩ := ih (hmembers (nextName, next) List.mem_cons_self)
        fun member hmember => hmembers member (List.mem_cons_of_mem _ hmember)
      refine ⟨(some name, document) :: documents, by simp [Document.members?, hvalue, hvalues], ?_⟩
      intro fuel rest hfuel
      simp only [renderMembers, renderMoreMembers, List.length_append, List.length_cons]
        at hfuel hmore
      obtain ⟨fuel, rfl⟩ := Nat.exists_eq_add_of_le' (show 1 ≤ fuel by omega)
      have hmember := hread fuel
        (',' :: (renderMembers ((nextName, next) :: members) ++ rest)) (by omega)
        (endsNumber_cons (by decide) _)
      have hstep := readMembers_cons name hmember rfl
      rw [renderMembers, hmore fuel rest (by omega)] at hstep
      simpa [renderMembers, renderMoreMembers] using hstep

/-- A call is left for a text that is not empty. -/
theorem spells_of_succ {text : List Char} {v : Json} (document : Document) (hne : text ≠ [])
    (hvalue : document.value? real depth = some v)
    (hread : ∀ fuel rest, 2 * text.length ≤ fuel + 1 → EndsNumber rest →
      readValue (fuel + 1) (text ++ rest) = some (document, rest)) : Spells real depth text v := by
  refine ⟨document, hvalue, ?_⟩
  intro fuel rest hfuel hrest
  have hlength := List.length_pos_iff.mpr hne
  obtain ⟨fuel, rfl⟩ := Nat.exists_eq_add_of_le' (show 1 ≤ fuel by omega)
  exact hread fuel rest hfuel hrest

theorem spells_array {items : List Json}
    (hitems : ∀ item ∈ items, Spells real depth (render item) (f item)) :
    Spells real (depth + 1) (render (.array items)) (.array (items.map f)) := by
  cases items with
  | nil =>
      refine spells_of_succ (.array []) (by simp [render]) rfl ?_
      intro fuel rest hfuel hrest
      simp [render, renderItems, readValue, skipSpace, isSpace]
  | cons first items =>
      obtain ⟨documents, hvalues, hread⟩ := readItems_render (hitems first List.mem_cons_self)
        fun item hitem => hitems item (List.mem_cons_of_mem _ hitem)
      refine spells_of_succ (.array documents) (by simp [render])
        (by simp [Document.value?, hvalues]) ?_
      intro fuel rest hfuel hrest
      simp only [render, List.length_cons] at hfuel
      simpa [render] using readValue_array (hread fuel rest (by omega))

/-- An object is read from its members, in whatever order they stand. -/
theorem spells_object {members : List (String × Json)}
    (hmembers : ∀ member ∈ members, Spells real depth (render member.2) (f member.2)) :
    Spells real (depth + 1) (render (.object members))
      (ofMembers (members.map fun member => (member.1, f member.2))) := by
  cases members with
  | nil =>
      refine spells_of_succ (.object []) (by simp [render]) rfl ?_
      intro fuel rest hfuel hrest
      simp [render, renderMembers, readValue, skipSpace, isSpace]
  | cons first members =>
      obtain ⟨documents, hvalues, hread⟩ := readMembers_render (hmembers first List.mem_cons_self)
        fun member hmember => hmembers member (List.mem_cons_of_mem _ hmember)
      refine spells_of_succ (.object documents) (by simp [render])
        (by simp [Document.value?, hvalues]) ?_
      intro fuel rest hfuel hrest
      simp only [render, List.length_cons] at hfuel
      obtain ⟨name, v⟩ := first
      have hquote : ∃ more,
          skipSpace (renderMembers ((name, v) :: members) ++ rest) = '"' :: more := by
        simp [renderMembers, quoted, skipSpace, isSpace]
      obtain ⟨more, hmore⟩ := hquote
      simpa [render, hread fuel rest (by omega)] using readValue_object fuel hmore

theorem spells_numeral {text : List Char} {n : Numeral} {number : Number}
    (hvalue : n.number? real = some number)
    (hread : ∀ rest, EndsNumber rest → readNumber (text ++ rest) = some (n, rest)) :
    Spells real depth text (.number number) := by
  have hne : text ≠ [] := by
    rintro rfl
    have hnone := hread [] (by simp [EndsNumber])
    cases hnone
  refine spells_of_succ (.number n) hne (by rw [Document.value?, hvalue, Option.map_some]) ?_
  intro fuel rest hfuel hrest
  exact readValue_number (hread rest hrest) fuel

end Nested

section Values

variable {real : Numeral → Option Binary64} {depth : Nat} {f : Binary64 → Binary64}
  (hreal : ∀ x, reread? real x = some (f x))

include hreal

theorem spells_number {n : Number} (hnumber : n.IsReadable) :
    Spells real depth n.render ((Json.number n).mapReals f) := by
  cases n with
  | int n =>
      obtain ⟨numeral, hvalue, hread⟩ := exists_readNumber_intText hnumber
      exact spells_numeral (hvalue real) hread
  | real x =>
      obtain ⟨numeral, hdenotes, hreread, hread⟩ := exists_reread?_eq x
      refine spells_numeral ?_ hread
      rw [hdenotes.number?_eq, ← hreread real, hreal, Option.map_some]

/-- Every value that a text can hold is read from its compact form, up to its
floating-point numbers. -/
theorem Readable.spells {v : Json} (h : Readable depth v) :
    Spells real depth (render v) (v.mapReals f) := by
  induction h with
  | null =>
      refine spells_of_succ .null (by simp [render]) rfl ?_
      intro fuel rest hfuel hrest
      simp [render, readValue, skipSpace, isSpace]
  | bool value =>
      refine spells_of_succ (.bool value) (by cases value <;> simp [render]) rfl ?_
      intro fuel rest hfuel hrest
      cases value <;> simp [render, readValue, skipSpace, isSpace]
  | number hnumber => exact spells_number hreal hnumber
  | string s =>
      refine spells_of_succ (.string (some s)) (by simp [render, quoted]) rfl ?_
      intro fuel rest hfuel hrest
      exact readValue_quoted fuel s rest
  | array _ ih =>
      rw [mapReals, mapRealsOfItems_eq]
      exact spells_array ih
  | object hsorted _ ih =>
      have hobject := spells_object ih
      rw [ofMembers, Entries.ofList_of_sorted (Entries.sorted_map hsorted _)] at hobject
      rw [mapReals, mapRealsOfMembers_eq]
      exact hobject

end Values

theorem Spells.parseWith? {real : Numeral → Option Binary64} {text : List Char} {v : Json}
    (h : Spells real maxDepth text v) : parseWith? real (String.ofList text) = some v := by
  obtain ⟨document, hvalue, hread⟩ := h
  have hdocument := hread (2 * text.length + 2) [] (by omega) (by simp [EndsNumber])
  rw [List.append_nil] at hdocument
  have hparse : Document.parse? text = some document := by
    rw [Document.parse?, hdocument]
    rfl
  rw [Json.parseWith?, String.toList_ofList, hparse, Option.bind_eq_bind, Option.bind_some, hvalue]

theorem parse?_compact_single (name s : String) :
    parse? (Json.object [(name, .string s)]).compact = some (.object [(name, .string s)]) := by
  have hvalue : ∀ member ∈ [(name, Json.string s)], Readable (maxDepth - 1) member.2 :=
    List.forall_mem_singleton.mpr (.string s)
  have hobject : Readable maxDepth (Json.object [(name, .string s)]) :=
    .object (List.pairwise_singleton ..) hvalue
  exact (hobject.spells reread?_scaled?).parseWith?

theorem isReadable_of_number? {real : Numeral → Option Binary64} {n : Numeral} {number : Number}
    (h : n.number? real = some number) : number.IsReadable := by
  unfold Numeral.number? at h
  dsimp only at h
  generalize (if n.negative then -(digitsValue n.whole : Int) else digitsValue n.whole) = signed
    at h
  split at h
  · rename_i hwhole
    cases h
    simp only [Bool.and_eq_true] at hwhole
    exact hwhole.1.2
  · obtain ⟨x, -, rfl⟩ := Option.map_eq_some_iff.mp h
    exact trivial

section Read

variable {real : Numeral → Option Binary64}

mutual

/-- The value of a document can be held by a text. -/
theorem readable_of_value? : ∀ (document : Document) {depth : Nat} {v : Json},
    document.value? real depth = some v → Readable depth v
  | .null, _, _, h => by
      cases h
      exact .null
  | .bool value, _, _, h => by
      cases h
      exact .bool value
  | .number n, _, _, h => by
      obtain ⟨number, hnumber, rfl⟩ := Option.map_eq_some_iff.mp h
      exact .number (isReadable_of_number? hnumber)
  | .string value, _, _, h => by
      obtain ⟨s, -, rfl⟩ := Option.map_eq_some_iff.mp h
      exact .string s
  | .array _, 0, _, h | .object _, 0, _, h => by cases h
  | .array items, depth + 1, _, h => by
      obtain ⟨vs, hvs, rfl⟩ := Option.map_eq_some_iff.mp h
      exact .array (readable_of_values? items hvs)
  | .object members, depth + 1, _, h => by
      obtain ⟨ms, hms, rfl⟩ := Option.map_eq_some_iff.mp h
      exact .object (Entries.sorted_ofList ms) fun member hmember =>
        readable_of_members? members hms member (Entries.mem_ofList hmember)

theorem readable_of_values? : ∀ (documents : List Document) {depth : Nat} {vs : List Json},
    Document.values? real depth documents = some vs → ∀ v ∈ vs, Readable depth v
  | [], _, _, h => by
      cases h
      exact List.forall_mem_nil _
  | document :: rest, _, _, h => by
      obtain ⟨first, hfirst, h⟩ := Option.bind_eq_some_iff.mp h
      obtain ⟨more, hmore, h⟩ := Option.bind_eq_some_iff.mp h
      cases h
      exact List.forall_mem_cons.mpr
        ⟨readable_of_value? document hfirst, readable_of_values? rest hmore⟩

theorem readable_of_members? : ∀ (documents : List (Option String × Document)) {depth : Nat}
    {members : List (String × Json)}, Document.members? real depth documents = some members →
      ∀ member ∈ members, Readable depth member.2
  | [], _, _, h => by
      cases h
      exact List.forall_mem_nil _
  | (name, document) :: rest, _, _, h => by
      obtain ⟨name, -, h⟩ := Option.bind_eq_some_iff.mp h
      obtain ⟨first, hfirst, h⟩ := Option.bind_eq_some_iff.mp h
      obtain ⟨more, hmore, h⟩ := Option.bind_eq_some_iff.mp h
      cases h
      exact List.forall_mem_cons.mpr
        ⟨readable_of_value? document hfirst, readable_of_members? rest hmore⟩

end

end Read

/-- Every value that was read can be held by a text. -/
theorem readable_of_parse? {text : String} {v : Json} (h : parse? text = some v) :
    Readable maxDepth v := by
  obtain ⟨document, -, hvalue⟩ := Option.bind_eq_some_iff.mp h
  exact readable_of_value? document hvalue

end PageHarvest.Json
