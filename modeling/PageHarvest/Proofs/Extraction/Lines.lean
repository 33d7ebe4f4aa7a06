import PageHarvest.Cli.Trial
import PageHarvest.Proofs.Extraction
import PageHarvest.Proofs.Extraction.Collection
import PageHarvest.Proofs.Json.Plain
import PageHarvest.Proofs.Json.RoundTrip

/-!
Records as lines. An element lies below the root of the body that it came from, so
its record, which nests it once more, is no deeper than what a text can hold. Every
record that is accepted is therefore found again in its line, and no line ends before
its record does. A reader that takes the nearest floating-point numbers finds the
record itself; one that scales their first digits may find others in its payload.
-/

namespace PageHarvest

namespace Json

variable {depth : Nat} {v : Json} {segments : List String}

theorem Readable.item {items : List Json} (h : Readable depth (.array items)) {item : Json}
    (hitem : item ∈ items) : Readable (depth - 1) item := by
  cases h with
  | array hitems => exact hitems item hitem

theorem Readable.member {members : List (String × Json)} (h : Readable depth (.object members))
    {name : String} {member : Json} (hmember : Entries.get? members name = some member) :
    Readable (depth - 1) member := by
  cases h with
  | object _ hmembers => exact hmembers _ (Entries.mem_of_get? hmember)

theorem Readable.of_pred (h : Readable (depth - 1) v) : Readable depth v := by
  cases depth with
  | zero => exact h
  | succ depth => exact h.succ

/-- What is selected is no deeper than the node where the selection starts. -/
theorem Readable.of_mem_select (h : Readable depth v) {node : Json}
    (hnode : node ∈ v.select segments) : Readable depth node := by
  induction v, segments using select.induct generalizing depth with
  | case1 v =>
      rw [select, List.mem_singleton] at hnode
      exact hnode ▸ h
  | case2 members name rest member hget ih =>
      rw [select_object hget] at hnode
      exact (ih (h.member hget) hnode).of_pred
  | case3 members name rest habsent =>
      rw [select_object_of_absent habsent] at hnode
      cases hnode
  | case4 items name rest ih =>
      rw [select] at hnode
      obtain ⟨item, hitem, hnode⟩ := List.mem_flatMap.mp hnode
      exact (ih item hitem (h.item hitem) hnode).of_pred
  | case5 v name rest hobject harray =>
      cases v with
      | object members => exact absurd rfl (hobject members)
      | array items => exact absurd rfl (harray items)
      | _ => simp [select] at hnode

/-- A node that segments lead to lies below the one where they start. -/
theorem Readable.lower_of_mem_select (h : Readable depth v) (hne : segments ≠ []) {node : Json}
    (hnode : node ∈ v.select segments) : Readable (depth - 1) node := by
  obtain ⟨name, rest, rfl⟩ := List.exists_cons_of_ne_nil hne
  cases v with
  | object members =>
      cases hget : Entries.get? members name with
      | none =>
          rw [select_object_of_absent hget] at hnode
          cases hnode
      | some member =>
          rw [select_object hget] at hnode
          exact (h.member hget).of_mem_select hnode
  | array items =>
      rw [select] at hnode
      obtain ⟨item, hitem, hnode⟩ := List.mem_flatMap.mp hnode
      exact (h.item hitem).of_mem_select hnode
  | _ => simp [select] at hnode

/-- So does every element of the collection. -/
theorem Readable.of_mem_collection (h : Readable depth v) (hne : segments ≠ []) {element : Json}
    (helement : element ∈ v.collection segments) : Readable (depth - 1) element := by
  unfold collection at helement
  split at helement
  · rename_i items hcrossings hselect
    have hnode := h.lower_of_mem_select hne (hselect ▸ List.mem_singleton_self _)
    exact (hnode.item helement).of_pred
  · cases helement
  · rename_i nodes hcrossings
    obtain ⟨node, hnode, helement⟩ := List.mem_flatMap.mp helement
    have hbelow := h.lower_of_mem_select hne hnode
    split at helement
    · exact (hbelow.item helement).of_pred
    · cases helement
    · rw [List.mem_singleton] at helement
      exact helement ▸ hbelow

end Json

section Records

variable {policy : ExtractPolicy} {depth : Nat} {data : Json}

/-- The payload of a record lies below the root of the page. -/
theorem readable_payload {map : IdMap} (hdata : Json.Readable depth data) {r : Record}
    (hr : r ∈ (extractPage map policy data).records) : Json.Readable (depth - 1) r.payload := by
  rw [extractPage_eq] at hr
  obtain ⟨entry, -, hr⟩ := List.mem_flatMap.mp hr
  rw [extractPath_eq] at hr
  cases hrecords : recordsFrom policy entry.1 entry.2 0 (data.collection entry.1.segments) with
  | error e =>
      rw [hrecords] at hr
      cases hr
  | ok records =>
      rw [hrecords, Extraction.recordsOf, records_of_recordsFrom hrecords] at hr
      obtain ⟨element, helement, hrecord⟩ := List.mem_filterMap.mp hr
      obtain ⟨id, -, rfl⟩ := Option.map_eq_some_iff.mp hrecord
      exact hdata.of_mem_collection entry.1.segments_ne_nil helement

end Records

theorem Response.readable_dataRoot {depth : Nat} {body : Json} (h : Json.Readable depth body) :
    Json.Readable depth (dataRoot body) := by
  unfold dataRoot
  split
  · rename_i members hdata
    cases body with
    | object _ => exact (h.member hdata).of_pred
    | _ => cases hdata
  · exact h

/-- The body of a successful answer was read from a text. -/
theorem Http.Answer.readable_of_judge {answer : Answer} {body : Json}
    (h : answer.judge = .ok body) :
    Json.Readable Json.maxDepth body := by
  unfold judge at h
  split_ifs at h
  cases hvalue : answer.value? with
  | none => simp [hvalue] at h
  | some v =>
      obtain rfl : v = body := by simpa [hvalue] using h
      obtain ⟨chars, -, hparse⟩ := Option.bind_eq_some_iff.mp hvalue
      exact Json.readable_of_parse? hparse

/-- Records that were extracted from the body of a response. -/
def Extracted (records : List Record) : Prop :=
  ∃ (answer : Http.Answer) (body : Json) (map : IdMap) (policy : ExtractPolicy),
    answer.judge = .ok body ∧
      records = (extractPage map policy (Response.dataRoot body)).records

namespace Record

/-- What is written of a record before the line feed. -/
def text (r : Record) : List Char := (Json.object r.members).render

/-- A reader of JSON finds a record in a text, member by member and as a whole. -/
def DecodesTo (read : String → Option Json) (text : List Char) (r : Record) : Prop :=
  ∃ v, read (String.ofList text) = some v ∧
    v.get? "source_path" = some (.string r.sourcePath) ∧
    v.get? "id" = some (.string r.id) ∧
    v.get? "payload" = some r.payload ∧
    ofJson? v = some r

theorem decodesTo_of_eq {read : String → Option Json} {text : List Char} {r : Record}
    (h : read (String.ofList text) = some (Json.ofMembers r.members)) :
    DecodesTo read text r := by
  have hpath : (Json.ofMembers r.members).get? "source_path" = some (.string r.sourcePath) := by
    rw [Json.ofMembers, Json.get?, Entries.get?_ofList]
    rfl
  have hid : (Json.ofMembers r.members).get? "id" = some (.string r.id) := by
    rw [Json.ofMembers, Json.get?, Entries.get?_ofList]
    rfl
  have hpayload : (Json.ofMembers r.members).get? "payload" = some r.payload := by
    rw [Json.ofMembers, Json.get?, Entries.get?_ofList]
    rfl
  have hslots : (Json.ofMembers r.members).slots? ["source_path", "id", "payload"] =
      some [some (.string r.sourcePath), some (.string r.id), some r.payload] := by
    rw [← hpath, ← hid, ← hpayload]
    rfl
  exact ⟨_, h, hpath, hid, hpayload, by simp [ofJson?, hslots, Json.string?]⟩

/-- A text holds no two records. -/
theorem DecodesTo.unique {read : String → Option Json} {text : List Char} {r r' : Record}
    (h : DecodesTo read text r) (h' : DecodesTo read text r') : r = r' := by
  obtain ⟨v, hread, -, -, -, hrecord⟩ := h
  obtain ⟨v', hread', -, -, -, hrecord'⟩ := h'
  rw [hread] at hread'
  cases hread'
  rw [hrecord] at hrecord'
  exact Option.some.inj hrecord'

/-- A line holds its record up to the floating-point numbers, if the payload may be
nested once more. -/
theorem decodesTo_text {real : Json.Numeral → Option Binary64} {f : Binary64 → Binary64}
    (hreal : ∀ x, Json.reread? real x = some (f x)) {r : Record}
    (hpayload : Json.Readable (Json.maxDepth - 1) r.payload) :
    DecodesTo (Json.parseWith? real) r.text { r with payload := r.payload.mapReals f } := by
  apply decodesTo_of_eq
  have hmembers : ∀ member ∈ r.members,
      Json.Spells real (Json.maxDepth - 1) member.2.render (member.2.mapReals f) := by
    simp only [members, List.forall_mem_cons]
    exact ⟨(Json.Readable.string _).spells hreal, (Json.Readable.string _).spells hreal,
      hpayload.spells hreal, List.forall_mem_nil _⟩
  exact (Json.spells_object hmembers).parseWith?

/-- A payload is given back exactly if each of its floating-point numbers is. -/
theorem decodesTo_text_iff {real : Json.Numeral → Option Binary64} {f : Binary64 → Binary64}
    (hreal : ∀ x, Json.reread? real x = some (f x)) {r : Record}
    (hpayload : Json.Readable (Json.maxDepth - 1) r.payload) :
    DecodesTo (Json.parseWith? real) r.text r ↔ ∀ x ∈ r.payload.reals, f x = x := by
  have hdecodes := decodesTo_text hreal hpayload
  rw [← Json.mapReals_eq_self_iff]
  constructor
  · intro hsame
    exact congrArg payload (hdecodes.unique hsame)
  · intro hsame
    rwa [hsame] at hdecodes

theorem line_feed_not_mem_text (r : Record) : '\n' ∉ r.text :=
  fun hmem => absurd (Json.isPlain_render _ _ hmem) (by decide)

theorem lines_eq (rs : List Record) : lines rs = (rs.map text).flatMap (· ++ ['\n']) := by
  rw [lines, List.flatMap_map]
  rfl

end Record

namespace Cli.Trial

def acceptAll (t : Trial) (pages : List (List Record)) : Trial :=
  pages.foldl (fun t page => (t.reply (.accept page)).2) t

theorem acceptAll_output (t : Trial) (pages : List (List Record)) :
    (t.acceptAll pages).output = t.output ++ Record.lines pages.flatten := by
  induction pages generalizing t with
  | nil => simp [acceptAll, Record.lines]
  | cons page pages ih =>
      have hrest := ih (t.reply (.accept page)).2
      calc (t.acceptAll (page :: pages)).output
          = t.output ++ Record.lines page ++ Record.lines pages.flatten := hrest
        _ = t.output ++ Record.lines (page :: pages).flatten := by
            rw [List.flatten_cons, Record.lines, Record.lines, Record.lines, List.flatMap_append,
              List.append_assoc]

/-- The output is one line for each accepted record, in the order in which the
records were accepted and whatever the pages were. A reader that takes the nearest
floating-point numbers finds the record in every line. The reader of this library
finds it up to the floating-point numbers in its payload, which are those that it makes
of the printed digits; they are the same if their digits are few. -/
theorem output_decodes (t : Trial) (pages : List (List Record))
    (hpages : ∀ page ∈ pages, Extracted page) :
    (t.acceptAll pages).output =
        t.output ++ (pages.flatten.map Record.text).flatMap (· ++ ['\n']) ∧
      ∀ r ∈ pages.flatten, '\n' ∉ r.text ∧
        Record.DecodesTo (Json.parseWith? Json.Numeral.nearest?) r.text r ∧
        Record.DecodesTo Json.parse? r.text
          { r with payload := r.payload.mapReals Json.reread } ∧
        (Record.DecodesTo Json.parse? r.text r ↔ ∀ x ∈ r.payload.reals, Json.reread x = x) ∧
        ∀ x ∈ r.payload.reals, Json.PrintsShort x → Json.reread x = x := by
  refine ⟨?_, ?_⟩
  · rw [acceptAll_output, Record.lines_eq]
  · intro r hr
    obtain ⟨page, hpage, hr⟩ := List.mem_flatten.mp hr
    obtain ⟨answer, body, map, policy, hjudge, rfl⟩ := hpages page hpage
    have hroot := Response.readable_dataRoot (Http.Answer.readable_of_judge hjudge)
    have hpayload := readable_payload hroot hr
    refine ⟨r.line_feed_not_mem_text, ?_, ?_, ?_, ?_⟩
    · exact (Record.decodesTo_text_iff (f := id) Json.reread?_nearest? hpayload).mpr
        fun x _ => rfl
    · exact Record.decodesTo_text Json.reread?_scaled? hpayload
    · exact Record.decodesTo_text_iff Json.reread?_scaled? hpayload
    · exact fun x _ hshort => Json.reread_of_printsShort hshort

namespace Sample

def answer (body : String) : Http.Answer := { status := 200, body := Text.utf8Bytes body.toList }

/-- A person whose id has a line feed, a null character and a quote. -/
def odd : Json :=
  .object [("id", .string "a\n\x00\""), ("tags", .array [.array [], .object []])]

def numbered : Json :=
  .object [("id", .number (.real ⟨false, 6755399441055744, 1022, by decide, by decide, by decide⟩))]

def bodies : List (String × Json) :=
  [("\x7b\"data\": \x7b\"people\": [\x7b\"id\": \"a\\n\\u0000\\\"\"," ++
      " \"tags\": [[], \x7b\x7d]\x7d,\n\x7b\"id\": 15e-1\x7d]\x7d\x7d",
    .object [("data", .object [("people", .array [odd, numbered])])]),
   ("[\x7b\"people\": [\x7b\"id\": 1.5\x7d]\x7d]",
    .array [.object [("people", .array [numbered])]])]

def people : DottedPath where
  segments := ["people"]
  segments_ne_nil := by decide
  isSegment := by
    simp only [List.forall_mem_cons, IsSegment]
    decide

def pages : List (List Record) :=
  bodies.map fun body =>
    (extractPage ⟨Table.ofList [(people, "id")]⟩ .strict (Response.dataRoot body.2)).records

def lines : List String :=
  ["\x7b\"source_path\":\"people\",\"id\":\"a\\n\\u0000\\\"\"," ++
      "\"payload\":\x7b\"id\":\"a\\n\\u0000\\\"\",\"tags\":[[],\x7b\x7d]\x7d\x7d",
   "\x7b\"source_path\":\"people\",\"id\":\"1.5\",\"payload\":\x7b\"id\":1.5\x7d\x7d",
   "\x7b\"source_path\":\"people\",\"id\":\"1.5\",\"payload\":\x7b\"id\":1.5\x7d\x7d"]

def start : Trial := { tree := .empty, now := default }

end Sample

/-- Three people from two pages are written as three lines, and found in them again. -/
theorem output_of_two_pages :
    (∀ page ∈ Sample.pages, Extracted page) ∧
      (Sample.start.acceptAll Sample.pages).output =
        Sample.lines.flatMap (fun line => line.toList ++ ['\n']) ∧
      ∀ r ∈ Sample.pages.flatten, '\n' ∉ r.text ∧ Record.DecodesTo Json.parse? r.text r := by
  have hpages : ∀ page ∈ Sample.pages, Extracted page := by
    have hread : ∀ body ∈ Sample.bodies, (Sample.answer body.1).judge = .ok body.2 := by
      decide +kernel
    intro page hpage
    obtain ⟨body, hbody, rfl⟩ := List.mem_map.mp hpage
    exact ⟨_, _, _, _, hread body hbody, rfl⟩
  obtain ⟨houtput, hlines⟩ := output_decodes Sample.start Sample.pages hpages
  have htext : Sample.pages.flatten.map Record.text = Sample.lines.map String.toList := by
    decide +kernel
  have hshort : ∀ r ∈ Sample.pages.flatten, ∀ x ∈ r.payload.reals, Json.PrintsShort x := by
    decide +kernel
  refine ⟨hpages, ?_, fun r hr => ?_⟩
  · rw [houtput, htext, List.flatMap_map]
    rfl
  · obtain ⟨hline, -, -, hdecodes, hreread⟩ := hlines r hr
    exact ⟨hline, hdecodes.mpr fun x hx => hreread x hx (hshort r hr x hx)⟩

namespace Sample

/-- A person with a score, `8711228593176024` being the significand of what is read
for `1e-25`. -/
def scored (significand : Nat) (h : significand < 2 ^ 53 ∧ 2 ^ 52 ≤ significand) : Json :=
  .object [("id", .string "a"), ("score", .number (.real ⟨false, significand, 938, h.1,
    by decide, .inr h.2⟩))]

def record : Record := ⟨"people", "a", scored 8711228593176024 (by decide)⟩

end Sample

/-- The score of a person is printed with sixteen digits, and the next number is read
where they stand. -/
theorem score_is_misread :
    Extracted [Sample.record] ∧
      String.ofList Sample.record.text = "\x7b\"source_path\":\"people\",\"id\":\"a\"," ++
        "\"payload\":\x7b\"id\":\"a\",\"score\":9.999999999999999e-26\x7d\x7d" ∧
      (Json.parse? (String.ofList Sample.record.text)).bind (·.get? "payload") =
        some (Sample.scored 8711228593176025 (by decide)) ∧
      ¬ Record.DecodesTo Json.parse? Sample.record.text Sample.record := by
  have hextracted : Extracted [Sample.record] := by
    have hjudge :
        (Sample.answer
          "\x7b\"people\": [\x7b\"id\": \"a\", \"score\": 1e-25\x7d]\x7d").judge =
          .ok (.object [("people", .array [Sample.record.payload])]) := by
      decide +kernel
    exact ⟨_, _, ⟨Table.ofList [(Sample.people, "id")]⟩, .strict, hjudge, by decide +kernel⟩
  have hread : (Json.parse? (String.ofList Sample.record.text)).bind (·.get? "payload") =
      some (Sample.scored 8711228593176025 (by decide)) := by
    decide +kernel
  refine ⟨hextracted, by decide +kernel, hread, ?_⟩
  rintro ⟨v, hparse, -, -, hpayload, -⟩
  rw [hparse, Option.bind_some, hpayload] at hread
  have hother : ¬ Sample.record.payload = Sample.scored 8711228593176025 (by decide) := by
    decide
  exact hother (Option.some.inj hread)

end Cli.Trial

end PageHarvest
