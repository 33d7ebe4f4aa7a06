import PageHarvest.Proofs.Paging
import PageHarvest.Proofs.Path.Selection

/-!
What comes of one page with cursor pagination, case by case. The pagination key has to
lead to one node without crossing an array, the page info there has to be readable,
and then the end cursor, the flag and the cursor before the page decide. A page that
fails leaves the progress as it was.
-/

namespace PageHarvest

/-- How a member can hold whether a page follows: as a truth value, or as nothing
where it is not said. -/
def HoldsFlag (member : Option Json) : Option Bool → Prop
  | some flag => member = some (.bool flag)
  | none => member = none

namespace PageInfo

variable {path : String}

theorem readEndCursor_of_holds {member : Option Json} {endCursor : Option String}
    (h : HoldsCursor member endCursor) : readEndCursor path member = .ok endCursor := by
  cases endCursor with
  | none =>
      rcases h with rfl | rfl
      · rfl
      · rfl
  | some cursor =>
      obtain rfl := h
      rfl

theorem readHasNextPage_ok {member : Option Json} {hasNextPage : Option Bool}
    (h : readHasNextPage path member = .ok hasNextPage) : HoldsFlag member hasNextPage := by
  unfold readHasNextPage at h
  split at h
  · cases h
    rfl
  · cases h
    rfl
  · cases h

theorem readHasNextPage_of_holds {member : Option Json} {hasNextPage : Option Bool}
    (h : HoldsFlag member hasNextPage) : readHasNextPage path member = .ok hasNextPage := by
  cases hasNextPage with
  | none =>
      obtain rfl := h
      rfl
  | some flag =>
      obtain rfl := h
      rfl

theorem ofConnection_of_holds {node : Json} {members : List (String × Json)}
    {endCursor : Option String} {hasNextPage : Option Bool}
    (hmembers : node.get? "pageInfo" = some (.object members))
    (hend : HoldsCursor (Entries.get? members "endCursor") endCursor)
    (hflag : HoldsFlag (Entries.get? members "hasNextPage") hasNextPage) :
    ofConnection node path = .ok ⟨endCursor, hasNextPage⟩ := by
  simp [ofConnection, hmembers, readEndCursor_of_holds hend, readHasNextPage_of_holds hflag, bind,
    Except.bind, pure, Except.pure]

end PageInfo

namespace Pagination

section Connection

variable {key : DottedPath} {data : Json}

theorem connection_of_not_resolves (h : ¬ data.Resolves key.segments) :
    connection key data = .error (.paginationKeyNotFound key.text) := by
  obtain ⟨hok, -⟩ := walk_covers data key.segments 0
  unfold connection DottedPath.resolve
  cases hwalk : walk data key.segments 0 with
  | ok result => exact absurd (hok result hwalk).2 h
  | error depth => rfl

theorem connection_of_crossing (h : data.Resolves key.segments)
    (hcrossing : data.crossings key.segments ≠ []) :
    ∃ message, connection key data = .error (.malformedPageInfo key.text message) := by
  obtain ⟨hok, herror⟩ := walk_covers data key.segments 0
  unfold connection DottedPath.resolve
  cases hwalk : walk data key.segments 0 with
  | ok result =>
      have hnode := (hok result hwalk).1.node
      cases result with
      | node value => exact absurd (hnode.mp ⟨value, rfl⟩) hcrossing
      | many items => exact ⟨_, rfl⟩
  | error depth => exact absurd h (herror depth hwalk)

theorem connection_of_node (h : data.Resolves key.segments)
    (hcrossing : data.crossings key.segments = []) :
    ∃ node, data.select key.segments = [node] ∧ connection key data = .ok node := by
  obtain ⟨hok, herror⟩ := walk_covers data key.segments 0
  unfold connection DottedPath.resolve
  cases hwalk : walk data key.segments 0 with
  | ok result =>
      have hcovers := (hok result hwalk).1
      obtain ⟨value, rfl⟩ := hcovers.node.mpr hcrossing
      exact ⟨value, hcovers.leaves.symm, rfl⟩
  | error depth => exact absurd h (herror depth hwalk)

end Connection

end Pagination

namespace CursorPage

open Pagination (connection)

/-- What comes of handling a page: a verdict or an error, and the progress after it. -/
abbrev Outcome := EStateM.Result Error Progress NextPage

/-- The page is called malformed, and the progress is as it was before. -/
def Rejects (key : DottedPath) (progress : Progress) (outcome : Outcome) : Prop :=
  ∃ message, outcome = .error (.malformedPageInfo key.text message) progress

structure InfoOutcome (key : DottedPath) (progress : Progress) (endCursor : Option String)
    (flag : Option Bool) (outcome : Outcome) : Prop where
  nothing : endCursor = none → flag = none → Rejects key progress outcome
  nowhere : endCursor = none → flag = some true → Rejects key progress outcome
  repeated : ∀ cursor, endCursor = some cursor → flag = some true →
    progress.cursor = some cursor → Rejects key progress outcome
  onward : ∀ cursor, endCursor = some cursor → flag = some true →
    progress.cursor ≠ some cursor →
      outcome = .ok (.continue cursor) ⟨some cursor, progress.hasMore⟩
  last : flag = some false ∨ (flag = none ∧ endCursor ≠ none) →
    outcome = .ok .done ⟨endCursor.or progress.cursor, false⟩

structure NodeOutcome (key : DottedPath) (progress : Progress) (node : Json)
    (outcome : Outcome) : Prop where
  noPageInfo : (∀ members, node.get? "pageInfo" ≠ some (.object members)) →
    Rejects key progress outcome
  badEndCursor : ∀ members, node.get? "pageInfo" = some (.object members) →
    (∀ endCursor, ¬ HoldsCursor (Entries.get? members "endCursor") endCursor) →
      Rejects key progress outcome
  badFlag : ∀ members, node.get? "pageInfo" = some (.object members) →
    (∀ flag, ¬ HoldsFlag (Entries.get? members "hasNextPage") flag) →
      Rejects key progress outcome
  readable : ∀ members endCursor flag, node.get? "pageInfo" = some (.object members) →
    HoldsCursor (Entries.get? members "endCursor") endCursor →
    HoldsFlag (Entries.get? members "hasNextPage") flag →
      InfoOutcome key progress endCursor flag outcome

variable (key : DottedPath) (progress : Progress)

theorem infoOutcome_advance (endCursor : Option String) (flag : Option Bool) :
    InfoOutcome key progress endCursor flag
      (PageInfo.advance ⟨endCursor, flag⟩ key.text progress) where
  nothing := by
    rintro rfl rfl
    exact ⟨_, PageInfo.advance_eq ..⟩
  nowhere := by
    rintro rfl rfl
    exact ⟨_, PageInfo.advance_eq ..⟩
  repeated := by
    rintro cursor rfl rfl hsame
    rw [PageInfo.advance_eq]
    exact ⟨_, if_pos hsame⟩
  onward := by
    rintro cursor rfl rfl hmoved
    rw [PageInfo.advance_eq]
    exact if_neg hmoved
  last := by
    rintro (rfl | ⟨rfl, hend⟩)
    · cases endCursor <;> rw [PageInfo.advance_eq] <;> rfl
    · obtain ⟨cursor, rfl⟩ := Option.ne_none_iff_exists'.mp hend
      rw [PageInfo.advance_eq]
      rfl

variable {data node : Json}

theorem nodeOutcome_process (hnode : connection key data = .ok node) :
    NodeOutcome key progress node ((Pagination.cursor key).process data progress) := by
  -- Only page info of which all parts can be read is read at all.
  have hrejects : (∀ info, PageInfo.ofConnection node key.text ≠ .ok info) →
      Rejects key progress ((Pagination.cursor key).process data progress) := by
    intro hunreadable
    cases hinfo : PageInfo.ofConnection node key.text with
    | ok info => exact absurd hinfo (hunreadable info)
    | error e =>
        obtain ⟨message, rfl⟩ := PageInfo.ofConnection_error hinfo
        rw [Pagination.process_cursor_eq, hnode]
        dsimp only
        rw [hinfo]
        exact ⟨message, rfl⟩
  constructor
  case noPageInfo =>
    intro hnone
    refine hrejects fun info hinfo => ?_
    obtain ⟨members, hmembers, -, -⟩ := PageInfo.ofConnection_ok hinfo
    exact hnone members hmembers
  case badEndCursor =>
    intro members hmembers hbad
    refine hrejects fun info hinfo => ?_
    obtain ⟨others, hothers, hend, -⟩ := PageInfo.ofConnection_ok hinfo
    obtain rfl : members = others := by simpa [hmembers] using hothers
    exact hbad _ (PageInfo.readEndCursor_ok hend)
  case badFlag =>
    intro members hmembers hbad
    refine hrejects fun info hinfo => ?_
    obtain ⟨others, hothers, -, hflag⟩ := PageInfo.ofConnection_ok hinfo
    obtain rfl : members = others := by simpa [hmembers] using hothers
    exact hbad _ (PageInfo.readHasNextPage_ok hflag)
  case readable =>
    intro members endCursor flag hmembers hend hflag
    have hinfo : PageInfo.ofConnection node key.text = .ok ⟨endCursor, flag⟩ :=
      PageInfo.ofConnection_of_holds hmembers hend hflag
    rw [Pagination.process_cursor_eq, hnode]
    dsimp only
    rw [hinfo]
    exact infoOutcome_advance key progress endCursor flag

/-- What comes of every page with cursor pagination. The cases are complete: the key
resolves or does not, it crosses an array or leads to one node, and that node has page
info of which each part can be read or not. -/
theorem outcome_of_process (data : Json) :
    (¬ data.Resolves key.segments →
      (Pagination.cursor key).process data progress =
        .error (.paginationKeyNotFound key.text) progress) ∧
      (data.Resolves key.segments → data.crossings key.segments ≠ [] →
        Rejects key progress ((Pagination.cursor key).process data progress)) ∧
      (data.Resolves key.segments → data.crossings key.segments = [] →
        ∃ node, data.select key.segments = [node] ∧
          NodeOutcome key progress node ((Pagination.cursor key).process data progress)) ∧
      ∀ e after, (Pagination.cursor key).process data progress = .error e after →
        after = progress := by
  refine ⟨?_, ?_, ?_, ?_⟩
  · intro habsent
    rw [Pagination.process_cursor_eq, Pagination.connection_of_not_resolves habsent]
  · intro hresolves hcrossing
    obtain ⟨message, hconnection⟩ := Pagination.connection_of_crossing hresolves hcrossing
    rw [Pagination.process_cursor_eq, hconnection]
    exact ⟨message, rfl⟩
  · intro hresolves hcrossing
    obtain ⟨node, hselect, hnode⟩ := Pagination.connection_of_node hresolves hcrossing
    exact ⟨node, hselect, nodeOutcome_process key progress hnode⟩
  · intro e after herror
    exact (Pagination.process_error herror).2

namespace Sample

def users : DottedPath where
  segments := ["orgs", "users"]
  segments_ne_nil := by decide
  isSegment := by
    simp only [List.forall_mem_cons, IsSegment]
    decide

def page (members : List (String × Json)) : Json :=
  .object [("orgs", .object [("users", .object [("pageInfo", .object members)])])]

def more : List (String × Json) := [("endCursor", .string "b"), ("hasNextPage", .bool true)]

end Sample

/-- A page is gone on from once: the second time its cursor is the one before it. A page
that says nothing fails, and so do an empty list of organisations and a page without
any. -/
theorem outcome_of_sample_pages :
    (Pagination.cursor Sample.users).process (Sample.page Sample.more) ⟨some "a", true⟩ =
        .ok (.continue "b") ⟨some "b", true⟩ ∧
      Rejects Sample.users ⟨some "b", true⟩
        ((Pagination.cursor Sample.users).process (Sample.page Sample.more) ⟨some "b", true⟩) ∧
      Rejects Sample.users ⟨some "b", true⟩
        ((Pagination.cursor Sample.users).process (Sample.page []) ⟨some "b", true⟩) ∧
      Rejects Sample.users ⟨none, true⟩
        ((Pagination.cursor Sample.users).process (.object [("orgs", .array [])]) ⟨none, true⟩) ∧
      (Pagination.cursor Sample.users).process .null ⟨none, true⟩ =
        .error (.paginationKeyNotFound Sample.users.text) ⟨none, true⟩ := by
  have hselect : ∀ members, (Sample.page members).select Sample.users.segments =
      [.object [("pageInfo", .object members)]] := by
    intro members
    simp [Sample.page, Sample.users, Json.select, Entries.get?]
  have hcrossings : ∀ members, (Sample.page members).crossings Sample.users.segments = [] := by
    intro members
    simp [Sample.page, Sample.users, Json.crossings, Entries.get?]
  have hinfo : ∀ members progress, ∀ endCursor flag,
      HoldsCursor (Entries.get? members "endCursor") endCursor →
      HoldsFlag (Entries.get? members "hasNextPage") flag →
        InfoOutcome Sample.users progress endCursor flag
          ((Pagination.cursor Sample.users).process (Sample.page members) progress) := by
    intro members progress endCursor flag hend hflag
    obtain ⟨-, -, hnode, -⟩ := outcome_of_process Sample.users progress (Sample.page members)
    obtain ⟨node, hnode, houtcome⟩ := hnode (.inl (by simp [hselect])) (hcrossings members)
    obtain rfl : .object [("pageInfo", .object members)] = node := by simpa [hselect] using hnode
    exact houtcome.readable members endCursor flag rfl hend hflag
  have hmore := fun progress => hinfo Sample.more progress (some "b") (some true) rfl rfl
  obtain ⟨habsent, -, -, -⟩ := outcome_of_process Sample.users ⟨none, true⟩ .null
  obtain ⟨-, hcrossed, -, -⟩ :=
    outcome_of_process Sample.users ⟨none, true⟩ (.object [("orgs", .array [])])
  refine ⟨(hmore ⟨some "a", true⟩).onward "b" rfl rfl (by decide),
    (hmore ⟨some "b", true⟩).repeated "b" rfl rfl rfl,
    (hinfo [] ⟨some "b", true⟩ none none (.inl rfl) rfl).nothing rfl rfl,
    hcrossed ?_ ?_, habsent ?_⟩
  · simp [Json.Resolves, Sample.users, Json.select, Json.crossings, Entries.get?]
  · simp [Sample.users, Json.crossings, Entries.get?]
  · simp [Json.Resolves, Sample.users, Json.select, Json.crossings]

end CursorPage

end PageHarvest
