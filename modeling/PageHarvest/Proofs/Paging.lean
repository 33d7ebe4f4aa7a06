import Mathlib.Tactic.Common
import PageHarvest.Paging

/-!
What a page can say about the next one. The page info is found through the
pagination key; a page that can be read leads to its own end cursor, or leaves
the cursor alone and is the last one. A page that cannot be read is complained
about by the name of that key, and leaves the progress as it was.
-/

namespace PageHarvest

/-- How a member can hold an end cursor: as a string, or as nothing or null
where there is none. -/
def HoldsCursor (member : Option Json) : Option String → Prop
  | some cursor => member = some (.string cursor)
  | none => member = none ∨ member = some .null

/-- The end cursor in the page info that the pagination key leads to. -/
def SaysEndCursor (key : DottedPath) (data : Json) (endCursor : Option String) : Prop :=
  ∃ node members, key.resolve data = .found (.node node) ∧
    node.get? "pageInfo" = some (.object members) ∧
    HoldsCursor (Entries.get? members "endCursor") endCursor

/-- The page info under the pagination key says that a page follows, after this
cursor. -/
def SaysContinue (key : DottedPath) (data : Json) (cursor : String) : Prop :=
  ∃ node members, key.resolve data = .found (.node node) ∧
    node.get? "pageInfo" = some (.object members) ∧
    Entries.get? members "endCursor" = some (.string cursor) ∧
    Entries.get? members "hasNextPage" = some (.bool true)

namespace PageInfo

theorem readEndCursor_ok {path : String} {member : Option Json} {endCursor : Option String}
    (h : readEndCursor path member = .ok endCursor) : HoldsCursor member endCursor := by
  unfold readEndCursor at h
  split at h
  · cases h
    exact .inl rfl
  · cases h
    exact .inr rfl
  · cases h
    rfl
  · cases h

theorem ofConnection_ok {node : Json} {path : String} {info : PageInfo}
    (h : ofConnection node path = .ok info) :
    ∃ members, node.get? "pageInfo" = some (.object members) ∧
      readEndCursor path (Entries.get? members "endCursor") = .ok info.endCursor ∧
      readHasNextPage path (Entries.get? members "hasNextPage") = .ok info.hasNextPage := by
  unfold ofConnection at h
  split at h
  · cases h
  · rename_i members hmembers
    cases hend : readEndCursor path (Entries.get? members "endCursor") with
    | error e => simp [hend, bind, Except.bind] at h
    | ok endCursor =>
        cases hnext : readHasNextPage path (Entries.get? members "hasNextPage") with
        | error e => simp [hend, hnext, bind, Except.bind] at h
        | ok hasNextPage =>
            simp only [hend, hnext, bind, Except.bind, pure, Except.pure, Except.ok.injEq] at h
            subst h
            exact ⟨members, hmembers, hend, hnext⟩
  · cases h

/-- What becomes of the progress, by the flag and the end cursor. -/
theorem advance_eq (info : PageInfo) (path : String) (progress : Progress) :
    info.advance path progress =
      match info.hasNextPage, info.endCursor with
      | none, none => .error (.malformedPageInfo path
          "pageInfo carries neither endCursor nor hasNextPage") progress
      | some true, none => .error (.malformedPageInfo path
          "hasNextPage is true but endCursor is null") progress
      | some true, some cursor =>
          if progress.cursor = some cursor then .error (.malformedPageInfo path
            ("endCursor '" ++ cursor ++ "' repeats the cursor that produced this page")) progress
          else .ok (.continue cursor) ⟨some cursor, progress.hasMore⟩
      | some false, none => .ok .done ⟨progress.cursor, false⟩
      | some false, some cursor | none, some cursor => .ok .done ⟨some cursor, false⟩ := by
  obtain ⟨endCursor, hasNextPage⟩ := info
  rcases hasNextPage with _ | _ | _ <;> rcases endCursor with _ | cursor <;> try rfl
  have hadvance : advance ⟨some cursor, some true⟩ path progress =
      (if progress.cursor = some cursor then
        throw (.malformedPageInfo path
          ("endCursor '" ++ cursor ++ "' repeats the cursor that produced this page"))
      else do
        modify (.setCursor cursor)
        return .continue cursor : EStateM Error Progress NextPage) progress := rfl
  rw [hadvance]
  by_cases hsame : progress.cursor = some cursor
  · rw [if_pos hsame]
    exact (if_pos hsame).symm
  · rw [if_neg hsame]
    exact (if_neg hsame).symm

/-- The three ways in which a page can be gone on from: to another page with a
new cursor, to the end with a cursor, or to the end without one. -/
theorem advance_ok {info : PageInfo} {path : String} {progress next : Progress}
    {verdict : NextPage} (h : info.advance path progress = .ok verdict next) :
    (∃ cursor, info.endCursor = some cursor ∧ progress.cursor ≠ some cursor ∧
      verdict = .continue cursor ∧ next = ⟨some cursor, progress.hasMore⟩) ∨
    (∃ cursor, info.endCursor = some cursor ∧ verdict = .done ∧ next = ⟨some cursor, false⟩) ∨
    (info.endCursor = none ∧ verdict = .done ∧ next = ⟨progress.cursor, false⟩) := by
  rw [advance_eq] at h
  split at h
  · cases h
  · cases h
  · rename_i cursor hmore hend
    split at h
    · cases h
    · rename_i hmoved
      cases h
      exact .inl ⟨cursor, hend, hmoved, rfl, rfl⟩
  · rename_i hmore hend
    cases h
    exact .inr (.inr ⟨hend, rfl, rfl⟩)
  · rename_i cursor hmore hend
    cases h
    exact .inr (.inl ⟨cursor, hend, rfl, rfl⟩)
  · rename_i cursor hmore hend
    cases h
    exact .inr (.inl ⟨cursor, hend, rfl, rfl⟩)

end PageInfo

namespace Pagination

theorem next_ok_iff {p : Pagination} {data : Json} {progress after : Progress}
    {verdict : NextPage} :
    p.next data progress = .ok (verdict, after) ↔ p.process data progress = .ok verdict after := by
  unfold next
  cases p.process data progress <;> simp

theorem next_error_iff {p : Pagination} {data : Json} {progress : Progress} {e : Error} :
    p.next data progress = .error e ↔ ∃ after, p.process data progress = .error e after := by
  unfold next
  cases p.process data progress <;> simp

theorem connection_ok {key : DottedPath} {data node : Json} (h : connection key data = .ok node) :
    key.resolve data = .found (.node node) := by
  unfold connection at h
  split at h
  · rename_i found hfound
    cases h
    exact hfound
  · cases h
  · cases h

theorem ofExcept_bind_eq {α β : Type} (x : Except Error α) (f : α → EStateM Error Progress β)
    (progress : Progress) :
    (ofExcept x >>= f) progress =
      match x with
      | .error e => .error e progress
      | .ok a => f a progress := by
  cases x <;> rfl

/-- The three stages of a page with cursor pagination. -/
theorem process_cursor_eq (key : DottedPath) (data : Json) (progress : Progress) :
    (Pagination.cursor key).process data progress =
      match connection key data with
      | .error e => .error e progress
      | .ok node =>
          match PageInfo.ofConnection node key.text with
          | .error e => .error e progress
          | .ok info => info.advance key.text progress := by
  rw [process, ofExcept_bind_eq]
  cases connection key data with
  | error e => rfl
  | ok node =>
      dsimp only
      rw [ofExcept_bind_eq]
      cases PageInfo.ofConnection node key.text <;> rfl

/-- A page that can be read has a single node with page info under the key, and
is gone on from as that info says. -/
theorem process_cursor_ok {key : DottedPath} {data : Json} {progress next : Progress}
    {verdict : NextPage} (h : (Pagination.cursor key).process data progress = .ok verdict next) :
    ∃ info : PageInfo, SaysEndCursor key data info.endCursor ∧
      info.advance key.text progress = .ok verdict next := by
  rw [process_cursor_eq] at h
  split at h
  · cases h
  · rename_i node hnode
    split at h
    · cases h
    · rename_i info hinfo
      obtain ⟨members, hmembers, hend, -⟩ := PageInfo.ofConnection_ok hinfo
      exact ⟨info, ⟨node, members, connection_ok hnode, hmembers,
        PageInfo.readEndCursor_ok hend⟩, h⟩

/-- The cursor after a page is its end cursor, or the one before it if there is
none; and where another page follows, the cursor has moved. -/
theorem next_cursor_moves {key : DottedPath} {data : Json} {progress next : Progress}
    {verdict : NextPage} (h : (Pagination.cursor key).next data progress = .ok (verdict, next)) :
    ∃ endCursor, SaysEndCursor key data endCursor ∧
      next.cursor = endCursor.or progress.cursor ∧
      (next.hasMore = true → endCursor ≠ Option.none ∧ endCursor ≠ progress.cursor) := by
  obtain ⟨info, hsays, hadvance⟩ := process_cursor_ok (next_ok_iff.mp h)
  refine ⟨info.endCursor, hsays, ?_⟩
  obtain ⟨cursor, hend, hmoved, -, rfl⟩ | ⟨cursor, hend, -, rfl⟩ | ⟨hend, -, rfl⟩ :=
    PageInfo.advance_ok hadvance
  · refine ⟨by simp [hend], ?_⟩
    intro _
    rw [hend]
    exact ⟨by simp, Ne.symm hmoved⟩
  · simp [hend]
  · simp [hend]

/-- A page that says that another one follows is gone on from with its end
cursor, unless the progress has that cursor already. -/
theorem next_of_saysContinue {key : DottedPath} {data : Json} {cursor : String}
    (h : SaysContinue key data cursor) (progress : Progress) :
    (Pagination.cursor key).next data progress =
      if progress.cursor = some cursor then
        .error (.malformedPageInfo key.text
          ("endCursor '" ++ cursor ++ "' repeats the cursor that produced this page"))
      else .ok (.continue cursor, ⟨some cursor, progress.hasMore⟩) := by
  obtain ⟨node, members, hnode, hmembers, hend, hmore⟩ := h
  have hconnection : connection key data = .ok node := by simp [connection, hnode]
  have hinfo : PageInfo.ofConnection node key.text = .ok ⟨some cursor, some true⟩ := by
    simp [PageInfo.ofConnection, hmembers, hend, hmore, PageInfo.readEndCursor,
      PageInfo.readHasNextPage, bind, Except.bind, pure, Except.pure]
  unfold Pagination.next
  rw [process_cursor_eq, hconnection]
  dsimp only
  rw [hinfo]
  dsimp only
  rw [PageInfo.advance_eq]
  dsimp only
  split_ifs <;> rfl

/-- Whatever the pagination, only a page that another one follows leaves the
progress open, and this is what its verdict says. -/
theorem next_hasMore {pagination : Pagination} {data : Json} {progress next : Progress}
    {verdict : NextPage} (hopen : progress.hasMore = true)
    (h : pagination.next data progress = .ok (verdict, next)) :
    next.hasMore = true ↔ verdict ≠ .done := by
  cases pagination with
  | none =>
      cases h
      simp [Progress.markDone]
  | cursor key =>
      obtain ⟨info, -, hadvance⟩ := process_cursor_ok (next_ok_iff.mp h)
      obtain ⟨cursor, -, -, rfl, rfl⟩ | ⟨cursor, -, rfl, rfl⟩ | ⟨-, rfl, rfl⟩ :=
        PageInfo.advance_ok hadvance
      · simp [hopen]
      · simp
      · simp

end Pagination

/-- A complaint about what stands under the pagination key. -/
def IsMalformed (path : String) (e : Error) : Prop := ∃ message, e = .malformedPageInfo path message

/-- The two complaints about a page, both of which name the pagination key. -/
def BlamesKey (path : String) (e : Error) : Prop :=
  e = .paginationKeyNotFound path ∨ IsMalformed path e

namespace PageInfo

variable {path : String} {e : Error}

theorem readEndCursor_error {member : Option Json} (h : readEndCursor path member = .error e) :
    IsMalformed path e := by
  unfold readEndCursor at h
  split at h
  · cases h
  · cases h
  · cases h
  · cases h
    exact ⟨_, rfl⟩

theorem readHasNextPage_error {member : Option Json}
    (h : readHasNextPage path member = .error e) : IsMalformed path e := by
  unfold readHasNextPage at h
  split at h
  · cases h
  · cases h
  · cases h
    exact ⟨_, rfl⟩

theorem ofConnection_error {node : Json} (h : ofConnection node path = .error e) :
    IsMalformed path e := by
  unfold ofConnection at h
  split at h
  · cases h
    exact ⟨_, rfl⟩
  · rcases error_of_bind h with hend | ⟨endCursor, -, h⟩
    · exact readEndCursor_error hend
    rcases error_of_bind h with hnext | ⟨hasNextPage, -, h⟩
    · exact readHasNextPage_error hnext
    · cases h
  · cases h
    exact ⟨_, rfl⟩

theorem advance_error {info : PageInfo} {progress after : Progress}
    (h : info.advance path progress = .error e after) : IsMalformed path e ∧ after = progress := by
  rw [advance_eq] at h
  split at h
  · cases h
    exact ⟨⟨_, rfl⟩, rfl⟩
  · cases h
    exact ⟨⟨_, rfl⟩, rfl⟩
  · split at h
    · cases h
      exact ⟨⟨_, rfl⟩, rfl⟩
    · cases h
  all_goals cases h

end PageInfo

namespace Pagination

theorem connection_error {key : DottedPath} {data : Json} {e : Error}
    (h : connection key data = .error e) : BlamesKey key.text e := by
  unfold connection at h
  split at h
  · cases h
  · cases h
    exact .inr ⟨_, rfl⟩
  · cases h
    exact .inl rfl

/-- A page that cannot be gone on from is blamed on the key and leaves the
progress as it was. -/
theorem process_error {pagination : Pagination} {data : Json} {progress after : Progress}
    {e : Error} (h : pagination.process data progress = .error e after) :
    (∃ key, pagination = .cursor key ∧ BlamesKey key.text e) ∧ after = progress := by
  cases pagination with
  | none => cases h
  | cursor key =>
      rw [process_cursor_eq] at h
      split at h
      · rename_i hnode
        cases h
        exact ⟨⟨key, rfl, connection_error hnode⟩, rfl⟩
      · split at h
        · rename_i hinfo
          cases h
          exact ⟨⟨key, rfl, .inr (PageInfo.ofConnection_error hinfo)⟩, rfl⟩
        · obtain ⟨hmalformed, hafter⟩ := PageInfo.advance_error h
          exact ⟨⟨key, rfl, .inr hmalformed⟩, hafter⟩

theorem next_error {pagination : Pagination} {data : Json} {progress : Progress} {e : Error}
    (h : pagination.next data progress = .error e) :
    ∃ key, pagination = .cursor key ∧ BlamesKey key.text e := by
  obtain ⟨after, hprocess⟩ := next_error_iff.mp h
  exact (process_error hprocess).1

theorem next_error_category {pagination : Pagination} {data : Json} {progress : Progress}
    {e : Error} (h : pagination.next data progress = .error e) : e.category = .pagination := by
  obtain ⟨key, -, rfl | ⟨message, rfl⟩⟩ := next_error h
  · rfl
  · rfl

end Pagination

end PageHarvest
