import PageHarvest.Connector
import PageHarvest.Path.Resolve

/-!
Going from page to page. With cursor pagination every page reports the cursor
of its last element and whether more follow; without it there is one page. The
progress is changed in place as a page is handled, and what was changed stays so
if the page turns out to be malformed after that.
-/

namespace PageHarvest

/-- How far the pages have been gone through. -/
structure Progress where
  /-- The cursor after which the next page starts. -/
  cursor : Option String
  /-- Whether there may be another page. -/
  hasMore : Bool
deriving DecidableEq, Repr

namespace Progress

def startingAt (cursor : Option String) : Progress := ⟨cursor, true⟩

def setCursor (cursor : String) (progress : Progress) : Progress :=
  { progress with cursor := some cursor }

def markDone (progress : Progress) : Progress := { progress with hasMore := false }

end Progress

inductive NextPage where
  | continue (cursor : String)
  | done
deriving DecidableEq, Repr

structure PageInfo where
  endCursor : Option String
  hasNextPage : Option Bool
deriving DecidableEq, Repr

namespace PageInfo

/-- The end cursor; null is the same as absent. -/
def readEndCursor (path : String) : Option Json → Except Error (Option String)
  | none | some .null => .ok none
  | some (.string cursor) => .ok (some cursor)
  | some other =>
      .error (.malformedPageInfo path ("endCursor must be a string or null, got " ++ other.compact))

/-- Whether a page follows; null is not allowed. -/
def readHasNextPage (path : String) : Option Json → Except Error (Option Bool)
  | none => .ok none
  | some (.bool flag) => .ok (some flag)
  | some other =>
      .error (.malformedPageInfo path ("hasNextPage must be a boolean, got " ++ other.compact))

def ofConnection (connection : Json) (path : String) : Except Error PageInfo :=
  match connection.get? "pageInfo" with
  | none => .error (.malformedPageInfo path "pageInfo is missing")
  | some (.object members) => do
      let endCursor ← readEndCursor path (Entries.get? members "endCursor")
      let hasNextPage ← readHasNextPage path (Entries.get? members "hasNextPage")
      return ⟨endCursor, hasNextPage⟩
  | some _ => .error (.malformedPageInfo path "pageInfo is not an object")

/-- Whether a page follows. Where this is not said, none does, but then there
must be an end cursor. -/
def hasNext (info : PageInfo) (path : String) : Except Error Bool :=
  match info.hasNextPage, info.endCursor with
  | some flag, _ => .ok flag
  | none, some _ => .ok false
  | none, none =>
      .error (.malformedPageInfo path "pageInfo carries neither endCursor nor hasNextPage")

/-- How to go on after a page with this info. A cursor that does not move would
fetch the same page for ever. -/
def advance (info : PageInfo) (path : String) : EStateM Error Progress NextPage := do
  let more ← ofExcept (info.hasNext path)
  match more, info.endCursor with
  | true, none => throw (.malformedPageInfo path "hasNextPage is true but endCursor is null")
  | true, some cursor =>
      if (← get).cursor = some cursor then
        throw (.malformedPageInfo path
          ("endCursor '" ++ cursor ++ "' repeats the cursor that produced this page"))
      else
        modify (.setCursor cursor)
        return .continue cursor
  | false, some cursor =>
      modify (.setCursor cursor)
      modify .markDone
      return .done
  | false, none =>
      modify .markDone
      return .done

end PageInfo

namespace Pagination

/-- The single node that the pagination key leads to. -/
def connection (key : DottedPath) (data : Json) : Except Error Json :=
  match key.resolve data with
  | .found (.node node) => .ok node
  | .found (.many _) =>
      .error (.malformedPageInfo key.text "pagination key resolves to several nodes")
  | .missing _ => .error (.paginationKeyNotFound key.text)

def requestCursor (p : Pagination) (progress : Progress) : Option String :=
  match p with
  | .none => Option.none
  | .cursor _ => progress.cursor

def process (p : Pagination) (data : Json) : EStateM Error Progress NextPage :=
  match p with
  | .none => do
      modify .markDone
      return .done
  | .cursor key => do
      let node ← ofExcept (connection key data)
      let info ← ofExcept (PageInfo.ofConnection node key.text)
      info.advance key.text

/-- How to go on after a page, and the progress after it. -/
def next (p : Pagination) (data : Json) (progress : Progress) :
    Except Error (NextPage × Progress) :=
  match p.process data progress with
  | .ok verdict progress => .ok (verdict, progress)
  | .error e _ => .error e

end Pagination

end PageHarvest
