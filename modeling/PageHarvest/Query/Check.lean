import PageHarvest.Error
import PageHarvest.Query.Strip
import PageHarvest.Text.Blank
import PageHarvest.Text.Word

/-!
Checks of a query document that need no grammar: its brackets are balanced, it
selects something, it has no write operation, and for cursor pagination it can
take a cursor and report the next one.
-/

namespace PageHarvest.Query

inductive Problem where
  | noSelection
  | unbalanced (bracket : Char)
  | notAQuery (keyword : String)
  | noAfterVariable
  | notSelected (field : String)
deriving DecidableEq, Repr

def Problem.message : Problem → String
  | .noSelection => "query has no selection set"
  | .unbalanced bracket => "unbalanced '" ++ bracket.toString ++ "'"
  | .notAQuery keyword => "only query operations are supported, found '" ++ keyword ++ "'"
  | .noAfterVariable => "cursor pagination requires the query to declare an $after variable"
  | .notSelected field => "cursor pagination requires the query to select '" ++ field ++ "'"

/-- The text outside all brackets, when `braces` and `parens` brackets are open
before it. A closing bracket leaves a blank. -/
def topLevel (braces parens : Nat) : List Char → Except Problem (List Char)
  | [] =>
      if braces ≠ 0 then .error (.unbalanced '{')
      else if parens ≠ 0 then .error (.unbalanced '(')
      else .ok []
  | c :: rest =>
      if c = '{' then topLevel (braces + 1) parens rest
      else if c = '(' then topLevel braces (parens + 1) rest
      else if c = '}' then
        if braces = 0 then .error (.unbalanced '}')
        else (topLevel (braces - 1) parens rest).map (' ' :: ·)
      else if c = ')' then
        if parens = 0 then .error (.unbalanced ')')
        else (topLevel braces (parens - 1) rest).map (' ' :: ·)
      else if braces = 0 ∧ parens = 0 then (topLevel braces parens rest).map (c :: ·)
      else topLevel braces parens rest

def forbiddenKeywords : List String := ["mutation", "subscription"]

/-- Fields that a cursor-paginated query must select. -/
def pageInfoFields : List String := ["pageInfo", "endCursor", "hasNextPage"]

/-- True if a text starts with `$after`, white space and a colon. -/
def startsWithAfter (cs : List Char) : Bool :=
  let name := "$after".toList
  name.isPrefixOf cs && (Text.trimStart (cs.drop name.length)).head? == some ':'

def declaresAfter : List Char → Bool
  | [] => false
  | c :: rest => startsWithAfter (c :: rest) || declaresAfter rest

/-- What cursor pagination needs from a document without comments and strings. -/
def checkPagination (stripped : List Char) : Except Problem Unit :=
  if !declaresAfter stripped then .error .noAfterVariable
  else
    match pageInfoFields.find? fun name => !Text.hasWord name stripped with
    | some name => .error (.notSelected name)
    | none => .ok ()

/-- Checks a document, with the demands of cursor pagination if `cursor` is set. -/
def inspect (query : List Char) (cursor : Bool) : Except Problem Unit := do
  let stripped := strip .code query
  if !stripped.contains '{' then throw .noSelection
  let top ← topLevel 0 0 stripped
  match Text.findWord forbiddenKeywords false top with
  | some keyword => throw (.notAQuery keyword)
  | none => if cursor then checkPagination stripped else return

def check (query : String) (cursor : Bool) : Except Error Unit :=
  (inspect query.toList cursor).mapError fun p => .invalidValue "graphql_query" p.message

end PageHarvest.Query
