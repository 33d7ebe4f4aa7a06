/-!
A query document without its comments and string literals. A comment vanishes
up to the end of its line, and each literal leaves one blank, so that what they
say is never taken for a part of the query.
-/

namespace PageHarvest.Query

inductive Region where
  | code
  | comment
  | string
  | block
deriving DecidableEq, Repr

/-- The text that remains when the scan stands in a region. A string ends at a
quote or at the end of its line, and a backslash in it takes the next character
along. A block string ends at three quotes. -/
def strip : Region → List Char → List Char
  | .code, [] => []
  | .code, '#' :: rest => strip .comment rest
  | .code, '"' :: '"' :: '"' :: rest => strip .block rest
  | .code, '"' :: rest => strip .string rest
  | .code, c :: rest => c :: strip .code rest
  | .comment, [] => []
  | .comment, '\n' :: rest => '\n' :: strip .code rest
  | .comment, _ :: rest => strip .comment rest
  | .string, [] => [' ']
  | .string, '"' :: rest => ' ' :: strip .code rest
  | .string, '\n' :: rest => ' ' :: strip .code rest
  | .string, '\\' :: _ :: rest => strip .string rest
  | .string, _ :: rest => strip .string rest
  | .block, [] => [' ']
  | .block, '"' :: '"' :: '"' :: rest => ' ' :: strip .code rest
  | .block, _ :: rest => strip .block rest

end PageHarvest.Query
