import PageHarvest.Error
import PageHarvest.Json.Document
import PageHarvest.Retry
import PageHarvest.Text.Blank
import PageHarvest.Text.Boundary
import PageHarvest.Text.Decimal
import PageHarvest.Text.Utf8

/-!
What comes of one HTTP request, and how it is judged. Only a whole body of a
successful answer is read; everything else is an error that says whether the
request may be sent again.
-/

namespace PageHarvest.Http

structure Answer where
  status : Nat
  /-- Names in lower case and values, in the order in which they came. -/
  headers : List (String × String) := []
  body : List UInt8 := []
  /-- Whether the body has the announced length. -/
  isWhole : Bool := true
deriving DecidableEq, Repr

inductive Outcome where
  /-- No connection could be made. -/
  | refused
  /-- There was no answer in time. -/
  | silent
  /-- The connection ended before there was an answer. -/
  | broken
  | answered (answer : Answer)
deriving DecidableEq, Repr

instance : Inhabited Outcome := ⟨.refused⟩

def tooManyRequests : Nat := 429

/-- The longest text of an error body that is kept, in bytes. -/
def errorLimit : Nat := 2048

namespace Answer

/-- The first value of a header. -/
def header? (a : Answer) (name : String) : Option String := a.headers.lookup name

def isSuccess (a : Answer) : Bool := 200 ≤ a.status && a.status ≤ 299

/-- The seconds after which to try again, if the server names a number that fits
in 64 bits; a date or anything else counts as none. -/
def retryAfter (a : Answer) : Nat :=
  let value := (a.header? "retry-after").filter fun v =>
    v.toList.all fun c => c == '\t' || (0x20 ≤ c.toNat && c.toNat < 0x7F)
  (value.bind fun v => Text.natOfBits? 64 (Text.trimChars v.toList)).getD 0

def bodyText (a : Answer) : String := String.ofList (Text.utf8CharsLenient a.body)

/-- The text of an error body, cut to its limit. A body that is cut short has
none. -/
def errorText (a : Answer) : String :=
  if a.isWhole then Text.truncate a.bodyText errorLimit else ""

def value? (a : Answer) : Option Json := do
  Json.parse? (String.ofList (← Text.utf8Chars? a.body))

def judge (a : Answer) : Except Error Json :=
  if a.status = tooManyRequests then .error (.rateLimited a.retryAfter)
  else if !a.isSuccess then .error (.httpStatus a.status a.errorText)
  else if !a.isWhole then .error (.http .body)
  else
    match a.value? with
    | some v => .ok v
    | none => .error (.decode "response is not valid JSON")

end Answer

/-- The body of the answer to a request to an address, given up after a
time, or what is wrong. -/
def Outcome.judge (url : String) (timeout : Duration) : Outcome → Except Error Json
  | .refused => .error (.http (.connect url))
  | .silent => .error (.timeout timeout.millis)
  | .broken => .error (.http .body)
  | .answered a => a.judge

end PageHarvest.Http
