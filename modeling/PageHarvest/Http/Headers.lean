import PageHarvest.Error
import PageHarvest.Table

/-!
Headers of a request. Names are the same whatever their case and each has one
value. A value may hold every character except control characters, among which
the tab is allowed.
-/

namespace PageHarvest

/-- The value of a header, and whether it must be kept out of sight. -/
structure HeaderValue where
  text : String
  sensitive : Bool := false
deriving DecidableEq, Repr

/-- Header values by name in lower case. -/
abbrev Headers := Table String HeaderValue

def isHeaderNameChar (c : Char) : Bool :=
  c.isAlphanum || "!#$%&'*+-.^_`|~".toList.contains c

/-- A header name in lower case, unless the text is none. -/
def headerName? (raw : String) : Option String :=
  let cs := raw.toList
  if !cs.isEmpty && cs.length < 65536 && cs.all isHeaderNameChar then
    some (String.ofList (cs.map Char.toLower))
  else none

def isHeaderValueChar (c : Char) : Bool :=
  c == '\t' || (0x20 ≤ c.toNat && c.toNat != 0x7F)

def isHeaderText (s : String) : Bool := s.toList.all isHeaderValueChar

/-- Sets a header under a name and with a value given by the user. -/
def Headers.set (headers : Headers) (name value : String) : Except Error Headers :=
  match headerName? name with
  | none => .error (.invalidHeader name "invalid HTTP header name")
  | some lower =>
      if isHeaderText value then .ok (headers.insert lower ⟨value, false⟩)
      else .error (.invalidHeader name "failed to parse header value")

end PageHarvest
