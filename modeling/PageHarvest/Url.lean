import PageHarvest.Url.Host

/-!
Web addresses. A text is read into its parts, each in canonical form: scheme and
domain in lower case, the port left out if it is the usual one, the path without
`.` and `..`, and every part percent-encoded where it must be. Parameters can be
added to the query without touching the other parts.
-/

namespace PageHarvest

structure Url.Authority where
  /-- User name and password as they are written before the at sign. -/
  userinfo : String
  host : String
  /-- The port, unless it is the usual one of the scheme. -/
  port : Option Nat
deriving DecidableEq, Repr

structure Url where
  scheme : String
  authority : Option Url.Authority
  path : String
  query : Option String
  fragment : Option String
deriving DecidableEq, Repr

namespace Url

instance : Inhabited Url := ⟨⟨"http", none, "/", none, none⟩⟩

def Authority.text (a : Authority) : String :=
  (if a.userinfo.isEmpty then "" else a.userinfo ++ "@") ++ a.host ++
    a.port.elim "" fun p => ":" ++ toString p

def origin (u : Url) : String :=
  u.scheme ++ ":" ++ u.authority.elim "" fun a => "//" ++ a.text

def text (u : Url) : String :=
  u.origin ++ u.path ++ (u.query.elim "" fun q => "?" ++ q) ++
    u.fragment.elim "" fun f => "#" ++ f

def defaultPort? (scheme : String) : Option Nat :=
  if scheme = "http" ∨ scheme = "ws" then some 80
  else if scheme = "https" ∨ scheme = "wss" then some 443
  else if scheme = "ftp" then some 21
  else none

/-- Schemes whose addresses have a host and a path of segments. -/
def isSpecial (scheme : String) : Bool := (defaultPort? scheme).isSome || scheme == "file"

def isControl (c : Char) : Bool := c.toNat < 0x20 || c.toNat == 0x7F

def encodedInFragment (c : Char) : Bool := isControl c || " \"<>`".toList.contains c

def encodedInPath (c : Char) : Bool := encodedInFragment c || ['#', '?', '{', '}'].contains c

def encodedInUserinfo (c : Char) : Bool := encodedInPath c || "/:;=@[\\]^|".toList.contains c

def encodedInQuery (special : Bool) (c : Char) : Bool :=
  isControl c || " \"#<>".toList.contains c || (special && c == '\'')

/-- A text without control characters and blanks at its ends and without tabs
and line ends inside. -/
def cleaned (cs : List Char) : List Char :=
  let blank (c : Char) : Bool := c.toNat ≤ 0x20
  let inner := ((cs.dropWhile blank).reverse.dropWhile blank).reverse
  inner.filter fun c => !(c == '\t' || c == '\n' || c == '\r')

/-- The scheme in lower case, and the text after its colon. -/
def splitScheme? (cs : List Char) : Option (String × List Char) :=
  let isSchemeChar (c : Char) : Bool := c.isAlphanum || c == '+' || c == '-' || c == '.'
  let scheme := cs.takeWhile isSchemeChar
  match scheme.head?, cs.dropWhile isSchemeChar with
  | some first, ':' :: rest =>
      if first.isAlpha then some (String.ofList (scheme.map Char.toLower), rest) else none
  | _, _ => none

def endsAuthority (special : Bool) (c : Char) : Bool :=
  c == '/' || c == '?' || c == '#' || (special && c == '\\')

/-- User name and password in their written form; a password that is empty is
left out together with its colon. -/
def userinfoText (cs : List Char) : List Char :=
  let name := cs.takeWhile (· != ':')
  let password := (cs.dropWhile (· != ':')).drop 1
  let encode := Text.percentEncode encodedInUserinfo
  encode name ++ if password.isEmpty then [] else ':' :: encode password

/-- The host at the start of a text, up to a colon outside brackets, and the
rest. -/
def splitHost (inBrackets : Bool) : List Char → List Char × List Char
  | [] => ([], [])
  | c :: rest =>
      if c = ':' ∧ inBrackets = false then ([], c :: rest)
      else
        let inside := if c = '[' then true else if c = ']' then false else inBrackets
        let (host, after) := splitHost inside rest
        (c :: host, after)

def readPort (special : Bool) (cs : List Char) : Except Problem (Option Nat) :=
  let ds := cs.takeWhile Char.isDigit
  let port := ds.foldl (fun n c => 10 * n + (c.toNat - '0'.toNat)) 0
  let after := cs.dropWhile Char.isDigit
  if 65535 < port then .error .invalidPort
  else if !after.isEmpty && (special || after.head? != some '\\') then .error .invalidPort
  else .ok (if ds.isEmpty then none else some port)

def readAuthority (scheme : String) (cs : List Char) : Except Problem Authority := do
  let special := isSpecial scheme
  let backwards := cs.reverse
  let hostAndPort := (backwards.takeWhile (· != '@')).reverse
  let userinfo := ((backwards.dropWhile (· != '@')).drop 1).reverse
  let (rawHost, afterHost) := splitHost false hostAndPort
  if special && rawHost.isEmpty then throw .emptyHost
  let host ← if special then hostText rawHost else opaqueHostText rawHost
  let user := userinfoText userinfo
  if host.isEmpty && (!afterHost.isEmpty || !user.isEmpty) then throw .emptyHost
  let port ← readPort special (afterHost.drop 1)
  return {
    userinfo := String.ofList user
    host := String.ofList host
    port := if port = defaultPort? scheme then none else port }

def isDot (segment : List Char) : Bool :=
  let s := segment.map Char.toLower
  s == ".".toList || s == "%2e".toList

def isDotDot (segment : List Char) : Bool :=
  let s := segment.map Char.toLower
  s == "..".toList || s == ".%2e".toList || s == "%2e.".toList || s == "%2e%2e".toList

/-- The segments of a path without `.` and `..`, in reverse. -/
def normalSegments (done : List (List Char)) : List (List Char) → List (List Char)
  | [] => done
  | segment :: rest =>
      if isDotDot segment then
        let above := done.drop 1
        normalSegments (if rest.isEmpty then [] :: above else above) rest
      else if isDot segment then normalSegments (if rest.isEmpty then [] :: done else done) rest
      else normalSegments (segment :: done) rest

/-- A path in its written form. It starts with a slash. -/
def pathText (special : Bool) (cs : List Char) : List Char :=
  let cs := if special then cs.map fun c => if c = '\\' then '/' else c else cs
  let cs := if cs.head? = some '/' then cs.drop 1 else cs
  let segments := (Text.split '/' cs).map (Text.percentEncode encodedInPath)
  (normalSegments [] segments).reverse.flatMap fun segment => '/' :: segment

def splitFragment (cs : List Char) : List Char × Option (List Char) :=
  match cs.dropWhile (· != '#') with
  | [] => (cs, none)
  | _ :: fragment => (cs.takeWhile (· != '#'), some fragment)

def splitQuery (cs : List Char) : List Char × Option (List Char) :=
  match cs.dropWhile (· != '?') with
  | [] => (cs, none)
  | _ :: query => (cs.takeWhile (· != '?'), some query)

def readParts (scheme : String) (cs : List Char) : Except Problem Url := do
  let special := isSpecial scheme
  let isSlash (c : Char) : Bool := c == '/' || (special && c == '\\')
  let (cs, fragment) := splitFragment cs
  let (cs, query) := splitQuery cs
  let slashes := (cs.takeWhile isSlash).length
  let authorityStart :=
    if scheme = "file" then if 2 ≤ slashes then some (cs.drop 2) else none
    else if special then some (cs.drop slashes)
    else if 2 ≤ slashes then some (cs.drop 2)
    else none
  let written (f : List Char → List Char) (part : Option (List Char)) : Option String :=
    part.map fun p => String.ofList (f p)
  let query := written (Text.percentEncode (encodedInQuery special)) query
  let fragment := written (Text.percentEncode encodedInFragment) fragment
  match authorityStart with
  | some start =>
      let name := start.takeWhile fun c => !endsAuthority special c
      let after := start.dropWhile fun c => !endsAuthority special c
      let authority ←
        if scheme = "file" then
          if name.isEmpty then pure ⟨"", "", none⟩
          else do
            let host ← hostText name
            pure ⟨"", String.ofList host, none⟩
        else readAuthority scheme name
      return ⟨scheme, some authority, String.ofList (pathText special after), query, fragment⟩
  | none =>
      let path :=
        if special || cs.head? = some '/' then pathText special cs
        else Text.percentEncode isControl cs
      return ⟨scheme, none, String.ofList path, query, fragment⟩

def parse (raw : String) : Except Problem Url :=
  match splitScheme? (cleaned raw.toList) with
  | none => .error .relative
  | some (scheme, rest) => readParts scheme rest

/-- Parameters as they follow a query; an ampersand goes before each but the
first of an empty query. -/
def appendPairs (query : List Char) : List (String × String) → List Char
  | [] => query
  | (name, value) :: rest =>
      let start := if query.isEmpty then [] else query ++ ['&']
      appendPairs (start ++ Text.formPair name value) rest

def withPairs (u : Url) (pairs : List (String × String)) : Url :=
  if pairs.isEmpty then u
  else { u with query := some (String.ofList (appendPairs (u.query.getD "").toList pairs)) }

end Url

end PageHarvest
