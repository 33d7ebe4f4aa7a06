import PageHarvest.Http.Answer
import PageHarvest.Http.Request
import PageHarvest.Text.Split

/-!
Requests and answers as bytes on a connection that serves one of each. The body
of an answer has an announced length, comes in chunks, or goes on to the end of
the connection.
-/

namespace PageHarvest.Http

/-- The part of an address that is asked for: its path and query. -/
def requestTarget (url : Url) : String :=
  (if url.path.isEmpty then "/" else url.path) ++ url.query.elim "" fun q => "?" ++ q

/-- The server that an address names, with its port if that is not the usual one. -/
def hostHeader (url : Url) : String :=
  url.authority.elim "" fun a => a.host ++ a.port.elim "" fun p => ":" ++ toString p

/-- The headers of a request, those first that every request has. -/
def headerLines (userAgent : String) (r : Request) (body : List UInt8) : List (String × String) :=
  [("host", hostHeader r.url), ("user-agent", userAgent), ("accept", "*/*"),
    ("connection", "close")] ++
    r.headerLines.map (fun h => (h.1, h.2.text)) ++
    if r.body.isSome then [("content-length", toString body.length)] else []

def requestBytes (userAgent : String) (r : Request) : List UInt8 :=
  let body := r.body.elim [] fun v => Text.utf8Bytes v.compact.toList
  let first := r.method.verb ++ " " ++ requestTarget r.fullUrl ++ " HTTP/1.1\r\n"
  let headers := (headerLines userAgent r body).map fun h => h.1 ++ ": " ++ h.2 ++ "\r\n"
  Text.utf8Bytes (first ++ String.join headers ++ "\r\n").toList ++ body

def splitHead : List UInt8 → Option (List UInt8 × List UInt8)
  | 13 :: 10 :: 13 :: 10 :: rest => some ([], rest)
  | b :: rest => (splitHead rest).map fun (head, body) => (b :: head, body)
  | [] => none

/-- The lines of a head, each byte as a character. -/
def headLines (head : List UInt8) : List (List Char) :=
  (Text.split '\n' (head.map fun b => Char.ofNat b.toNat)).map fun line =>
    if line.getLast? = some '\r' then line.dropLast else line

def statusOf? (line : List Char) : Option Nat :=
  match Text.split ' ' line with
  | version :: status :: _ =>
      if "HTTP/1.".toList.isPrefixOf version then Text.numeral? status else none
  | _ => none

def readHeader? (line : List Char) : Option (String × String) :=
  match line.dropWhile (· != ':') with
  | ':' :: value =>
      let name := (line.takeWhile (· != ':')).map Char.toLower
      some (String.ofList name, String.ofList (Text.trimChars value))
  | _ => none

def hexNumeral? (cs : List Char) : Option Nat :=
  if cs.isEmpty then none
  else cs.foldlM (fun n c => (Json.hexValue? c).map (16 * n + ·)) 0

def splitLine : List UInt8 → Option (List UInt8 × List UInt8)
  | 13 :: 10 :: rest => some ([], rest)
  | b :: rest => (splitLine rest).map fun (line, after) => (b :: line, after)
  | [] => none

/-- A body from its chunks, and whether the last one is there. -/
def joinChunks : Nat → List UInt8 → List UInt8 × Bool
  | 0, _ => ([], false)
  | fuel + 1, bytes =>
      match splitLine bytes with
      | none => ([], false)
      | some (line, rest) =>
          let size := (line.map fun b => Char.ofNat b.toNat).takeWhile (· != ';')
          match hexNumeral? (Text.trimChars size) with
          | none => ([], false)
          | some 0 => ([], true)
          | some n =>
              if rest.length < n + 2 then (rest.take n, false)
              else
                let (body, isWhole) := joinChunks fuel (rest.drop (n + 2))
                (rest.take n ++ body, isWhole)

/-- The body of an answer with these headers, and whether it is whole. -/
def readBody (headers : List (String × String)) (bytes : List UInt8) : List UInt8 × Bool :=
  let chunked := (headers.lookup "transfer-encoding").any fun v => v.toLower == "chunked"
  if chunked then joinChunks (bytes.length + 1) bytes
  else
    match (headers.lookup "content-length").bind fun v => Text.numeral? v.toList with
    | some n => (bytes.take n, n ≤ bytes.length)
    | none => (bytes, true)

/-- The answer that the bytes of a connection are, if there is one. -/
def Answer.ofBytes? (bytes : List UInt8) : Option Answer := do
  let (head, rest) ← splitHead bytes
  match headLines head with
  | [] => none
  | first :: more =>
      let status ← statusOf? first
      let headers := more.filterMap readHeader?
      let (body, isWhole) := readBody headers rest
      return ⟨status, headers, body, isWhole⟩

def Outcome.ofBytes (bytes : List UInt8) : Outcome :=
  match Answer.ofBytes? bytes with
  | some answer => .answered answer
  | none => .broken

end PageHarvest.Http
