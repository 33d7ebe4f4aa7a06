import PageHarvest.Yaml.Scalar

/-!
YAML documents: scalars and collections in block and in flow form, read as a
JSON value. Keys are scalars and stand for their text, whatever it looks like.
Anchors, tags and explicit keys are not read. A text holds at most one document,
and collections may be nested 128 times.
-/

namespace PageHarvest.Yaml

/-- Reads something at a place. The number is the least column of its further
lines, and the flag tells that only what fits on a line may stand here. -/
abbrev NodeReader := Nat → Bool → Place → Option (Json × Place)

/-- The place after the colon that makes a scalar a key. It stands on the line on
which the scalar begins. -/
def afterKey? (flow : Bool) (line : Nat) (p : Place) : Option Place :=
  let p := p.skip isBlank
  match p.rest with
  | ':' :: rest => if p.line = line && (flow || startsGap rest) then some p.advance else none
  | _ => none

/-- Reads the value after a key; none stands for null. -/
def readFlowValue (node : NodeReader) (indent : Nat) (p : Place) : Option (Json × Place) := do
  let p ← p.flowToken
  match p.rest with
  | ',' :: _ | ']' :: _ | '}' :: _ => return (.null, p)
  | _ => node indent true p

def startsFlow : List Char → Bool
  | '[' :: _ | '{' :: _ => true
  | _ => false

/-- Reads an item of a flow sequence. A single pair is a mapping. -/
def readFlowItem (node : NodeReader) (indent : Nat) (p : Place) : Option (Json × Place) :=
  if startsFlow p.rest then node indent true p
  else do
    let (scalar, after) ← readScalar true indent p
    match afterKey? true p.line after with
    | some q =>
        let (value, r) ← readFlowValue node indent q
        return (.object [(scalar.text, value)], r)
    | none => return (← scalar.value?, after)

def readFlowItems (node : NodeReader) (indent : Nat) :
    Nat → Place → Option (List Json × Place)
  | 0, _ => none
  | fuel + 1, p => do
      let p ← p.flowToken
      if p.rest.head? == some ']' then return ([], p.advance)
      let (item, p) ← readFlowItem node indent p
      let p ← p.flowToken
      match p.rest with
      | ',' :: _ =>
          let (items, p) ← readFlowItems node indent fuel p.advance
          return (item :: items, p)
      | ']' :: _ => return ([item], p.advance)
      | _ => none

def readFlowEntry (node : NodeReader) (indent : Nat) (p : Place) :
    Option ((String × Json) × Place) := do
  let (scalar, after) ← readScalar true indent p
  match afterKey? true p.line after with
  | some q =>
      let (value, r) ← readFlowValue node indent q
      return ((scalar.text, value), r)
  | none => return ((scalar.text, .null), after)

def readFlowEntries (node : NodeReader) (indent : Nat) :
    Nat → Place → Option (List (String × Json) × Place)
  | 0, _ => none
  | fuel + 1, p => do
      let p ← p.flowToken
      if p.rest.head? == some '}' then return ([], p.advance)
      let (entry, p) ← readFlowEntry node indent p
      let p ← p.flowToken
      match p.rest with
      | ',' :: _ =>
          let (entries, p) ← readFlowEntries node indent fuel p.advance
          return (entry :: entries, p)
      | '}' :: _ => return ([entry], p.advance)
      | _ => none

def flowNode : Nat → NodeReader
  | depth, indent, _, p =>
      match p.rest, depth with
      | '[' :: _, depth + 1 => do
          let (items, q) ← readFlowItems (flowNode depth) indent (p.rest.length + 1) p.advance
          return (.array items, q)
      | '{' :: _, depth + 1 => do
          let (entries, q) ← readFlowEntries (flowNode depth) indent (p.rest.length + 1) p.advance
          return (Json.ofMembers entries, q)
      | _, _ => do
          let (scalar, q) ← readScalar true indent p
          return (← scalar.value?, q)

/-- Reads the items of a block sequence in a column. An item without content is
null. -/
def readItems (node : NodeReader) (column : Nat) : Nat → Place → Option (List Json × Place)
  | 0, _ => none
  | fuel + 1, p => do
      let q := p.advance.token false
      let (item, q) ←
        if q.atEnd || (q.fresh && q.column ≤ column) then some (.null, q)
        else node (column + 1) false q
      let q := q.token (!q.fresh)
      if !q.startsLine then none
      else if !q.atEnd && q.column == column && q.isDash then
        let (items, q) ← readItems node column fuel q
        return (item :: items, q)
      else return ([item], q)

def readKey (indent : Nat) (p : Place) : Option (String × Place) := do
  let (scalar, after) ← readScalar false indent p
  return (scalar.text, ← afterKey? false p.line after)

/-- Reads the value after a key. A sequence may stand in the column of the key. -/
def readValue (node : NodeReader) (column : Nat) (p : Place) : Option (Json × Place) :=
  let q := p.token true
  if q.atEnd then some (.null, q)
  else if !q.fresh then node (column + 1) true q
  else if column < q.column || (q.column == column && q.isDash) then node (column + 1) false q
  else some (.null, q)

/-- Reads the entries of a block mapping in a column, the first of which has
this key. -/
def readEntries (node : NodeReader) (column : Nat) :
    Nat → String → Place → Option (List (String × Json) × Place)
  | 0, _, _ => none
  | fuel + 1, key, p => do
      let (value, q) ← readValue node column p
      let q := q.token (!q.fresh)
      if !q.startsLine then none
      else if q.atEnd || q.column < column then return ([(key, value)], q)
      else if q.column == column then
        let (next, q) ← readKey (column + 1) q
        let (entries, q) ← readEntries node column fuel next q
        return ((key, value) :: entries, q)
      else none

def blockNode : Nat → NodeReader
  | depth, indent, inline, p =>
      if p.isDash then
        match inline, depth with
        | false, depth + 1 => do
            let (items, q) ← readItems (blockNode depth) p.column (p.rest.length + 1) p
            return (.array items, q)
        | _, _ => none
      else if p.rest.head? == some '|' || p.rest.head? == some '>' then do
        let (scalar, q) ← readBlock indent p
        return (.string scalar.text, q)
      else if startsFlow p.rest then flowNode depth indent true p
      else do
        let (scalar, q) ← readScalar false indent p
        match afterKey? false p.line q, inline, depth with
        | none, _, _ => return (← scalar.value?, q)
        | some q, false, depth + 1 =>
            let (entries, q) ←
              readEntries (blockNode depth) p.column (p.rest.length + 1) scalar.text q
            return (Json.ofMembers entries, q)
        | some _, _, _ => none

def maxDepth : Nat := 128

def isAllowed (c : Char) : Bool :=
  let n := c.toNat
  c == '\t' || c == '\n' || c == '\r' || (0x20 ≤ n && n != 0x7F && n < 0x80) || n == 0x85 ||
    (0xA0 ≤ n && n != 0xFEFF && n != 0xFFFE && n != 0xFFFF)

/-- A text in which every line break is a line feed. -/
def normalizeBreaks : List Char → List Char
  | [] => []
  | '\r' :: '\n' :: rest => '\n' :: normalizeBreaks rest
  | '\r' :: rest => '\n' :: normalizeBreaks rest
  | '\u0085' :: rest => '\n' :: normalizeBreaks rest
  | c :: rest => c :: normalizeBreaks rest

def dropMark : List Char → List Char
  | '\uFEFF' :: rest => rest
  | cs => cs

def isOver : Nat → Place → Bool
  | 0, p => p.rest.isEmpty
  | fuel + 1, p =>
      let p := p.token (!p.fresh)
      p.rest.isEmpty || (p.isMarker '.' && p.startsLine && isOver fuel (p.advanceBy 3))

/-- The value of the document that a text holds; null if it is empty. -/
def parse? (text : String) : Option Json := do
  let cs := dropMark text.toList
  if !cs.all isAllowed then none
  else
    let start := (Place.mk (normalizeBreaks cs) 0 0 true).token false
    let p := if start.isMarker '-' then (start.advanceBy 3).token true else start
    let (value, q) ← if p.atEnd then some (.null, p) else blockNode maxDepth 0 (!p.fresh) p
    let q := q.token (!q.fresh)
    if q.startsLine && isOver (cs.length + 1) q then some value else none

end PageHarvest.Yaml
