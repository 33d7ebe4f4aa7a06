/-!
Places in a YAML text. Indentation is structure in YAML, so a place knows its
column, and whether only blanks stand before it on its line.
-/

namespace PageHarvest.Yaml

/-- A place in a text: what follows, and where it stands. -/
structure Place where
  rest : List Char
  column : Nat := 0
  line : Nat := 0
  /-- Whether only spaces stand before this place on its line. -/
  fresh : Bool := true
deriving DecidableEq, Repr

def isBlank (c : Char) : Bool := c == ' ' || c == '\t'

/-- Whether a blank, a line break or the end of the text comes first. -/
def startsGap : List Char → Bool
  | [] => true
  | c :: _ => isBlank c || c == '\n'

namespace Place

def advance (p : Place) : Place :=
  match p.rest with
  | [] => p
  | '\n' :: rest => ⟨rest, 0, p.line + 1, true⟩
  | ' ' :: rest => { p with rest, column := p.column + 1 }
  | _ :: rest => ⟨rest, p.column + 1, p.line, false⟩

def advanceBy (p : Place) : Nat → Place
  | 0 => p
  | n + 1 => p.advance.advanceBy n

def skip (p : Place) (test : Char → Bool) : Place :=
  p.advanceBy (p.rest.takeWhile test).length

/-- Whether a line of this kind, three equal characters, begins here. -/
def isMarker (p : Place) (c : Char) : Bool :=
  p.column == 0 && p.rest.take 3 == [c, c, c] && startsGap (p.rest.drop 3)

def atEnd (p : Place) : Bool := p.rest.isEmpty || p.isMarker '-' || p.isMarker '.'

def isDash (p : Place) : Bool :=
  match p.rest with
  | '-' :: rest => startsGap rest
  | _ => false

/-- Goes past blanks, comments and line breaks. Tabs are blanks only where they
cannot be taken for indentation, which is never so at the start of a line. -/
def passGap (flow : Bool) : Nat → Bool → Place → Place
  | 0, _, p => p
  | n + 1, tabs, p =>
      let p := p.skip fun c => c == ' ' || (tabs && c == '\t')
      match p.rest with
      | '#' :: _ => passGap flow n tabs (p.skip (· != '\n'))
      | '\n' :: _ => passGap flow n flow p.advance
      | _ => p

def token (p : Place) (tabs : Bool) : Place := passGap false (2 * p.rest.length + 1) tabs p

/-- The next token of a flow collection, which a document marker must not cut
short. -/
def flowToken (p : Place) : Option Place :=
  let q := passGap true (2 * p.rest.length + 1) true p
  if q.atEnd then none else some q

/-- Whether a token is the first one on its line, or the document is over. -/
def startsLine (p : Place) : Bool := p.fresh || p.atEnd

end Place

end PageHarvest.Yaml
