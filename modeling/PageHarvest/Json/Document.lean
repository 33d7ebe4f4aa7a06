import PageHarvest.Json.Numeral

/-!
JSON documents as they are written. Reading a text takes two steps: the grammar
gives a document, in which names may repeat, a string need not have a value and a
number is a numeral, and the document gives the value, or none if a string holds
half of a surrogate pair, a number is too big or the nesting is too deep.
-/

namespace PageHarvest.Json

/-- A text that follows the grammar of JSON. Members stand in the order in which
they are written. -/
inductive Document where
  | null
  | bool (value : Bool)
  | number (numeral : Numeral)
  /-- No value means that an escape stands for half of a surrogate pair. -/
  | string (value : Option String)
  | array (items : List Document)
  | object (members : List (Option String × Document))

instance : Inhabited Document := ⟨.null⟩

def isSpace (c : Char) : Bool := c = ' ' || c = '\t' || c = '\n' || c = '\r'

def skipSpace (s : List Char) : List Char := s.dropWhile isSpace

/-- A part of a string: a character, or one half of a surrogate pair. -/
inductive Piece where
  | char (c : Char)
  | surrogate (code : Nat)
deriving DecidableEq

def hexValue? (c : Char) : Option Nat :=
  if '0' ≤ c ∧ c ≤ '9' then some (c.toNat - '0'.toNat)
  else if 'a' ≤ c ∧ c ≤ 'f' then some (c.toNat - 'a'.toNat + 10)
  else if 'A' ≤ c ∧ c ≤ 'F' then some (c.toNat - 'A'.toNat + 10)
  else none

def hexQuad? (a b c d : Char) : Option Nat := do
  let a ← hexValue? a
  let b ← hexValue? b
  let c ← hexValue? c
  let d ← hexValue? d
  return ((a * 16 + b) * 16 + c) * 16 + d

/-- What a 16-bit code stands for. -/
def Piece.ofCode (code : Nat) : Piece :=
  if 0xD800 ≤ code ∧ code ≤ 0xDFFF then .surrogate code else .char (Char.ofNat code)

def shortEscape? (c : Char) : Option Char :=
  if c = '"' then some '"'
  else if c = '\\' then some '\\'
  else if c = '/' then some '/'
  else if c = 'b' then some '\x08'
  else if c = 'f' then some '\x0c'
  else if c = 'n' then some '\n'
  else if c = 'r' then some '\r'
  else if c = 't' then some '\t'
  else none

/-- The parts of a string up to its closing quote, and the text after it.
Control characters may not stand in a string unescaped. -/
def readPieces : List Char → Option (List Piece × List Char)
  | [] => none
  | c :: rest =>
      if c = '"' then some ([], rest)
      else if c = '\\' then
        match rest with
        | 'u' :: h₁ :: h₂ :: h₃ :: h₄ :: rest => do
            let code ← hexQuad? h₁ h₂ h₃ h₄
            let (pieces, rest) ← readPieces rest
            return (Piece.ofCode code :: pieces, rest)
        | e :: rest => do
            let c ← shortEscape? e
            let (pieces, rest) ← readPieces rest
            return (.char c :: pieces, rest)
        | [] => none
      else if c.toNat < 0x20 then none
      else do
        let (pieces, rest) ← readPieces rest
        return (.char c :: pieces, rest)

/-- The characters of a string; a high surrogate must be followed by a low one,
and the two stand for one character. -/
def joinPieces? : List Piece → Option (List Char)
  | [] => some []
  | .char c :: rest => (joinPieces? rest).map (c :: ·)
  | .surrogate high :: .surrogate low :: rest =>
      if high < 0xDC00 ∧ 0xDC00 ≤ low then
        (joinPieces? rest).map
          (Char.ofNat (0x10000 + (high - 0xD800) * 0x400 + (low - 0xDC00)) :: ·)
      else none
  | .surrogate _ :: _ => none

def readString (s : List Char) : Option (Option String × List Char) := do
  let (pieces, rest) ← readPieces s
  return ((joinPieces? pieces).map String.ofList, rest)

open Text (digitsValue spanDigits)

/-- A fraction, if the text starts with one; a point needs a digit after it. -/
def readFraction : List Char → Option (List Char × List Char)
  | '.' :: rest =>
      let (ds, rest) := spanDigits rest
      if ds.isEmpty then none else some (ds, rest)
  | s => some ([], s)

/-- An exponent, if the text starts with one; the letter needs a digit after it. -/
def readExponent : List Char → Option (Option Int × List Char)
  | c :: rest =>
      if c = 'e' ∨ c = 'E' then
        let (negative, rest) :=
          match rest with
          | '-' :: rest => (true, rest)
          | '+' :: rest => (false, rest)
          | rest => (false, rest)
        let (ds, rest) := spanDigits rest
        let value : Int := digitsValue ds
        if ds.isEmpty then none else some (some (if negative then -value else value), rest)
      else some (none, c :: rest)
  | [] => some (none, [])

/-- A number. Its whole part has no leading zero unless it is zero. -/
def readNumber (s : List Char) : Option (Numeral × List Char) := do
  let (negative, s) :=
    match s with
    | '-' :: rest => (true, rest)
    | s => (false, s)
  let (whole, s) := spanDigits s
  if whole.isEmpty || (whole.head? == some '0' && whole.length != 1) then none
  else
    let (fraction, s) ← readFraction s
    let (exponent, s) ← readExponent s
    return ({ negative, whole, fraction, exponent }, s)

mutual

def readValue (fuel : Nat) (s : List Char) : Option (Document × List Char) :=
  match fuel with
  | 0 => none
  | fuel + 1 =>
      match skipSpace s with
      | 'n' :: 'u' :: 'l' :: 'l' :: rest => some (.null, rest)
      | 't' :: 'r' :: 'u' :: 'e' :: rest => some (.bool true, rest)
      | 'f' :: 'a' :: 'l' :: 's' :: 'e' :: rest => some (.bool false, rest)
      | '"' :: rest => do
          let (text, rest) ← readString rest
          return (.string text, rest)
      | '[' :: rest =>
          match skipSpace rest with
          | ']' :: rest => some (.array [], rest)
          | _ => do
              let (items, rest) ← readItems fuel rest
              return (.array items, rest)
      | '{' :: rest =>
          match skipSpace rest with
          | '}' :: rest => some (.object [], rest)
          | _ => do
              let (members, rest) ← readMembers fuel rest
              return (.object members, rest)
      | rest => do
          let (n, rest) ← readNumber rest
          return (.number n, rest)

/-- The items of an array up to its closing bracket; at least one. -/
def readItems (fuel : Nat) (s : List Char) : Option (List Document × List Char) :=
  match fuel with
  | 0 => none
  | fuel + 1 => do
      let (item, s) ← readValue fuel s
      match skipSpace s with
      | ',' :: rest => do
          let (items, rest) ← readItems fuel rest
          return (item :: items, rest)
      | ']' :: rest => return ([item], rest)
      | _ => none

/-- The members of an object up to its closing brace; at least one. -/
def readMembers (fuel : Nat) (s : List Char) :
    Option (List (Option String × Document) × List Char) :=
  match fuel with
  | 0 => none
  | fuel + 1 =>
      match skipSpace s with
      | '"' :: rest => do
          let (name, rest) ← readString rest
          match skipSpace rest with
          | ':' :: rest => do
              let (value, rest) ← readValue fuel rest
              match skipSpace rest with
              | ',' :: rest => do
                  let (members, rest) ← readMembers fuel rest
                  return ((name, value) :: members, rest)
              | '}' :: rest => return ([(name, value)], rest)
              | _ => none
          | _ => none
      | _ => none

end

/-- The document that a text is, with nothing but blanks around it. The bound on
the nesting of calls is never reached: two calls read at least one character. -/
def Document.parse? (s : List Char) : Option Document := do
  let (document, rest) ← readValue (2 * s.length + 2) s
  if (skipSpace rest).isEmpty then some document else none

section Values

variable (real : Numeral → Option Binary64)

mutual

/-- The value of a document whose arrays and objects are nested at most `depth`
deep, with floating-point numbers as `real` finds them. Of members with one name the
last counts. -/
def Document.value? (depth : Nat) : Document → Option Json
  | .null => some .null
  | .bool b => some (.bool b)
  | .number n => (n.number? real).map .number
  | .string s => s.map .string
  | .array items =>
      match depth with
      | 0 => none
      | depth + 1 => (Document.values? depth items).map .array
  | .object members =>
      match depth with
      | 0 => none
      | depth + 1 => (Document.members? depth members).map ofMembers
termination_by structural d => d

def Document.values? (depth : Nat) : List Document → Option (List Json)
  | [] => some []
  | d :: rest => do
      let v ← Document.value? depth d
      let vs ← Document.values? depth rest
      return v :: vs
termination_by structural ds => ds

def Document.members? (depth : Nat) :
    List (Option String × Document) → Option (List (String × Json))
  | [] => some []
  | (name, d) :: rest => do
      let name ← name
      let v ← Document.value? depth d
      let vs ← Document.members? depth rest
      return (name, v) :: vs
termination_by structural ms => ms

end

def maxDepth : Nat := 127

def parseWith? (text : String) : Option Json := do
  let document ← Document.parse? text.toList
  document.value? real maxDepth

end Values

/-- The value that a text holds, if it is JSON. Floating-point numbers come out of
floating-point arithmetic, and need not be the nearest ones. -/
def parse? (text : String) : Option Json := parseWith? Numeral.scaled? text

end PageHarvest.Json
