import PageHarvest.Yaml.Place
import PageHarvest.Yaml.Plain

/-!
Scalars: plain, in single or double quotes, and as blocks. Lines are folded: a
single line break becomes a space, and of several the first is dropped.
-/

namespace PageHarvest.Yaml

/-- What stands for line breaks between two parts of a folded text. -/
def foldBreaks : Nat → List Char
  | 0 => []
  | 1 => [' ']
  | n + 2 => List.replicate (n + 1) '\n'

structure Scalar where
  text : String
  plain : Bool
deriving DecidableEq, Repr

/-- The value of a scalar; none if it is a number that is too big. -/
def Scalar.value? (s : Scalar) : Option Json :=
  if s.plain then plainValue? s.text else some (.string s.text)

/-- Goes past blanks and line breaks and counts the breaks. After a break no tab
may stand where indentation is expected. -/
def passBreaks (indent : Nat) : Nat → Nat → Place → Option (Nat × Place)
  | 0, breaks, p => some (breaks, p)
  | fuel + 1, breaks, p =>
      match p.rest with
      | ' ' :: _ => passBreaks indent fuel breaks p.advance
      | '\t' :: _ =>
          if breaks != 0 && p.column < indent then none
          else passBreaks indent fuel breaks p.advance
      | '\n' :: _ => passBreaks indent fuel (breaks + 1) p.advance
      | _ => some (breaks, p)

def isFlowMark (c : Char) : Bool := ",[]{}".toList.contains c

/-- The characters that begin something else than a plain scalar. -/
def isIndicator (c : Char) : Bool := "-?:,[]{}#&*!|>'\"%@`".toList.contains c

def startsPlain (flow : Bool) : List Char → Bool
  | [] => false
  | c :: rest =>
      !startsGap (c :: rest) &&
        (!isIndicator c || (c == '-' && !startsGap rest) ||
          (!flow && (c == '?' || c == ':') && !startsGap rest))

/-- The length of the word at the start of a plain scalar. A colon ends it before
a gap; in a flow collection it must not stand before a mark. -/
def wordLength? (flow : Bool) : List Char → Option Nat
  | [] => some 0
  | c :: rest =>
      if isBlank c || c == '\n' then some 0
      else if c == ':' && startsGap rest then some 0
      else if flow && c == ':' && rest.head?.any (fun d => isFlowMark d || d == '?') then none
      else if flow && isFlowMark c then some 0
      else (wordLength? flow rest).map (· + 1)

def readWords (flow : Bool) (indent : Nat) :
    Nat → List Char → List Char → Place → Option (List Char × Place)
  | 0, text, _, p => some (text, p)
  | fuel + 1, text, gap, p =>
      if p.atEnd || p.rest.head? == some '#' then some (text, p)
      else do
        let n ← wordLength? flow p.rest
        if n = 0 then return (text, p)
        let text := text ++ gap ++ p.rest.take n
        let p := p.advanceBy n
        let blanks := p.rest.takeWhile isBlank
        let (breaks, q) ← passBreaks indent (p.rest.length + 1) 0 p
        if q.rest.length = p.rest.length then return (text, p)
        if breaks != 0 && !flow && q.column < indent then return (text, q)
        readWords flow indent fuel text (if breaks = 0 then blanks else foldBreaks breaks) q

def readPlain (flow : Bool) (indent : Nat) (p : Place) : Option (Scalar × Place) := do
  if !startsPlain flow p.rest then none
  else
    let (text, after) ← readWords flow indent (p.rest.length + 1) [] [] p
    return (⟨String.ofList text, true⟩, after)

/-- The blanks before a line break are dropped, and the breaks folded. -/
def readQuotedGap (p : Place) : Option (List Char × Place) := do
  let blanks := p.rest.takeWhile isBlank
  let (breaks, q) ← passBreaks 0 (p.rest.length + 1) 0 p
  return (if breaks = 0 then blanks else foldBreaks breaks, q)

/-- Reads the rest of a text in single quotes, in which a quote is written twice. -/
def readSingle : Nat → List Char → Place → Option (List Char × Place)
  | 0, _, _ => none
  | fuel + 1, text, p =>
      if p.atEnd then none
      else
        match p.rest with
        | '\'' :: '\'' :: _ => readSingle fuel (text ++ ['\'']) (p.advanceBy 2)
        | '\'' :: _ => some (text, p.advance)
        | c :: rest =>
            if startsGap (c :: rest) then do
              let (gap, q) ← readQuotedGap p
              readSingle fuel (text ++ gap) q
            else readSingle fuel (text ++ [c]) p.advance
        | [] => none

def escapes : List (Char × Nat) :=
  [('0', 0), ('a', 7), ('b', 8), ('t', 9), ('\t', 9), ('n', 10), ('v', 11), ('f', 12), ('r', 13),
    ('e', 27), (' ', 32), ('"', 34), ('/', 47), ('\\', 92), ('N', 0x85), ('_', 0xA0),
    ('L', 0x2028), ('P', 0x2029)]

def escapeDigits : List (Char × Nat) := [('x', 2), ('u', 4), ('U', 8)]

def charOfCode? (code : Nat) : Option Char :=
  if code.isValidChar then some (Char.ofNat code) else none

/-- The character that the text after a backslash stands for, and the length of
that text. -/
def readEscape? : List Char → Option (Char × Nat)
  | [] => none
  | c :: rest =>
      match escapes.lookup c, escapeDigits.lookup c with
      | some code, _ => some (Char.ofNat code, 1)
      | none, some n =>
          if rest.length < n then none
          else do
            let code ← radixValue? 16 (rest.take n)
            return (← charOfCode? code, n + 1)
      | none, none => none

/-- Reads the rest of a text in double quotes. A backslash at the end of a line
joins it to the next one. -/
def readDouble : Nat → List Char → Place → Option (List Char × Place)
  | 0, _, _ => none
  | fuel + 1, text, p =>
      if p.atEnd then none
      else
        match p.rest with
        | '"' :: _ => some (text, p.advance)
        | '\\' :: '\n' :: _ => do
            let p := p.advanceBy 2
            let (breaks, q) ← passBreaks 0 (p.rest.length + 1) 0 p
            readDouble fuel (text ++ List.replicate breaks '\n') q
        | '\\' :: rest => do
            let (c, n) ← readEscape? rest
            readDouble fuel (text ++ [c]) (p.advanceBy (n + 1))
        | c :: rest =>
            if startsGap (c :: rest) then do
              let (gap, q) ← readQuotedGap p
              readDouble fuel (text ++ gap) q
            else readDouble fuel (text ++ [c]) p.advance
        | [] => none

def readScalar (flow : Bool) (indent : Nat) (p : Place) : Option (Scalar × Place) :=
  let quoted (read : Option (List Char × Place)) :=
    read.map fun (text, after) => (⟨String.ofList text, false⟩, after)
  match p.rest with
  | '\'' :: _ => quoted (readSingle (p.rest.length + 1) [] p.advance)
  | '"' :: _ => quoted (readDouble (p.rest.length + 1) [] p.advance)
  | _ => readPlain flow indent p

/-- What becomes of the line breaks at the end of a block. -/
inductive Chomping where
  /-- None is kept. -/
  | strip
  /-- The first is kept. -/
  | clip
  /-- All are kept. -/
  | keep
deriving DecidableEq, Repr

structure BlockHead where
  chomping : Chomping := .clip
  increment : Option Nat := none
deriving DecidableEq, Repr

def readBlockHead : List Char → Option (BlockHead × Nat)
  | cs =>
      let chomping? (c : Char) : Option Chomping :=
        if c == '+' then some .keep else if c == '-' then some .strip else none
      let digit? (c : Char) : Option Nat :=
        if c.isDigit then some (c.toNat - '0'.toNat) else none
      match (cs[0]?).bind chomping?, (cs[0]?).bind digit? with
      | some chomping, _ =>
          match (cs[1]?).bind digit? with
          | some 0 => none
          | some n => some (⟨chomping, some n⟩, 2)
          | none => some (⟨chomping, none⟩, 1)
      | none, some 0 => none
      | none, some n =>
          match (cs[1]?).bind chomping? with
          | some chomping => some (⟨chomping, some n⟩, 2)
          | none => some (⟨.clip, some n⟩, 1)
      | none, none => some ({}, 0)

/-- Goes past empty lines and the indentation of the next line, and counts the
lines. Without an indentation, all spaces count as such, and the widest is
noted. -/
def passEmptyLines (indent : Option Nat) : Nat → Nat → Nat → Place → Option (Nat × Nat × Place)
  | 0, lines, widest, p => some (lines, widest, p)
  | fuel + 1, lines, widest, p =>
      let spaces := (p.rest.takeWhile (· == ' ')).length
      let p := p.advanceBy (indent.elim spaces fun n => min spaces (n - p.column))
      let widest := max widest p.column
      let inside := indent.all fun n => p.column < n
      match p.rest with
      | '\t' :: _ => if inside then none else some (lines, widest, p)
      | '\n' :: _ => passEmptyLines indent fuel (lines + 1) widest p.advance
      | _ => some (lines, widest, p)

structure BlockText where
  text : List Char := []
  /-- Whether a line break follows the text. -/
  lineBreak : Bool := false
  /-- The empty lines after that. -/
  emptyLines : Nat := 0
  /-- Whether the last line begins with a blank; such a line is not folded. -/
  blankLine : Bool := false

def BlockText.addLine (b : BlockText) (folded : Bool) (line : List Char) (ended : Bool) :
    BlockText :=
  let blank := line.head?.any isBlank
  let join :=
    if !b.lineBreak then []
    else if folded && !b.blankLine && !blank then (if b.emptyLines = 0 then [' '] else [])
    else ['\n']
  ⟨b.text ++ join ++ List.replicate b.emptyLines '\n' ++ line, ended, 0, blank⟩

def BlockText.finish (b : BlockText) (chomping : Chomping) : List Char :=
  let one := if b.lineBreak then ['\n'] else []
  match chomping with
  | .strip => b.text
  | .clip => b.text ++ one
  | .keep => b.text ++ one ++ List.replicate b.emptyLines '\n'

def readBlockLines (folded : Bool) (indent : Nat) :
    Nat → BlockText → Place → Option (BlockText × Place)
  | 0, b, p => some (b, p)
  | fuel + 1, b, p =>
      if p.column != indent || p.rest.isEmpty then some (b, p)
      else do
        let line := p.rest.takeWhile (· != '\n')
        let p := p.advanceBy line.length
        let b := b.addLine folded line (!p.rest.isEmpty)
        let p := p.advance
        let (empty, _, p) ← passEmptyLines (some indent) (p.rest.length + 1) 0 0 p
        readBlockLines folded indent fuel { b with emptyLines := empty } p

/-- Reads a block scalar in a collection whose parts are indented at least so
far. -/
def readBlock (indent : Nat) (p : Place) : Option (Scalar × Place) := do
  let folded := p.rest.head? == some '>'
  let p := p.advance
  let (head, n) ← readBlockHead p.rest
  let p := (p.advanceBy n).skip isBlank
  let p := if p.rest.head? == some '#' then p.skip (· != '\n') else p
  if !p.rest.isEmpty && p.rest.head? != some '\n' then none
  else
    let p := p.advance
    let given := head.increment.map fun n => indent - 1 + n
    let (empty, widest, p) ← passEmptyLines given (p.rest.length + 1) 0 0 p
    let indent := given.getD (max (max widest indent) 1)
    let (b, p) ← readBlockLines folded indent (p.rest.length + 1) { emptyLines := empty } p
    return (⟨String.ofList (b.finish head.chomping), false⟩, p)

end PageHarvest.Yaml
