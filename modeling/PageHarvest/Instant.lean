import PageHarvest.Text.Blank
import PageHarvest.Text.Decimal

/-!
Points in time, to the nanosecond, as a date and a time of day in UTC. They are
written in the form of RFC 3339 with as many groups of three fraction digits as
are needed. Reading is lenient about blanks and takes any offset from UTC.
-/

namespace PageHarvest

def isLeapYear (year : Int) : Bool := year % 4 == 0 && (year % 100 != 0 || year % 400 == 0)

def daysInMonth (year : Int) (month : Nat) : Nat :=
  if month = 2 then if isLeapYear year then 29 else 28
  else if month = 4 ∨ month = 6 ∨ month = 9 ∨ month = 11 then 30
  else 31

structure Date where
  year : Int
  month : Nat
  day : Nat
deriving DecidableEq, Repr

namespace Date

def isValid (d : Date) : Bool :=
  -262143 ≤ d.year && d.year ≤ 262142 && 1 ≤ d.month && d.month ≤ 12 && 1 ≤ d.day &&
    d.day ≤ daysInMonth d.year d.month

def next (d : Date) : Date :=
  if d.day < daysInMonth d.year d.month then { d with day := d.day + 1 }
  else if d.month < 12 then { d with month := d.month + 1, day := 1 }
  else ⟨d.year + 1, 1, 1⟩

def previous (d : Date) : Date :=
  if 1 < d.day then { d with day := d.day - 1 }
  else if 1 < d.month then ⟨d.year, d.month - 1, daysInMonth d.year (d.month - 1)⟩
  else ⟨d.year - 1, 12, 31⟩

/-- The day that many days after the first of January 1970. -/
def ofDayNumber (n : Nat) : Date :=
  let shifted := n + 719468
  let era := shifted / 146097
  let dayOfEra := shifted % 146097
  let yearOfEra :=
    (dayOfEra - dayOfEra / 1460 + dayOfEra / 36524 - dayOfEra / 146096) / 365
  let dayOfYear := dayOfEra - (365 * yearOfEra + yearOfEra / 4 - yearOfEra / 100)
  let monthFromMarch := (5 * dayOfYear + 2) / 153
  let day := dayOfYear - (153 * monthFromMarch + 2) / 5 + 1
  let month := if monthFromMarch < 10 then monthFromMarch + 3 else monthFromMarch - 9
  ⟨yearOfEra + era * 400 + if month ≤ 2 then 1 else 0, month, day⟩

end Date

/-- A point in time. A leap second is the last second of its minute with a
billion or more nanoseconds. -/
structure Instant where
  date : Date
  /-- Seconds since midnight. -/
  second : Nat
  nano : Nat
deriving DecidableEq, Repr

namespace Instant

def isValid (t : Instant) : Bool :=
  t.date.isValid && t.second < 86400 && t.nano < 2000000000 &&
    (t.nano < 1000000000 || t.second % 60 == 59)

def ofUnix (seconds nanos : Nat) : Instant :=
  ⟨Date.ofDayNumber (seconds / 86400), seconds % 86400, nanos⟩

instance : Inhabited Instant := ⟨ofUnix 0 0⟩

def padded (width n : Nat) : List Char :=
  let ds := Nat.toDigits 10 n
  List.replicate (width - ds.length) '0' ++ ds

/-- A year: four digits, or a sign and at least five characters. -/
def yearText (year : Int) : List Char :=
  if 0 ≤ year ∧ year ≤ 9999 then padded 4 year.toNat
  else (if year < 0 then '-' else '+') :: padded 4 year.natAbs

/-- A fraction of a second, with no, three, six or nine digits. -/
def fractionText (nano : Nat) : List Char :=
  if nano = 0 then []
  else if nano % 1000000 = 0 then '.' :: padded 3 (nano / 1000000)
  else if nano % 1000 = 0 then '.' :: padded 6 (nano / 1000)
  else '.' :: padded 9 nano

def render (t : Instant) : List Char :=
  let leap := t.nano / 1000000000
  yearText t.date.year ++ '-' :: padded 2 t.date.month ++ '-' :: padded 2 t.date.day ++
    'T' :: padded 2 (t.second / 3600) ++ ':' :: padded 2 (t.second / 60 % 60) ++
    ':' :: padded 2 (t.second % 60 + leap) ++ fractionText (t.nano % 1000000000) ++ ['Z']

def text (t : Instant) : String := String.ofList (render t)

/-- A number of at least one and at most `width` digits, and the text after it. -/
def readNumber (width : Nat) (s : List Char) : Option (Nat × List Char) :=
  let ds := (s.take width).takeWhile Char.isDigit
  if ds.isEmpty then none else some (Text.digitsValue ds, s.drop ds.length)

/-- A number after white space that may stand before it. -/
def readField (width : Nat) (s : List Char) : Option (Nat × List Char) :=
  readNumber width (Text.trimStart s)

/-- A year, which may have more than four digits if it has a sign. -/
def readYear (s : List Char) : Option (Int × List Char) :=
  match Text.trimStart s with
  | '-' :: rest => (readNumber rest.length rest).map fun (n, rest) => (-(n : Int), rest)
  | '+' :: rest => (readNumber rest.length rest).map fun (n, rest) => ((n : Int), rest)
  | rest => (readNumber 4 rest).map fun (n, rest) => ((n : Int), rest)

def expect (c : Char) (s : List Char) : Option (List Char) :=
  match Text.trimStart s with
  | d :: rest => if d = c then some rest else none
  | [] => none

/-- A fraction in nanoseconds; digits after the ninth do not count. -/
def readFraction (s : List Char) : Option (Nat × List Char) :=
  match s with
  | '.' :: rest =>
      let ds := rest.takeWhile Char.isDigit
      if ds.isEmpty then none
      else
        let kept := ds.take 9
        some (Text.digitsValue kept * Nat.pow 10 (9 - kept.length), rest.dropWhile Char.isDigit)
  | s => some (0, s)

def readTwo (s : List Char) : Option (Nat × List Char) :=
  match s with
  | a :: b :: rest => if a.isDigit && b.isDigit then some (Text.digitsValue [a, b], rest) else none
  | _ => none

def readOffsetSize (s : List Char) : Option (Int × List Char) := do
  let (hours, s) ← readTwo s
  let (minutes, s) ← readTwo (s.dropWhile fun c => c == ':' || Text.isBlankChar c)
  if minutes < 60 ∧ hours < 24 then return ((hours * 3600 + minutes * 60 : Nat), s) else none

/-- An offset from UTC in seconds: the letter Z, the name UTC, or hours and
minutes with a sign. -/
def readOffset (s : List Char) : Option (Int × List Char) :=
  if ((s.take 3).map Char.toLower) = ['u', 't', 'c'] then some (0, s.drop 3)
  else
    match s with
    | 'Z' :: rest | 'z' :: rest => some (0, rest)
    | '+' :: rest => readOffsetSize rest
    | '-' :: rest | '−' :: rest => (readOffsetSize rest).map fun (n, rest) => (-n, rest)
    | _ => none

/-- The point in time that is a date and time of day at an offset from UTC. -/
def atOffset (date : Date) (second nano : Nat) (offset : Int) : Instant :=
  let shifted := (second : Int) - offset
  if shifted < 0 then ⟨date.previous, (shifted + 86400).toNat, nano⟩
  else if 86400 ≤ shifted then ⟨date.next, (shifted - 86400).toNat, nano⟩
  else ⟨date, shifted.toNat, nano⟩

def readTimeMark : List Char → Option (List Char)
  | c :: rest => if c = 'T' ∨ c = 't' ∨ c = ' ' then some rest else none
  | [] => none

/-- Reads a point in time; only white space may follow it. -/
def parseChars? (s : List Char) : Option Instant := do
  let (year, s) ← readYear s
  let (month, s) ← readField 2 (← expect '-' s)
  let (day, s) ← readField 2 (← expect '-' s)
  let (hour, s) ← readField 2 (← readTimeMark s)
  let (minute, s) ← readField 2 (← expect ':' s)
  let (second, s) ← readField 2 (← expect ':' s)
  let (nano, s) ← readFraction s
  let (offset, s) ← readOffset (Text.trimStart s)
  let date : Date := ⟨year, month, day⟩
  if date.isValid && hour < 24 && minute < 60 && second ≤ 60 && (Text.trimStart s).isEmpty then
    let leap := if second = 60 then 1 else 0
    let instant :=
      atOffset date (hour * 3600 + minute * 60 + (second - leap)) (nano + leap * 1000000000) offset
    if instant.date.isValid then some instant else none
  else none

def parse? (s : String) : Option Instant := parseChars? s.toList

end Instant

end PageHarvest
