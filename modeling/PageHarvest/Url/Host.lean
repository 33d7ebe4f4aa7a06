import PageHarvest.Text.Percent
import PageHarvest.Text.Split
import PageHarvest.Url.Punycode

/-!
Hosts of addresses: domain names, IPv4 addresses in any of their notations and
IPv6 addresses in brackets, each brought to one written form.
-/

namespace PageHarvest.Url

inductive Problem where
  | relative
  | emptyHost
  | invalidDomain
  | invalidDomainCharacter
  | invalidPort
  | invalidIpv4
  | invalidIpv6
deriving DecidableEq, Repr

def Problem.message : Problem → String
  | .relative => "relative URL without a base"
  | .emptyHost => "empty host"
  | .invalidDomain => "invalid international domain name"
  | .invalidDomainCharacter => "invalid domain character"
  | .invalidPort => "invalid port number"
  | .invalidIpv4 => "invalid IPv4 address"
  | .invalidIpv6 => "invalid IPv6 address"

def digitValue? (base : Nat) (c : Char) : Option Nat :=
  let n := c.toNat
  let value :=
    if '0'.toNat ≤ n ∧ n ≤ '9'.toNat then some (n - '0'.toNat)
    else if 'a'.toNat ≤ n ∧ n ≤ 'f'.toNat then some (n - 'a'.toNat + 10)
    else if 'A'.toNat ≤ n ∧ n ≤ 'F'.toNat then some (n - 'A'.toNat + 10)
    else none
  value.bind fun v => if v < base then some v else none

def numberIn? (base : Nat) (cs : List Char) : Option Nat := do
  let ds ← cs.mapM (digitValue? base)
  return ds.foldl (fun n d => base * n + d) 0

/-- A part of an IPv4 address: hexadecimal after `0x`, octal after another zero
and decimal otherwise. -/
def ipv4Part? : List Char → Option Nat
  | [] => none
  | '0' :: 'x' :: rest | '0' :: 'X' :: rest => numberIn? 16 rest
  | '0' :: d :: rest => numberIn? 8 (d :: rest)
  | cs => numberIn? 10 cs

/-- True of a domain whose last part, not counting an empty one at the end, is a
number. Such a domain must be an IPv4 address. -/
def endsInNumber (domain : List Char) : Bool :=
  let last :=
    match (Text.split '.' domain).reverse with
    | [] :: part :: _ => part
    | [] :: [] => []
    | part :: _ => part
    | [] => []
  !last.isEmpty && (last.all Char.isDigit || (ipv4Part? last).isSome)

/-- An IPv4 address of one to four parts; the last one fills the bytes that the
others leave. -/
def ipv4? (domain : List Char) : Option Nat := do
  let parts := Text.split '.' domain
  let parts := if parts.getLast? == some [] then parts.dropLast else parts
  if parts.length > 4 then none
  else
    let numbers ← parts.mapM ipv4Part?
    let last ← numbers.getLast?
    let leading := numbers.dropLast
    if leading.any (255 < ·) || Nat.pow 256 (4 - leading.length) ≤ last then none
    else some (leading.foldl (fun n b => 256 * n + b) 0 * Nat.pow 256 (4 - leading.length) + last)

def ipv4Text (address : Nat) : List Char :=
  let bytes := [address / 16777216, address / 65536 % 256, address / 256 % 256, address % 256]
  Text.join '.' (bytes.map fun b => Nat.toDigits 10 b)

def decimalByte? (cs : List Char) : Option Nat := do
  let n ← if cs.isEmpty then none else numberIn? 10 cs
  if n ≤ 255 && (cs.length == 1 || cs.head? != some '0') then some n else none

/-- An IPv4 address at the end of an IPv6 address, as two pieces. -/
def embeddedIpv4? (cs : List Char) : Option (List Nat) := do
  match ← (Text.split '.' cs).mapM decimalByte? with
  | [a, b, c, d] => some [256 * a + b, 256 * c + d]
  | _ => none

def ipv6Piece? (cs : List Char) : Option Nat :=
  if cs.isEmpty || 4 < cs.length then none else numberIn? 16 cs

/-- Pieces with colons between them; the last may be an IPv4 address. -/
def ipv6Pieces? : List (List Char) → Option (List Nat)
  | [] => some []
  | [last] => if last.contains '.' then embeddedIpv4? last else (ipv6Piece? last).map ([·])
  | piece :: rest => do
      let n ← ipv6Piece? piece
      let ns ← ipv6Pieces? rest
      return n :: ns

def splitDoubleColon : List Char → Option (List Char × List Char)
  | [] => none
  | ':' :: ':' :: rest => some ([], rest)
  | c :: rest => (splitDoubleColon rest).map fun (before, after) => (c :: before, after)

def ipv6Side? (cs : List Char) : Option (List Nat) :=
  if cs.isEmpty then some [] else ipv6Pieces? (Text.split ':' cs)

/-- The eight pieces of an IPv6 address. A double colon stands for at least one
piece that is zero. -/
def ipv6? (cs : List Char) : Option (List Nat) := do
  match splitDoubleColon cs with
  | none =>
      let pieces ← ipv6Pieces? (Text.split ':' cs)
      if pieces.length = 8 then some pieces else none
  | some (before, after) =>
      if before.contains '.' then none
      else
        let left ← ipv6Side? before
        let right ← ipv6Side? after
        let missing := 8 - (left.length + right.length)
        if left.length + right.length < 8 then some (left ++ List.replicate missing 0 ++ right)
        else none

def zeroRun (pieces : List Nat) : Nat := (pieces.takeWhile (· == 0)).length

/-- Where the longest run of zeros starts and how long it is; the first of
several that are longest. -/
def longestZeroRun (pieces : List Nat) : Nat × Nat :=
  (List.range pieces.length).foldl (fun best i =>
    let run := zeroRun (pieces.drop i)
    if best.2 < run then (i, run) else best) (0, 0)

def piecesText (pieces : List Nat) : List Char :=
  Text.join ':' (pieces.map fun p => Nat.toDigits 16 p)

/-- An IPv6 address with its longest run of two or more zero pieces left out. -/
def ipv6Text (pieces : List Nat) : List Char :=
  let (start, run) := longestZeroRun pieces
  if run < 2 then piecesText pieces
  else piecesText (pieces.take start) ++ [':', ':'] ++ piecesText (pieces.drop (start + run))

def isForbiddenInDomain (c : Char) : Bool :=
  c.toNat ≤ 0x20 || c.toNat == 0x7F || "%#/:<>?@[\\]^|".toList.contains c

/-- Characters that may not stand in the host of an address of unknown scheme. -/
def isForbiddenInHost (c : Char) : Bool :=
  c.toNat == 0 || "\t\n\r #/:<>?@[\\]^|".toList.contains c

/-- A character of a domain in its canonical form: capital letters of the Latin,
Greek and Cyrillic alphabets become small, fullwidth characters narrow and
ideographic full stops points. Other characters are taken as they are. -/
def foldDomainChar (c : Char) : Char :=
  let n := c.toNat
  if 0xFF01 ≤ n ∧ n ≤ 0xFF5E then (Char.ofNat (n - 0xFEE0)).toLower
  else if n = 0x3002 ∨ n = 0xFF61 then '.'
  else if 0xC0 ≤ n ∧ n ≤ 0xDE ∧ n ≠ 0xD7 then Char.ofNat (n + 0x20)
  else if 0x391 ≤ n ∧ n ≤ 0x3A9 ∧ n ≠ 0x3A2 then Char.ofNat (n + 0x20)
  else if 0x410 ≤ n ∧ n ≤ 0x42F then Char.ofNat (n + 0x20)
  else if 0x400 ≤ n ∧ n ≤ 0x40F then Char.ofNat (n + 0x50)
  else c.toLower

def labelText (label : List Char) : List Char :=
  if label.all fun c => c.toNat < 0x80 then label else "xn--".toList ++ punycode label

/-- A domain in ASCII, in lower case and with Punycode for other letters. -/
def domainText? (bytes : List UInt8) : Option (List Char) := do
  let cs ← Text.utf8Chars? bytes
  let labels := Text.split '.' (cs.map foldDomainChar)
  let domain := Text.join '.' (labels.map labelText)
  if domain.any isForbiddenInDomain then none else some domain

def bracketed? (host : List Char) : Except Problem (List Char) :=
  match host with
  | '[' :: rest =>
      if rest.getLast? = some ']' then
        match ipv6? rest.dropLast with
        | some pieces => .ok ('[' :: ipv6Text pieces ++ [']'])
        | none => .error .invalidIpv6
      else .error .invalidIpv6
  | _ => .error .invalidIpv6

def hostText (host : List Char) : Except Problem (List Char) :=
  if host.head? = some '[' then bracketed? host
  else
    match domainText? (Text.percentDecode (Text.utf8Bytes host)) with
    | none => .error .invalidDomain
    | some [] => .error .emptyHost
    | some domain =>
        if endsInNumber domain then
          match ipv4? domain with
          | some address => .ok (ipv4Text address)
          | none => .error .invalidIpv4
        else .ok domain

def opaqueHostText (host : List Char) : Except Problem (List Char) :=
  if host.head? = some '[' then bracketed? host
  else if host.any isForbiddenInHost then .error .invalidDomainCharacter
  else .ok (Text.percentEncode (fun c => c.toNat < 0x20 || c.toNat == 0x7F) host)

end PageHarvest.Url
