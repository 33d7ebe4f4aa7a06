import PageHarvest.Text.Utf8

/-!
Percent encoding: a byte as a percent sign and two hexadecimal digits. Which
ASCII characters are encoded depends on the place in an address; characters
beyond ASCII always are. The form encoding of query parameters is a variant in
which a blank is a plus sign.
-/

namespace PageHarvest.Text

def upperHexDigit (n : Nat) : Char := (Nat.digitChar n).toUpper

def percentByte (b : UInt8) : List Char :=
  ['%', upperHexDigit (b.toNat / 16), upperHexDigit (b.toNat % 16)]

/-- Encodes the characters of a set, and those beyond ASCII. -/
def percentEncode (inSet : Char → Bool) (cs : List Char) : List Char :=
  cs.flatMap fun c =>
    if c.toNat < 0x80 && !inSet c then [c] else (String.utf8EncodeChar c).flatMap percentByte

def hexDigit? (b : UInt8) : Option Nat :=
  let n := b.toNat
  if 0x30 ≤ n ∧ n ≤ 0x39 then some (n - 0x30)
  else if 0x41 ≤ n ∧ n ≤ 0x46 then some (n - 0x41 + 10)
  else if 0x61 ≤ n ∧ n ≤ 0x66 then some (n - 0x61 + 10)
  else none

/-- Decodes percent signs that two hexadecimal digits follow and leaves all else
as it is. -/
def percentDecode : List UInt8 → List UInt8
  | [] => []
  | b :: rest =>
      match b == 0x25, rest with
      | true, h :: l :: more =>
          match hexDigit? h, hexDigit? l with
          | some h, some l => UInt8.ofNat (16 * h + l) :: percentDecode more
          | _, _ => b :: percentDecode (h :: l :: more)
      | _, rest => b :: percentDecode rest

/-- The characters that stand for themselves in a form. -/
def isFormSafe (c : Char) : Bool :=
  c.isAlphanum || c == '*' || c == '-' || c == '.' || c == '_'

def formEncode (cs : List Char) : List Char :=
  cs.flatMap fun c =>
    if isFormSafe c then [c]
    else if c = ' ' then ['+']
    else (String.utf8EncodeChar c).flatMap percentByte

def formPair (name value : String) : List Char :=
  formEncode name.toList ++ '=' :: formEncode value.toList

end PageHarvest.Text
