/-!
UTF-8. Decoding goes byte by byte and never fails: where bytes make no
character, it reports one error for as many of them as could begin one. The
strict reading accepts only sequences without errors, and the lenient one puts
U+FFFD in their place.
-/

namespace PageHarvest.Text

def utf8Bytes (cs : List Char) : List UInt8 := cs.flatMap String.utf8EncodeChar

/-- A character of which some bytes have been read: the bits so far, the number
of bytes that are missing, and the range in which the next one must lie. -/
structure PartialChar where
  bits : Nat
  missing : Nat
  low : Nat
  high : Nat

/-- What a first byte begins: a whole character, a character with more bytes to
come, or nothing. -/
def beginChar (b : Nat) : Option (Char ⊕ PartialChar) :=
  if b < 0x80 then some (.inl (Char.ofNat b))
  else if 0xC2 ≤ b ∧ b ≤ 0xDF then some (.inr ⟨b - 0xC0, 1, 0x80, 0xBF⟩)
  else if b = 0xE0 then some (.inr ⟨0, 2, 0xA0, 0xBF⟩)
  else if b = 0xED then some (.inr ⟨0xD, 2, 0x80, 0x9F⟩)
  else if 0xE1 ≤ b ∧ b ≤ 0xEF then some (.inr ⟨b - 0xE0, 2, 0x80, 0xBF⟩)
  else if b = 0xF0 then some (.inr ⟨0, 3, 0x90, 0xBF⟩)
  else if 0xF1 ≤ b ∧ b ≤ 0xF3 then some (.inr ⟨b - 0xF0, 3, 0x80, 0xBF⟩)
  else if b = 0xF4 then some (.inr ⟨4, 3, 0x80, 0x8F⟩)
  else none

/-- Decodes bytes after an unfinished character, if there is one. An error is a
missing character. -/
def decodeFrom : Option PartialChar → List UInt8 → List (Option Char)
  | none, [] => []
  | some _, [] => [none]
  | state, byte :: rest =>
      let b := byte.toNat
      let continued := state.bind fun p => if p.low ≤ b ∧ b ≤ p.high then some p else none
      match continued with
      | some p =>
          let bits := p.bits * 64 + (b - 0x80)
          if p.missing = 1 then some (Char.ofNat bits) :: decodeFrom none rest
          else decodeFrom (some ⟨bits, p.missing - 1, 0x80, 0xBF⟩) rest
      | none =>
          let errors := if state.isSome then [none] else []
          match beginChar b with
          | some (.inl c) => errors ++ some c :: decodeFrom none rest
          | some (.inr p) => errors ++ decodeFrom (some p) rest
          | none => errors ++ none :: decodeFrom none rest

/-- The characters of a byte sequence, if it is UTF-8 throughout. -/
def utf8Chars? (bytes : List UInt8) : Option (List Char) := (decodeFrom none bytes).mapM id

/-- The characters of a byte sequence, U+FFFD where it is not UTF-8. -/
def utf8CharsLenient (bytes : List UInt8) : List Char :=
  (decodeFrom none bytes).map fun c => c.getD (Char.ofNat 0xFFFD)

end PageHarvest.Text
