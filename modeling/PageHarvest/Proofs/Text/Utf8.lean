import Mathlib.Tactic.Common
import PageHarvest.Text.Utf8

/-!
UTF-8 that is read back. The reader finds each character at the bytes that are
written for it, so a text survives both readings: the strict one accepts what was
written, and the lenient one puts nothing in its place.
-/

namespace PageHarvest.Text

variable {b : UInt8} {rest : List UInt8} {p : PartialChar} {c : Char}

theorem decodeFrom_begin_char (h : beginChar b.toNat = some (.inl c)) :
    decodeFrom none (b :: rest) = some c :: decodeFrom none rest := by
  simp [decodeFrom, h]

theorem decodeFrom_begin (h : beginChar b.toNat = some (.inr p)) :
    decodeFrom none (b :: rest) = decodeFrom (some p) rest := by
  simp [decodeFrom, h]

theorem toNat_ofNat_lead {n v size lead : Nat} (hv : n % size = v) (hlt : lead + v < 256) :
    (UInt8.ofNat (n % size + lead)).toNat = lead + v := by
  rw [hv, Nat.add_comm, UInt8.toNat_ofNat_of_lt' hlt]

section Tail

variable {bits missing low high n : Nat}

theorem toNat_ofNat_tail (n : Nat) : (UInt8.ofNat (n % 64 + 0x80)).toNat = 0x80 + n % 64 :=
  toNat_ofNat_lead rfl (by omega)

theorem decodeFrom_continue (hrange : low ≤ 0x80 + n % 64 ∧ 0x80 + n % 64 ≤ high)
    (hmore : missing ≠ 1) :
    decodeFrom (some ⟨bits, missing, low, high⟩) (.ofNat (n % 64 + 0x80) :: rest) =
      decodeFrom (some ⟨bits * 64 + n % 64, missing - 1, 0x80, 0xBF⟩) rest := by
  rw [← toNat_ofNat_tail] at hrange
  have hbits : (UInt8.ofNat (n % 64 + 0x80)).toNat - 0x80 = n % 64 := by
    rw [toNat_ofNat_tail, Nat.add_sub_cancel_left]
  simp only [decodeFrom, Option.bind_some, hrange, and_self, if_true, hmore, if_false, hbits]

theorem decodeFrom_last (hrange : low ≤ 0x80 + n % 64 ∧ 0x80 + n % 64 ≤ high) :
    decodeFrom (some ⟨bits, 1, low, high⟩) (.ofNat (n % 64 + 0x80) :: rest) =
      some (Char.ofNat (bits * 64 + n % 64)) :: decodeFrom none rest := by
  rw [← toNat_ofNat_tail] at hrange
  have hbits : (UInt8.ofNat (n % 64 + 0x80)).toNat - 0x80 = n % 64 := by
    rw [toNat_ofNat_tail, Nat.add_sub_cancel_left]
  simp only [decodeFrom, Option.bind_some, hrange, and_self, if_true, hbits]

end Tail

/-- The first byte of three, with the range that it leaves for the second. -/
theorem beginChar_three {v : Nat} (hlow : 0x800 ≤ v) (hhigh : v ≤ 0xFFFF)
    (hvalid : v < 0xD800 ∨ 0xDFFF < v) :
    ∃ low high, beginChar (0xE0 + v / 4096) = some (.inr ⟨v / 4096, 2, low, high⟩) ∧
      low ≤ 0x80 + v / 64 % 64 ∧ 0x80 + v / 64 % 64 ≤ high := by
  by_cases hfirst : v / 4096 = 0
  · exact ⟨0xA0, 0xBF, by rw [hfirst]; rfl, by omega, by omega⟩
  by_cases hlast : v / 4096 = 0xD
  · exact ⟨0x80, 0x9F, by rw [hlast]; rfl, by omega, by omega⟩
  refine ⟨0x80, 0xBF, ?_, by omega, by omega⟩
  unfold beginChar
  rw [if_neg (by omega), if_neg (by omega), if_neg (by omega), if_neg (by omega),
    if_pos (by omega)]
  simp

/-- The first byte of four, with the range that it leaves for the second. -/
theorem beginChar_four {v : Nat} (hlow : 0x10000 ≤ v) (hhigh : v ≤ 0x10FFFF) :
    ∃ low high, beginChar (0xF0 + v / 262144) = some (.inr ⟨v / 262144, 3, low, high⟩) ∧
      low ≤ 0x80 + v / 4096 % 64 ∧ 0x80 + v / 4096 % 64 ≤ high := by
  by_cases hfirst : v / 262144 = 0
  · exact ⟨0x90, 0xBF, by rw [hfirst]; rfl, by omega, by omega⟩
  by_cases hlast : v / 262144 = 4
  · exact ⟨0x80, 0x8F, by rw [hlast]; rfl, by omega, by omega⟩
  refine ⟨0x80, 0xBF, ?_, by omega, by omega⟩
  unfold beginChar
  rw [if_neg (by omega), if_neg (by omega), if_neg (by omega), if_neg (by omega),
    if_neg (by omega), if_neg (by omega), if_pos (by omega)]
  simp

theorem utf8EncodeChar_eq (c : Char) :
    String.utf8EncodeChar c =
      if c.toNat ≤ 0x7F then [.ofNat c.toNat]
      else if c.toNat ≤ 0x7FF then
        [.ofNat (c.toNat / 64 % 32 + 0xC0), .ofNat (c.toNat % 64 + 0x80)]
      else if c.toNat ≤ 0xFFFF then
        [.ofNat (c.toNat / 4096 % 16 + 0xE0), .ofNat (c.toNat / 64 % 64 + 0x80),
          .ofNat (c.toNat % 64 + 0x80)]
      else
        [.ofNat (c.toNat / 262144 % 8 + 0xF0), .ofNat (c.toNat / 4096 % 64 + 0x80),
          .ofNat (c.toNat / 64 % 64 + 0x80), .ofNat (c.toNat % 64 + 0x80)] := rfl

/-- A character is read from the bytes that are written for it. -/
theorem decodeFrom_encodeChar (c : Char) (rest : List UInt8) :
    decodeFrom none (String.utf8EncodeChar c ++ rest) = some c :: decodeFrom none rest := by
  have hchar : Char.ofNat c.toNat = c := Char.ofNat_toNat c
  have hvalid : c.toNat < 0xD800 ∨ 0xDFFF < c.toNat ∧ c.toNat < 0x110000 := c.valid
  have htail : ∀ n, 0x80 ≤ 0x80 + n % 64 ∧ 0x80 + n % 64 ≤ 0xBF := by omega
  rw [utf8EncodeChar_eq]
  generalize c.toNat = v at hchar hvalid ⊢
  split_ifs with hone htwo hthree
  · have hbyte : (UInt8.ofNat v).toNat = v :=
      UInt8.toNat_ofNat_of_lt' (show v < 256 by omega)
    have hbegin : beginChar v = some (.inl c) := by rw [beginChar, if_pos (by omega), hchar]
    rw [List.singleton_append, decodeFrom_begin_char (by rw [hbyte, hbegin])]
  · have hlead : (UInt8.ofNat (v / 64 % 32 + 0xC0)).toNat = 0xC0 + v / 64 :=
      toNat_ofNat_lead (by omega) (by omega)
    have hbegin : beginChar (0xC0 + v / 64) = some (.inr ⟨v / 64, 1, 0x80, 0xBF⟩) := by
      rw [beginChar, if_neg (by omega), if_pos (by omega), Nat.add_sub_cancel_left]
    have hbits : v / 64 * 64 + v % 64 = v := by omega
    rw [List.cons_append, List.singleton_append, decodeFrom_begin (by rw [hlead, hbegin]),
      decodeFrom_last (htail v), hbits, hchar]
  · have hlead : (UInt8.ofNat (v / 4096 % 16 + 0xE0)).toNat = 0xE0 + v / 4096 :=
      toNat_ofNat_lead (by omega) (by omega)
    obtain ⟨low, high, hbegin, hsecond⟩ :=
      beginChar_three (v := v) (by omega) (by omega) (by omega)
    have hbits : (v / 4096 * 64 + v / 64 % 64) * 64 + v % 64 = v := by omega
    rw [List.cons_append, List.cons_append, List.singleton_append,
      decodeFrom_begin (by rw [hlead, hbegin]), decodeFrom_continue hsecond (by decide),
      decodeFrom_last (htail v), hbits, hchar]
  · have hlead : (UInt8.ofNat (v / 262144 % 8 + 0xF0)).toNat = 0xF0 + v / 262144 :=
      toNat_ofNat_lead (by omega) (by omega)
    obtain ⟨low, high, hbegin, hsecond⟩ := beginChar_four (v := v) (by omega) (by omega)
    have hbits : ((v / 262144 * 64 + v / 4096 % 64) * 64 + v / 64 % 64) * 64 + v % 64 = v := by
      omega
    rw [List.cons_append, List.cons_append, List.cons_append, List.singleton_append,
      decodeFrom_begin (by rw [hlead, hbegin]), decodeFrom_continue hsecond (by decide),
      decodeFrom_continue (htail (v / 64)) (by decide), decodeFrom_last (htail v), hbits, hchar]

theorem decodeFrom_utf8Bytes (cs : List Char) : decodeFrom none (utf8Bytes cs) = cs.map some := by
  induction cs with
  | nil => rfl
  | cons c cs ih =>
      change decodeFrom none (String.utf8EncodeChar c ++ utf8Bytes cs) = _
      rw [decodeFrom_encodeChar, ih, List.map_cons]

theorem utf8Chars?_utf8Bytes (cs : List Char) : utf8Chars? (utf8Bytes cs) = some cs := by
  rw [utf8Chars?, decodeFrom_utf8Bytes]
  induction cs with
  | nil => rfl
  | cons c cs ih => simp [ih]

theorem utf8CharsLenient_utf8Bytes (cs : List Char) : utf8CharsLenient (utf8Bytes cs) = cs := by
  rw [utf8CharsLenient, decodeFrom_utf8Bytes, List.map_map]
  exact List.map_id cs

end PageHarvest.Text
