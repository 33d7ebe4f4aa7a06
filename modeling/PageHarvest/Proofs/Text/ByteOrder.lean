import PageHarvest.Proofs.Text.Utf8
import PageHarvest.Table

/-!
The order of texts by their characters is that of their UTF-8 bytes. What decides
is the first character in which two texts differ: of two characters the greater one
has the greater byte where their bytes begin to differ, and the bytes of neither
are a beginning of those of the other.
-/

namespace PageHarvest

namespace Text

theorem ofNat_cons_lt_iff {m n : Nat} (hm : m < 256) (hn : n < 256) {xs ys : List UInt8} :
    UInt8.ofNat m :: xs < UInt8.ofNat n :: ys ↔ m < n ∨ m = n ∧ xs < ys := by
  rw [List.cons_lt_cons_iff, UInt8.ofNat_lt_iff_lt hm hn, ← UInt8.toNat_inj,
    UInt8.toNat_ofNat_of_lt' hm, UInt8.toNat_ofNat_of_lt' hn]

/-- The order of two numbers by their digits in the bytes of a character. -/
theorem digits_lt {m n : Nat} (h : m < n) :
    m / 262144 < n / 262144 ∨ m / 262144 = n / 262144 ∧
      (m / 4096 % 64 < n / 4096 % 64 ∨ m / 4096 % 64 = n / 4096 % 64 ∧
        (m / 64 % 64 < n / 64 % 64 ∨ m / 64 % 64 = n / 64 % 64 ∧ m % 64 < n % 64)) := by
  omega

/-- The bytes of the smaller of two characters come first, whatever follows. -/
theorem encodeChar_append_lt {c d : Char} (h : c < d) (xs ys : List UInt8) :
    String.utf8EncodeChar c ++ xs < String.utf8EncodeChar d ++ ys := by
  have hlt : c.toNat < d.toNat := h
  have hvalid : d.toNat < 0xD800 ∨ 0xDFFF < d.toNat ∧ d.toNat < 0x110000 := d.valid
  rw [utf8EncodeChar_eq, utf8EncodeChar_eq]
  generalize c.toNat = m at hlt ⊢
  generalize d.toNat = n at hlt hvalid ⊢
  have hdigits := digits_lt hlt
  have hlead (v : Nat) (hv : v < 0x110000) : v / 262144 % 8 = v / 262144 := by omega
  rw [hlead m (by omega), hlead n (by omega)]
  -- The number of bytes never goes down, and with the same number the digits decide.
  split_ifs <;>
    simp (disch := omega) only [List.cons_append, List.nil_append, ofNat_cons_lt_iff] <;>
    omega

theorem utf8Bytes_lt_of_lt {cs ds : List Char} (h : cs < ds) : utf8Bytes cs < utf8Bytes ds := by
  induction cs generalizing ds with
  | nil =>
      cases ds with
      | nil => cases h
      | cons d ds =>
          have hne : utf8Bytes (d :: ds) ≠ [] := by
            intro hnil
            have hchars := congrArg utf8Chars? hnil
            rw [utf8Chars?_utf8Bytes] at hchars
            cases hchars
          obtain ⟨b, bs, hbytes⟩ := List.exists_cons_of_ne_nil hne
          rw [hbytes]
          exact List.nil_lt_cons b bs
  | cons c cs ih =>
      cases ds with
      | nil => cases h
      | cons d ds =>
          change String.utf8EncodeChar c ++ utf8Bytes cs < String.utf8EncodeChar d ++ utf8Bytes ds
          rcases List.cons_lt_cons_iff.mp h with hlt | ⟨rfl, hrest⟩
          · exact encodeChar_append_lt hlt _ _
          · exact List.append_left_lt (ih hrest)

theorem utf8Bytes_lt_iff {cs ds : List Char} : utf8Bytes cs < utf8Bytes ds ↔ cs < ds := by
  refine ⟨fun h => ?_, utf8Bytes_lt_of_lt⟩
  rcases Std.lt_trichotomy cs ds with hlt | rfl | hgt
  · exact hlt
  · exact absurd h (List.lt_irrefl _)
  · exact absurd h (List.lt_asymm (utf8Bytes_lt_of_lt hgt))

def bytes (s : String) : List UInt8 := utf8Bytes s.toList

theorem bytes_lt_iff {s t : String} : bytes s < bytes t ↔ s < t :=
  utf8Bytes_lt_iff.trans String.lt_iff.symm

end Text

/-- The texts of the keys of a table increase in the order of their bytes. -/
theorem Table.pairwise_bytes_lt {κ α : Type} [TextKey κ] (t : Table κ α) :
    t.toList.Pairwise fun d e =>
      Text.bytes (TextKey.text d.1) < Text.bytes (TextKey.text e.1) :=
  t.sorted.imp Text.bytes_lt_iff.mpr

end PageHarvest
