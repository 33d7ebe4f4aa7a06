import Mathlib.Tactic.Common
import PageHarvest.Text.Base64
import PageHarvest.Text.Utf8

/-!
Base64 read back. The reader takes four characters at a time and accepts equals
signs in the last four only. What is written it reads as the same bytes, so that
different bytes, and with UTF-8 different texts, never look alike.
-/

namespace PageHarvest.Text

/-- The six bits that a character stands for. -/
def base64Value? (c : Char) : Option Nat := base64Alphabet.idxOf? c

def base64Bytes? : List Char → Option (List UInt8)
  | [] => some []
  | a :: b :: c :: d :: rest => do
      let front := (← base64Value? a) * 64 + (← base64Value? b)
      if c = '=' ∧ d = '=' ∧ rest = [] then
        return [.ofNat (front / 16)]
      let middle := front * 64 + (← base64Value? c)
      if d = '=' ∧ rest = [] then
        return [.ofNat (middle / 1024), .ofNat (middle / 4)]
      let back := middle * 64 + (← base64Value? d)
      return .ofNat (back / 65536) :: .ofNat (back / 256) :: .ofNat back :: (← base64Bytes? rest)
  | _ => none

theorem base64Value?_base64Char : ∀ n < 64, base64Value? (base64Char n) = some n := by
  decide +kernel

theorem base64Char_ne_pad : ∀ n < 64, base64Char n ≠ '=' := by
  decide +kernel

theorem base64Char_mem (n : Nat) : base64Char n ∈ '=' :: base64Alphabet := by
  rw [base64Char, List.getD_eq_getElem?_getD]
  cases hchar : base64Alphabet[n]? with
  | none => exact List.mem_cons_self
  | some c => exact List.mem_cons_of_mem _ (List.mem_of_getElem? hchar)

theorem mem_base64 {bytes : List UInt8} {c : Char} (h : c ∈ base64 bytes) :
    c ∈ '=' :: base64Alphabet := by
  have hpad : '=' ∈ '=' :: base64Alphabet := List.mem_cons_self
  induction bytes using base64.induct with
  | case1 => cases h
  | case2 a =>
      simp only [base64, List.mem_cons, List.not_mem_nil, or_false] at h
      rcases h with rfl | rfl | rfl | rfl
      exacts [base64Char_mem _, base64Char_mem _, hpad, hpad]
  | case3 a b =>
      simp only [base64, List.mem_cons, List.not_mem_nil, or_false] at h
      rcases h with rfl | rfl | rfl | rfl
      exacts [base64Char_mem _, base64Char_mem _, base64Char_mem _, hpad]
  | case4 a b d rest ih =>
      simp only [base64, List.mem_cons] at h
      rcases h with rfl | rfl | rfl | rfl | h
      exacts [base64Char_mem _, base64Char_mem _, base64Char_mem _, base64Char_mem _, ih h]

theorem ofNat_eq_of_mod {n : Nat} (byte : UInt8) (h : n % 256 = byte.toNat) :
    UInt8.ofNat n = byte := by
  rw [← UInt8.ofNat_mod_size, h, UInt8.ofNat_toNat]

section Groups

variable {a b c d : Char} {rest : List Char} {x y z w : Nat}

theorem base64Bytes?_one (ha : base64Value? a = some x) (hb : base64Value? b = some y) :
    base64Bytes? [a, b, '=', '='] = some [.ofNat ((x * 64 + y) / 16)] := by
  simp [base64Bytes?, ha, hb]

theorem base64Bytes?_two (ha : base64Value? a = some x) (hb : base64Value? b = some y)
    (hc : base64Value? c = some z) (hplain : c ≠ '=') :
    base64Bytes? [a, b, c, '='] =
      some [.ofNat (((x * 64 + y) * 64 + z) / 1024), .ofNat (((x * 64 + y) * 64 + z) / 4)] := by
  simp [base64Bytes?, ha, hb, hc, hplain]

theorem base64Bytes?_three (ha : base64Value? a = some x) (hb : base64Value? b = some y)
    (hc : base64Value? c = some z) (hd : base64Value? d = some w) (hplain : d ≠ '=') :
    base64Bytes? (a :: b :: c :: d :: rest) =
      (base64Bytes? rest).map fun bytes =>
        .ofNat ((((x * 64 + y) * 64 + z) * 64 + w) / 65536) ::
          .ofNat ((((x * 64 + y) * 64 + z) * 64 + w) / 256) ::
            .ofNat (((x * 64 + y) * 64 + z) * 64 + w) :: bytes := by
  cases hrest : base64Bytes? rest <;> simp [base64Bytes?, ha, hb, hc, hd, hplain, hrest]

end Groups

/-- What is written is read as the same bytes. -/
theorem base64Bytes?_base64 (bytes : List UInt8) : base64Bytes? (base64 bytes) = some bytes := by
  induction bytes using base64.induct with
  | case1 => rfl
  | case2 a =>
      have ha := a.toNat_lt
      rw [base64, base64Bytes?_one (base64Value?_base64Char _ (by omega))
        (base64Value?_base64Char _ (by omega))]
      rw [ofNat_eq_of_mod a (by omega)]
  | case3 a b =>
      have ha := a.toNat_lt
      have hb := b.toNat_lt
      rw [base64, base64Bytes?_two (base64Value?_base64Char _ (by omega))
        (base64Value?_base64Char _ (by omega)) (base64Value?_base64Char _ (by omega))
        (base64Char_ne_pad _ (by omega))]
      rw [ofNat_eq_of_mod a (by omega), ofNat_eq_of_mod b (by omega)]
  | case4 a b c rest ih =>
      have ha := a.toNat_lt
      have hb := b.toNat_lt
      have hc := c.toNat_lt
      rw [base64, base64Bytes?_three (base64Value?_base64Char _ (by omega))
        (base64Value?_base64Char _ (by omega)) (base64Value?_base64Char _ (by omega))
        (base64Value?_base64Char _ (by omega)) (base64Char_ne_pad _ (by omega)), ih,
        Option.map_some]
      rw [ofNat_eq_of_mod a (by omega), ofNat_eq_of_mod b (by omega),
        ofNat_eq_of_mod c (by omega)]

theorem base64_injective {as bs : List UInt8} (h : base64 as = base64 bs) : as = bs := by
  have hbytes := base64Bytes?_base64 as
  rw [h, base64Bytes?_base64] at hbytes
  exact (Option.some.inj hbytes).symm

theorem utf8Bytes_injective {cs ds : List Char} (h : utf8Bytes cs = utf8Bytes ds) : cs = ds := by
  have hencode : cs.utf8Encode = ds.utf8Encode := congrArg List.toByteArray h
  have hdecode := congrArg ByteArray.utf8Decode? hencode
  simpa [List.utf8Decode?_utf8Encode] using hdecode

end PageHarvest.Text
