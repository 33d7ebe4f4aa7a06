import PageHarvest.Json.Document
import PageHarvest.Json.Printer
import PageHarvest.Proofs.Binary64

/-!
Numbers that are printed and read again. A whole number is read as its digits say.
A floating-point number always has a fraction or an exponent, so that its text is
never taken for a whole number, and the decimal that they spell has the value of the
shortest one.
-/

namespace PageHarvest

namespace Json

open Text (digitsValue spanDigits)

theorem isDigit_of_mem_digits {n : Nat} {c : Char} (h : c ∈ digits n) : c.isDigit = true :=
  Nat.isDigit_of_mem_toDigits (by decide) (by decide) h

theorem isDigit_of_mem_zeros {count : Nat} {c : Char} (h : c ∈ zeros count) : c.isDigit = true := by
  rw [List.eq_of_mem_replicate h]
  decide

theorem digits_ne_nil (n : Nat) : digits n ≠ [] := Nat.toDigits_ne_nil

theorem digitsValue_digits (n : Nat) : digitsValue (digits n) = n := Text.digitsValue_toDigits n

theorem digitsValue_zeros (count : Nat) : digitsValue (zeros count) = 0 :=
  Text.digitsValue_replicate_zero count

theorem length_zeros (count : Nat) : (zeros count).length = count := List.length_replicate

theorem head?_digits {n : Nat} (h : n ≠ 0) : (digits n).head? ≠ some '0' := by
  induction n using Nat.strongRecOn with
  | ind n ih =>
      rw [digits, Nat.toDigits_eq_if (by decide)]
      split_ifs with hsmall
      · simpa using h
      · have hfront := ih (n / 10) (by omega) (by omega)
        obtain ⟨c, cs, hcs⟩ := List.exists_cons_of_ne_nil (digits_ne_nil (n / 10))
        rw [hcs] at hfront
        rw [digits] at hcs
        rw [hcs]
        exact hfront

/-- A text with which no number goes on. -/
def EndsNumber (rest : List Char) : Prop :=
  ∀ c ∈ rest.head?, c.isDigit = false ∧ c ≠ '.' ∧ c ≠ 'e' ∧ c ≠ 'E'

variable {negative : Bool} {whole fraction ds tail after rest : List Char} {exponent : Option Int}

/-- The digits before the point, as they may be written: some, and no zero before
others. -/
structure IsWhole (whole : List Char) : Prop where
  digits : ∀ c ∈ whole, c.isDigit = true
  ne_nil : whole ≠ []
  plain : whole.head? = some '0' → whole.length = 1

def sign (negative : Bool) : List Char := if negative then ['-'] else []

theorem readNumber_parts (hwhole : IsWhole whole) (htail : ∀ c ∈ tail.head?, c.isDigit = false)
    (hfraction : readFraction tail = some (fraction, after))
    (hexponent : readExponent after = some (exponent, rest)) :
    readNumber (sign negative ++ (whole ++ tail)) =
      some (⟨negative, whole, fraction, exponent⟩, rest) := by
  have hspan := Text.spanDigits_append hwhole.digits htail
  obtain ⟨c, cs, rfl⟩ := List.exists_cons_of_ne_nil hwhole.ne_nil
  have hplain : c = '0' → cs = [] := by simpa using hwhole.plain
  have hminus : c ≠ '-' := by
    rintro rfl
    exact absurd (hwhole.digits '-' List.mem_cons_self) (by decide)
  simp only [List.cons_append] at hspan
  cases negative with
  | true => simpa [sign, readNumber, hspan, hfraction, hexponent] using hplain
  | false => simpa [sign, readNumber, hminus, hspan, hfraction, hexponent] using hplain

theorem readFraction_point (hdigits : ∀ c ∈ ds, c.isDigit = true) (hne : ds ≠ [])
    (hrest : ∀ c ∈ rest.head?, c.isDigit = false) :
    readFraction ('.' :: (ds ++ rest)) = some (ds, rest) := by
  simp [readFraction, Text.spanDigits_append hdigits hrest, hne]

theorem readFraction_none (hrest : rest.head? ≠ some '.') :
    readFraction rest = some ([], rest) := by
  unfold readFraction
  split
  · exact absurd rfl hrest
  · rfl

theorem readExponent_none (hrest : EndsNumber rest) : readExponent rest = some (none, rest) := by
  cases rest with
  | nil => rfl
  | cons c rest =>
      obtain ⟨-, -, hlower, hupper⟩ := hrest c rfl
      simp [readExponent, hlower, hupper]

theorem readExponent_digits (first : Int) (hrest : ∀ c ∈ rest.head?, c.isDigit = false) :
    readExponent ('e' :: (if first < 0 then '-' else '+') :: (digits first.natAbs ++ rest)) =
      some (some first, rest) := by
  have hspan := Text.spanDigits_append (fun _ => isDigit_of_mem_digits (n := first.natAbs)) hrest
  have hne : (digits first.natAbs).isEmpty = false :=
    List.isEmpty_eq_false_iff.mpr (digits_ne_nil _)
  by_cases hnegative : first < 0
  · have habs : -(first.natAbs : Int) = first := by omega
    simp only [readExponent, if_pos hnegative, hspan, hne, digitsValue_digits, habs, true_or,
      Bool.false_eq_true, if_true, if_false]
  · have habs : (first.natAbs : Int) = first := by omega
    simp only [readExponent, if_neg hnegative, hspan, hne, digitsValue_digits, habs, true_or,
      Bool.false_eq_true, if_true, if_false]

theorem isWhole_zero : IsWhole ['0'] where
  digits := List.forall_mem_singleton.mpr rfl
  ne_nil := List.cons_ne_nil _ _
  plain := fun _ => rfl

theorem isWhole_digits_append {significand : Nat} (hsignificand : significand ≠ 0) (count : Nat) :
    IsWhole (digits significand ++ zeros count) where
  digits := by
    intro c hc
    rcases List.mem_append.mp hc with hdigit | hzero
    · exact isDigit_of_mem_digits hdigit
    · exact isDigit_of_mem_zeros hzero
  ne_nil := by simp [digits_ne_nil]
  plain := by
    obtain ⟨c, cs, hcs⟩ := List.exists_cons_of_ne_nil (digits_ne_nil significand)
    have hhead := head?_digits hsignificand
    rw [hcs] at hhead ⊢
    exact fun hzero => absurd hzero hhead

theorem isWhole_take {significand : Nat} (hsignificand : significand ≠ 0) {count : Nat}
    (hcount : 0 < count) : IsWhole ((digits significand).take count) where
  digits := fun c hc => isDigit_of_mem_digits (List.mem_of_mem_take hc)
  ne_nil := by simp [digits_ne_nil, hcount.ne']
  plain := by
    intro hzero
    rw [List.head?_take, if_neg hcount.ne'] at hzero
    exact absurd hzero (head?_digits hsignificand)

/-- A numeral of a floating-point number has the value of a decimal, perhaps with
more zeros, and few digits before the point. -/
structure Numeral.Spells (n : Numeral) (negative : Bool) (significand : Nat) (exponent : Int) :
    Prop where
  sign : n.negative = negative
  isWhole : IsWhole n.whole
  short : n.whole.length ≤ 16
  isReal : n.fraction ≠ [] ∨ n.exponent.isSome = true
  value : ∃ zeros : Nat, digitsValue (n.whole ++ n.fraction) = significand * 10 ^ zeros ∧
    n.power = exponent - zeros

/-- A text is read as such a numeral, whatever follows it. -/
def Prints (negative : Bool) (text : List Char) (significand : Nat) (exponent : Int) : Prop :=
  ∃ n : Numeral, n.Spells negative significand exponent ∧
    ∀ rest, EndsNumber rest → readNumber (sign negative ++ (text ++ rest)) = some (n, rest)

section Layouts

variable {significand : Nat} {point exponent : Int}

/-- Digits on both sides of a point. Those after it are as many as the exponent asks for,
and as many more as the value has zeros. -/
theorem prints_point (hwhole : IsWhole whole) (hshort : whole.length ≤ 16)
    (hdigits : ∀ c ∈ fraction, c.isDigit = true) (hne : fraction ≠ []) (places : Nat)
    (hvalue : digitsValue (whole ++ fraction) = significand * 10 ^ places)
    (hlength : (fraction.length : Int) = places - exponent) :
    Prints negative (whole ++ '.' :: fraction) significand exponent := by
  have hpower : (none : Option Int).getD 0 - (fraction.length : Int) = exponent - places := by
    rw [Option.getD_none]
    omega
  refine ⟨⟨negative, whole, fraction, none⟩, ?_, ?_⟩
  · exact ⟨rfl, hwhole, hshort, .inl hne, places, hvalue, hpower⟩
  · intro rest hrest
    have hfraction := readFraction_point hdigits hne fun c hc => (hrest c hc).1
    simpa using readNumber_parts hwhole (by simp) hfraction (readExponent_none hrest)

/-- All digits stand after the point, and zeros before them. -/
theorem prints_below (hpoint : point = (digits significand).length + exponent)
    (hbelow : point ≤ 0) :
    Prints negative ('0' :: '.' :: zeros (-point).toNat ++ digits significand)
      significand exponent := by
  have hdigits : ∀ c ∈ zeros (-point).toNat ++ digits significand, c.isDigit = true := by
    intro c hc
    rcases List.mem_append.mp hc with hzero | hdigit
    · exact isDigit_of_mem_zeros hzero
    · exact isDigit_of_mem_digits hdigit
  have hne : zeros (-point).toNat ++ digits significand ≠ [] := by simp [digits_ne_nil]
  have hvalue : digitsValue (['0'] ++ (zeros (-point).toNat ++ digits significand)) =
      significand * 10 ^ 0 := by
    simp only [Text.digitsValue_append, Nat.pow_eq, digitsValue_digits, digitsValue_zeros]
    simp [digitsValue]
  have hlength : ((zeros (-point).toNat ++ digits significand).length : Int) =
      (0 : Nat) - exponent := by
    rw [List.length_append, length_zeros]
    omega
  exact prints_point isWhole_zero (by simp) hdigits hne 0 hvalue hlength

/-- The number is whole, and is written with one zero after the point. -/
theorem prints_integer (hsignificand : significand ≠ 0)
    (hpoint : point = (digits significand).length + exponent) (hshort : point ≤ 16)
    (hexponent : 0 ≤ exponent) :
    Prints negative (digits significand ++ zeros exponent.toNat ++ ['.', '0'])
      significand exponent := by
  have hlength : (digits significand ++ zeros exponent.toNat).length ≤ 16 := by
    rw [List.length_append, length_zeros]
    omega
  have hvalue : digitsValue (digits significand ++ zeros exponent.toNat ++ ['0']) =
      significand * 10 ^ (exponent.toNat + 1) := by
    simp only [Text.digitsValue_append, Nat.pow_eq, digitsValue_digits, digitsValue_zeros,
      length_zeros, List.length_singleton]
    simp [digitsValue]
    ring
  refine prints_point (isWhole_digits_append hsignificand _) hlength isWhole_zero.digits
    isWhole_zero.ne_nil (exponent.toNat + 1) hvalue ?_
  rw [List.length_singleton]
  omega

/-- The point stands between the digits. -/
theorem prints_split (hsignificand : significand ≠ 0)
    (hpoint : point = (digits significand).length + exponent) (hshort : point ≤ 16)
    (habove : 0 < point) (hbelow : exponent < 0) :
    Prints negative ((digits significand).take point.toNat ++
      '.' :: (digits significand).drop point.toNat) significand exponent := by
  have hlength : ((digits significand).take point.toNat).length ≤ 16 := by
    have htake := List.length_take_le point.toNat (digits significand)
    omega
  have hne : (digits significand).drop point.toNat ≠ [] := by
    rw [ne_eq, List.drop_eq_nil_iff]
    omega
  have hvalue : digitsValue ((digits significand).take point.toNat ++
      (digits significand).drop point.toNat) = significand * 10 ^ 0 := by
    rw [List.take_append_drop, digitsValue_digits, Nat.pow_zero, Nat.mul_one]
  refine prints_point (isWhole_take hsignificand (by omega)) hlength
    (fun c hc => isDigit_of_mem_digits (List.mem_of_mem_drop hc)) hne 0 hvalue ?_
  rw [List.length_drop]
  omega

/-- One digit stands before the point, and the exponent makes up for it. -/
theorem prints_scientific (hsignificand : significand ≠ 0) {first : Int}
    (hfirst : first = (digits significand).length + exponent - 1) :
    Prints negative ((digits significand).take 1 ++
      (if (digits significand).length = 1 then [] else '.' :: (digits significand).drop 1) ++
      'e' :: (if first < 0 then '-' else '+') :: digits first.natAbs) significand exponent := by
  have hlength : 0 < (digits significand).length :=
    List.length_pos_iff.mpr (digits_ne_nil significand)
  have hwhole := isWhole_take hsignificand Nat.one_pos
  have hshort : ((digits significand).take 1).length ≤ 16 := by
    have htake := List.length_take_le 1 (digits significand)
    omega
  have hvalue : digitsValue ((digits significand).take 1 ++ (digits significand).drop 1) =
      significand * 10 ^ 0 := by
    rw [List.take_append_drop, digitsValue_digits, Nat.pow_zero, Nat.mul_one]
  have hpower : (some first).getD 0 - ((digits significand).drop 1).length =
      exponent - (0 : Nat) := by
    rw [Option.getD_some, List.length_drop]
    omega
  refine ⟨⟨negative, (digits significand).take 1, (digits significand).drop 1, some first⟩,
    ⟨rfl, hwhole, hshort, .inr rfl, 0, hvalue, hpower⟩, ?_⟩
  intro rest hrest
  have hexponent := readExponent_digits first fun c hc => (hrest c hc).1
  generalize (if first < 0 then '-' else '+') = mark at hexponent ⊢
  by_cases hone : (digits significand).length = 1
  · have hdrop : (digits significand).drop 1 = [] := List.drop_eq_nil_iff.mpr hone.le
    have hfraction : readFraction ('e' :: mark :: (digits first.natAbs ++ rest)) =
        some ((digits significand).drop 1, 'e' :: mark :: (digits first.natAbs ++ rest)) := by
      rw [hdrop]
      exact readFraction_none (by simp)
    simpa [hone] using readNumber_parts hwhole (by simp) hfraction hexponent
  · have hne : (digits significand).drop 1 ≠ [] := by
      rw [ne_eq, List.drop_eq_nil_iff]
      omega
    have hend : ∀ c ∈ ('e' :: mark :: (digits first.natAbs ++ rest)).head?, c.isDigit = false := by
      simp
    have hfraction := readFraction_point
      (fun c hc => isDigit_of_mem_digits (List.mem_of_mem_drop hc)) hne hend
    simpa [hone] using readNumber_parts hwhole (by simp) hfraction hexponent

/-- A printed decimal is read as a numeral of that decimal. -/
theorem prints_decimalText (hsignificand : significand ≠ 0) :
    Prints negative (decimalText realLayout significand exponent) significand exponent := by
  unfold decimalText
  dsimp only
  split
  · rename_i hpositional
    have hshort : (digits significand).length + exponent ≤ 16 := by
      have hgreatest : realLayout.greatest = 15 := rfl
      omega
    split_ifs with hbelow hinteger
    · exact prints_below rfl hbelow
    · exact prints_integer hsignificand rfl hshort hinteger
    · exact prints_split hsignificand rfl hshort (by omega) (by omega)
  · exact prints_scientific hsignificand rfl

end Layouts

variable {x : Binary64}

theorem eq_zero_of_significand (hx : x.significand = 0) : x = Binary64.zero x.negative := by
  obtain ⟨negative, significand, scale, hlt, hle, hnormal⟩ := x
  subst hx
  have hscale : scale = 0 := hnormal.resolve_right (by decide)
  subst hscale
  rfl

theorem realText_eq (x : Binary64) :
    realText x = sign x.negative ++ (if x.significand = 0 then ['0', '.', '0']
      else decimalText realLayout x.shortest.1 x.shortest.2) := by
  unfold realText sign
  split_ifs <;> rfl

theorem intText_eq (n : Int) : intText n = sign (decide (n < 0)) ++ digits n.natAbs := by
  unfold intText sign
  by_cases hnegative : n < 0 <;> simp [hnegative]

/-- What is read where a floating-point number was printed: a numeral to which that
number is the nearest one, and which has no digits but zeros only if the number is
zero. -/
structure Numeral.Denotes (n : Numeral) (x : Binary64) : Prop where
  isWhole : IsWhole n.whole
  short : n.whole.length ≤ 16
  isReal : n.fraction ≠ [] ∨ n.exponent.isSome = true
  nearest : n.nearest? = some x
  zero : x.significand = 0 → digitsValue (n.whole ++ n.fraction) = 0

theorem Numeral.Spells.denotes {n : Numeral} {significand : Nat} {exponent : Int}
    (h : n.Spells x.negative significand exponent)
    (hvalue : Binary64.ofDecimal? x.negative significand exponent = some x)
    (hzero : x.significand = 0 → significand = 0) : n.Denotes x := by
  obtain ⟨zeros, hdigits, hpower⟩ := h.value
  refine ⟨h.isWhole, h.short, h.isReal, ?_, ?_⟩
  · rw [Numeral.nearest?, hdigits, hpower, h.sign]
    by_cases hx : x.significand = 0
    · rw [hzero hx] at hvalue ⊢
      rw [Nat.zero_mul]
      exact hvalue
    · exact (Binary64.ofDecimal?_zeros hx zeros).mpr hvalue
  · intro hx
    rw [hdigits, hzero hx, Nat.zero_mul]

/-- A printed floating-point number is read as a numeral of it, and always as the same
one. -/
theorem exists_readNumber_realText (x : Binary64) :
    ∃ n : Numeral, n.Denotes x ∧
      ∀ rest, EndsNumber rest → readNumber (realText x ++ rest) = some (n, rest) := by
  rw [realText_eq]
  by_cases hx : x.significand = 0
  · have hvalue : Binary64.ofDecimal? x.negative 0 0 = some x := by
      rw [eq_zero_of_significand hx]
      rfl
    obtain ⟨n, hspells, hread⟩ : Prints x.negative ['0', '.', '0'] 0 0 :=
      prints_point isWhole_zero (by simp) isWhole_zero.digits isWhole_zero.ne_nil 1 rfl rfl
    refine ⟨n, hspells.denotes hvalue fun _ => rfl, fun rest hrest => ?_⟩
    rw [if_pos hx, List.append_assoc]
    exact hread rest hrest
  · have hvalue := Binary64.ofDecimal?_shortest hx
    obtain ⟨n, hspells, hread⟩ : Prints x.negative
        (decimalText realLayout x.shortest.1 x.shortest.2) x.shortest.1 x.shortest.2 :=
      prints_decimalText (Binary64.digits_ne_zero hx hvalue)
    refine ⟨n, hspells.denotes hvalue fun hzero => absurd hzero hx, fun rest hrest => ?_⟩
    rw [if_neg hx, List.append_assoc]
    exact hread rest hrest

/-- What a reader makes of the text of a floating-point number. -/
def reread? (real : Numeral → Option Binary64) (x : Binary64) : Option Binary64 := do
  let (n, _) ← readNumber (realText x)
  real n

theorem exists_reread?_eq (x : Binary64) :
    ∃ n : Numeral, n.Denotes x ∧ (∀ real, reread? real x = real n) ∧
      ∀ rest, EndsNumber rest → readNumber (realText x ++ rest) = some (n, rest) := by
  obtain ⟨n, hdenotes, hread⟩ := exists_readNumber_realText x
  have halone := hread [] (by simp [EndsNumber])
  rw [List.append_nil] at halone
  refine ⟨n, hdenotes, fun real => ?_, hread⟩
  rw [reread?, halone, Option.bind_eq_bind, Option.bind_some]

/-- The nearest number to what is printed is the one that was printed. -/
theorem reread?_nearest? (x : Binary64) : reread? Numeral.nearest? x = some x := by
  obtain ⟨n, hdenotes, hreread, -⟩ := exists_reread?_eq x
  rw [hreread, hdenotes.nearest]

theorem Numeral.Denotes.number?_eq {n : Numeral} (h : n.Denotes x)
    (real : Numeral → Option Binary64) : n.number? real = (real n).map .real := by
  have hwhole : (n.fraction.isEmpty && n.exponent.isNone) = false := by
    rcases h.isReal with hfraction | hexponent
    · simp [hfraction]
    · simp [Option.isNone_eq_false_iff.mpr hexponent]
  simp [Numeral.number?, hwhole]

/-- A printed whole number is read as a numeral of it, whatever reads the
floating-point numbers. -/
theorem exists_readNumber_intText {m : Int} (hfits : Number.fits m = true) :
    ∃ n : Numeral, (∀ real, n.number? real = some (.int m)) ∧
      ∀ rest, EndsNumber rest → readNumber (intText m ++ rest) = some (n, rest) := by
  have hwhole : IsWhole (digits m.natAbs) := by
    by_cases hzero : m.natAbs = 0
    · rw [hzero]
      exact isWhole_zero
    · simpa [zeros] using isWhole_digits_append hzero 0
  have hsigned : (if m < 0 then -(m.natAbs : Int) else m.natAbs) = m := by
    split_ifs <;> omega
  have hzero : (decide (m < 0) && m.natAbs == 0) = false := by
    rw [Bool.and_eq_false_iff, decide_eq_false_iff_not, beq_eq_false_iff_ne]
    omega
  refine ⟨⟨decide (m < 0), digits m.natAbs, [], none⟩, fun real => ?_, fun rest hrest => ?_⟩
  · simp only [Numeral.number?, digitsValue_digits, decide_eq_true_eq, hsigned, hfits, hzero,
      List.isEmpty_nil, Option.isNone_none, Bool.and_true, Bool.not_false, if_true]
  · have hfraction : readFraction rest = some ([], rest) :=
      readFraction_none fun hpoint => (hrest '.' hpoint).2.1 rfl
    rw [intText_eq, List.append_assoc]
    exact readNumber_parts hwhole (fun c hc => (hrest c hc).1) hfraction (readExponent_none hrest)

end Json

end PageHarvest
