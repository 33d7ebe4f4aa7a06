import PageHarvest.Proofs.Text.Utf8
import PageHarvest.Text.Word
import PageHarvest.Url

/-!
Query parameters as a server reads them: the query is cut at ampersands, each piece
that is not empty at its first equals sign, and both sides are decoded. Parameters
that are added to a query are read after those that it had, and as they were given:
no character of a name or value is left to be taken for a mark of the form.
-/

namespace PageHarvest.Text

/-- Decoding: a plus sign is a blank, and a percent sign with two hexadecimal digits is
a byte. -/
def formBytes (bytes : List UInt8) : List UInt8 :=
  percentDecode (bytes.map fun b => if b = 0x2B then 0x20 else b)

def formText (bytes : List UInt8) : String := String.ofList (utf8CharsLenient (formBytes bytes))

def formParameter (piece : List UInt8) : String × String :=
  (formText (piece.takeWhile (· != 0x3D)), formText ((piece.dropWhile (· != 0x3D)).drop 1))

def formParameters (bytes : List UInt8) : List (String × String) :=
  ((split 0x26 bytes).filter fun piece => !piece.isEmpty).map formParameter

def queryParameters (query : String) : List (String × String) :=
  formParameters (utf8Bytes query.toList)

theorem utf8Bytes_append (cs ds : List Char) : utf8Bytes (cs ++ ds) = utf8Bytes cs ++ utf8Bytes ds :=
  List.flatMap_append

def hexByte (n : Nat) : UInt8 := .ofNat (upperHexDigit n).toNat

/-- True of the bytes that mean something in a form. -/
def isFormMark (b : UInt8) : Bool := b = 0x25 || b = 0x26 || b = 0x2B || b = 0x3D

theorem utf8EncodeChar_upperHexDigit :
    ∀ n < 16, String.utf8EncodeChar (upperHexDigit n) = [hexByte n] := by
  decide

theorem hexDigit?_hexByte : ∀ n < 16, hexDigit? (hexByte n) = some n := by
  decide

theorem isFormMark_hexByte : ∀ n < 16, isFormMark (hexByte n) = false := by
  decide

theorem utf8Bytes_percentByte (b : UInt8) :
    utf8Bytes (percentByte b) = [0x25, hexByte (b.toNat / 16), hexByte (b.toNat % 16)] := by
  have hb := b.toNat_lt
  have hhigh := utf8EncodeChar_upperHexDigit (b.toNat / 16) (by omega)
  have hlow := utf8EncodeChar_upperHexDigit (b.toNat % 16) (by omega)
  have hpercent : String.utf8EncodeChar '%' = [0x25] := by decide
  simp only [percentByte, utf8Bytes, List.flatMap_cons, List.flatMap_nil, hhigh, hlow, hpercent]
  rfl

theorem isFormSafe_bounds {c : Char} (h : isFormSafe c = true) :
    c.toNat < 0x80 ∧ c.toNat ≠ 0x25 ∧ c.toNat ≠ 0x26 ∧ c.toNat ≠ 0x2B ∧ c.toNat ≠ 0x3D := by
  simp only [isFormSafe, Bool.or_eq_true, beq_iff_eq] at h
  rcases h with (((h | rfl) | rfl) | rfl) | rfl
  · have hbounds := isAlphanum_bounds h
    omega
  all_goals decide

/-- What is written for a character: a byte that stands for itself, a plus sign for the
blank, or all bytes of the character in percent encoding. -/
theorem utf8Bytes_formEncode_singleton (c : Char) :
    (∃ b, utf8Bytes (formEncode [c]) = [b] ∧ String.utf8EncodeChar c = [b] ∧ isFormMark b = false) ∨
      (utf8Bytes (formEncode [c]) = [0x2B] ∧ String.utf8EncodeChar c = [0x20]) ∨
      utf8Bytes (formEncode [c]) = (String.utf8EncodeChar c).flatMap fun b =>
        [0x25, hexByte (b.toNat / 16), hexByte (b.toNat % 16)] := by
  by_cases hsafe : isFormSafe c = true
  · left
    obtain ⟨hlow, hmarks⟩ := isFormSafe_bounds hsafe
    have hencode : String.utf8EncodeChar c = [.ofNat c.toNat] := by
      rw [utf8EncodeChar_eq, if_pos (by omega)]
    have hbyte : (UInt8.ofNat c.toNat).toNat = c.toNat :=
      UInt8.toNat_ofNat_of_lt' (show c.toNat < 256 by omega)
    refine ⟨.ofNat c.toNat, ?_, hencode, ?_⟩
    · simp [formEncode, hsafe, utf8Bytes, hencode]
    · simp only [isFormMark, Bool.or_eq_false_iff, decide_eq_false_iff_not, ← UInt8.toNat_inj, hbyte,
        UInt8.reduceToNat]
      omega
  · right
    by_cases hblank : c = ' '
    · subst hblank
      exact .inl (by decide)
    · right
      have hwritten : formEncode [c] = (String.utf8EncodeChar c).flatMap percentByte := by
        simp [formEncode, hsafe, hblank]
      rw [hwritten, utf8Bytes, List.flatMap_assoc]
      exact congrArg (List.flatMap · _) (funext utf8Bytes_percentByte)

theorem formEncode_cons (c : Char) (cs : List Char) :
    formEncode (c :: cs) = formEncode [c] ++ formEncode cs := by
  simp [formEncode]

/-- No byte that is written for a text ends a name or a parameter. -/
theorem not_mem_formEncode {b : UInt8} (hb : b = 0x26 ∨ b = 0x3D) (cs : List Char) :
    b ∉ utf8Bytes (formEncode cs) := by
  have hmark : isFormMark b = true := by rcases hb with rfl | rfl <;> rfl
  induction cs with
  | nil => simp [formEncode, utf8Bytes]
  | cons c cs ih =>
      rw [formEncode_cons, utf8Bytes_append, List.mem_append, not_or]
      refine ⟨?_, ih⟩
      rcases utf8Bytes_formEncode_singleton c with ⟨d, hd, -, hplain⟩ | ⟨hd, -⟩ | hd
      · rw [hd, List.mem_singleton]
        rintro rfl
        rw [hplain] at hmark
        cases hmark
      · rw [hd, List.mem_singleton]
        rcases hb with rfl | rfl <;> decide
      · rw [hd, List.mem_flatMap]
        rintro ⟨d, -, hmem⟩
        have hlt := d.toNat_lt
        have hhigh := isFormMark_hexByte (d.toNat / 16) (by omega)
        have hlow := isFormMark_hexByte (d.toNat % 16) (by omega)
        simp only [List.mem_cons, List.not_mem_nil, or_false] at hmem
        rcases hmem with rfl | rfl | rfl
        · rcases hb with h | h <;> cases h
        · rw [hhigh] at hmark
          cases hmark
        · rw [hlow] at hmark
          cases hmark

theorem percentDecode_of_ne {b : UInt8} (h : b ≠ 0x25) (rest : List UInt8) :
    percentDecode (b :: rest) = b :: percentDecode rest := by
  have hb : (b == 0x25) = false := by simpa using h
  rw [percentDecode.eq_def]
  simp only [hb]

theorem percentDecode_hexByte (b : UInt8) (rest : List UInt8) :
    percentDecode (0x25 :: hexByte (b.toNat / 16) :: hexByte (b.toNat % 16) :: rest) =
      b :: percentDecode rest := by
  have hb := b.toNat_lt
  have hhigh := hexDigit?_hexByte (b.toNat / 16) (by omega)
  have hlow := hexDigit?_hexByte (b.toNat % 16) (by omega)
  have hvalue : 16 * (b.toNat / 16) + b.toNat % 16 = b.toNat := by omega
  rw [percentDecode.eq_def]
  simp only [beq_self_eq_true, hhigh, hlow, hvalue, UInt8.ofNat_toNat]

theorem formBytes_of_plain {b : UInt8} (h : isFormMark b = false) (rest : List UInt8) :
    formBytes (b :: rest) = b :: formBytes rest := by
  simp only [isFormMark, Bool.or_eq_false_iff, decide_eq_false_iff_not] at h
  obtain ⟨⟨⟨hpercent, -⟩, hplus⟩, -⟩ := h
  rw [formBytes, List.map_cons, if_neg hplus, percentDecode_of_ne hpercent]
  rfl

theorem formBytes_plus (rest : List UInt8) : formBytes (0x2B :: rest) = 0x20 :: formBytes rest := by
  rw [formBytes, List.map_cons, if_pos rfl, percentDecode_of_ne (by decide)]
  rfl

theorem formBytes_percent (b : UInt8) (rest : List UInt8) :
    formBytes (0x25 :: hexByte (b.toNat / 16) :: hexByte (b.toNat % 16) :: rest) =
      b :: formBytes rest := by
  have hplus : ∀ n < 16, hexByte n ≠ 0x2B := by decide
  have hb := b.toNat_lt
  rw [formBytes, List.map_cons, List.map_cons, List.map_cons, if_neg (by decide),
    if_neg (hplus _ (by omega)), if_neg (hplus _ (by omega)), percentDecode_hexByte]
  rfl

theorem formBytes_formEncode_singleton (c : Char) (rest : List UInt8) :
    formBytes (utf8Bytes (formEncode [c]) ++ rest) = String.utf8EncodeChar c ++ formBytes rest := by
  rcases utf8Bytes_formEncode_singleton c with ⟨b, hwritten, hchar, hplain⟩ | ⟨hwritten, hchar⟩ |
    hwritten
  · rw [hwritten, hchar]
    exact formBytes_of_plain hplain rest
  · rw [hwritten, hchar]
    exact formBytes_plus rest
  · rw [hwritten]
    induction String.utf8EncodeChar c with
    | nil => rfl
    | cons b bytes ih =>
        rw [List.flatMap_cons, List.append_assoc]
        exact (formBytes_percent b _).trans (congrArg (b :: ·) ih)

/-- A text is read as it was before it was written. -/
theorem formText_formEncode (cs : List Char) :
    formText (utf8Bytes (formEncode cs)) = String.ofList cs := by
  have hbytes : formBytes (utf8Bytes (formEncode cs)) = utf8Bytes cs := by
    induction cs with
    | nil => rfl
    | cons c cs ih =>
        rw [formEncode_cons, utf8Bytes_append, formBytes_formEncode_singleton, ih]
        rfl
  rw [formText, hbytes, utf8CharsLenient_utf8Bytes]

theorem utf8Bytes_formPair (name value : String) :
    utf8Bytes (formPair name value) =
      utf8Bytes (formEncode name.toList) ++ 0x3D :: utf8Bytes (formEncode value.toList) := by
  rw [formPair, utf8Bytes_append]
  rfl

theorem formParameter_formPair (name value : String) :
    formParameter (utf8Bytes (formPair name value)) = (name, value) := by
  have hname : ∀ b ∈ utf8Bytes (formEncode name.toList), (b != 0x3D) = true := by
    intro b hb
    rw [bne_iff_ne]
    rintro rfl
    exact not_mem_formEncode (.inr rfl) name.toList hb
  rw [utf8Bytes_formPair, formParameter, List.takeWhile_append_of_pos hname,
    List.dropWhile_append_of_pos hname]
  simp [formText_formEncode]

theorem not_mem_formPair (name value : String) : 0x26 ∉ utf8Bytes (formPair name value) := by
  rw [utf8Bytes_formPair]
  simp [not_mem_formEncode]

theorem formParameters_formPair (name value : String) :
    formParameters (utf8Bytes (formPair name value)) = [(name, value)] := by
  rw [formParameters, split_of_not_mem _ _ (not_mem_formPair name value)]
  have hne : (utf8Bytes (formPair name value)).isEmpty = false := by
    rw [utf8Bytes_formPair]
    simp
  simp [hne, formParameter_formPair]

theorem formParameters_append (bytes rest : List UInt8) :
    formParameters (bytes ++ 0x26 :: rest) = formParameters bytes ++ formParameters rest := by
  rw [formParameters, split_append, List.filter_append, List.map_append]
  rfl

/-- Parameters that are added to a query are read after those that it had. -/
theorem queryParameters_appendPairs (query : List Char) (pairs : List (String × String)) :
    queryParameters (String.ofList (Url.appendPairs query pairs)) =
      queryParameters (String.ofList query) ++ pairs := by
  simp only [queryParameters, String.toList_ofList]
  induction pairs generalizing query with
  | nil => simp [Url.appendPairs]
  | cons pair rest ih =>
      obtain ⟨name, value⟩ := pair
      rw [Url.appendPairs, ih]
      cases query with
      | nil =>
          change formParameters (utf8Bytes (formPair name value)) ++ rest = _
          rw [formParameters_formPair]
          rfl
      | cons c query =>
          have hstart : utf8Bytes (c :: query ++ ['&'] ++ formPair name value) =
              utf8Bytes (c :: query) ++ 0x26 :: utf8Bytes (formPair name value) := by
            rw [List.append_assoc, utf8Bytes_append]
            rfl
          rw [List.isEmpty_cons, if_neg Bool.false_ne_true, hstart, formParameters_append,
            formParameters_formPair, List.append_assoc]
          rfl

end PageHarvest.Text
