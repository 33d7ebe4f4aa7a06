/-!
Cutting a text at a number of bytes. Where that number falls inside a character, the
cut goes back byte by byte to where the character begins. Whether a character begins
at a byte is seen from this byte alone, and the start of a text is always a place to
cut at, so the way back ends before it would lead below zero.
-/

namespace PageHarvest.Text

/-- True of the bytes that go on with a character. All others begin one. -/
def isContinuation (b : UInt8) : Bool := 0x80 ≤ b && b < 0xC0

/-- Whether a position in bytes is the start of a text, the end of it, or one where a
character begins. -/
def isBoundary (text : String) (position : Nat) : Bool :=
  if position = 0 then true
  else if h : position < text.utf8ByteSize then !isContinuation (text.getUTF8Byte ⟨position⟩ h)
  else position == text.utf8ByteSize

theorem isContinuation_ofNat_tail (n : Nat) : isContinuation (.ofNat (n % 64 + 0x80)) = true := by
  have hbyte : (UInt8.ofNat (n % 64 + 0x80)).toNat = n % 64 + 0x80 :=
    UInt8.toNat_ofNat_of_lt' (show n % 64 + 0x80 < 256 by omega)
  simp only [isContinuation, Bool.and_eq_true, decide_eq_true_eq, UInt8.le_iff_toNat_le,
    UInt8.lt_iff_toNat_lt, hbyte, UInt8.reduceToNat]
  omega

theorem isContinuation_ofNat_lead {n : Nat} (hbyte : n < 256) (hlead : n < 0x80 ∨ 0xC0 ≤ n) :
    isContinuation (.ofNat n) = false := by
  have hnat : (UInt8.ofNat n).toNat = n := UInt8.toNat_ofNat_of_lt' hbyte
  simp only [isContinuation, Bool.and_eq_false_iff, decide_eq_false_iff_not,
    UInt8.le_iff_toNat_le, UInt8.lt_iff_toNat_lt, hnat, UInt8.reduceToNat]
  omega

/-- Of the bytes of a character all but the first go on with it. -/
theorem encodeChar_eq_cons (c : Char) :
    ∃ first tail, String.utf8EncodeChar c = first :: tail ∧ isContinuation first = false ∧
      ∀ b ∈ tail, isContinuation b = true := by
  fun_cases String.utf8EncodeChar c <;>
    refine ⟨_, _, rfl, isContinuation_ofNat_lead (by omega) (by omega), ?_⟩ <;>
    simp only [List.forall_mem_cons, List.not_mem_nil, false_implies, implies_true,
      isContinuation_ofNat_tail, and_self]

theorem isContinuation_encodeChar (c : Char) {i : Nat}
    (h : i < (String.utf8EncodeChar c).length) :
    isContinuation (String.utf8EncodeChar c)[i] = false ↔ i = 0 := by
  obtain ⟨first, tail, hbytes, hfirst, htail⟩ := encodeChar_eq_cons c
  simp only [hbytes] at h ⊢
  cases i with
  | zero => simp [hfirst]
  | succ i => simp [htail _ (List.getElem_mem _)]

theorem isValid_ofList_cons (c : Char) (cs : List Char) (position : Nat) :
    String.Pos.Raw.IsValid (String.ofList (c :: cs)) ⟨position⟩ ↔
      position = 0 ∨ c.utf8Size ≤ position ∧
        String.Pos.Raw.IsValid (String.ofList cs) ⟨position - c.utf8Size⟩ := by
  have hsplit : String.ofList (c :: cs) = String.singleton c ++ String.ofList cs := by simp
  have hrest : (⟨position⟩ : String.Pos.Raw) - String.singleton c = ⟨position - c.utf8Size⟩ := by
    simp [String.Pos.Raw.ext_iff]
  rw [hsplit, String.Pos.Raw.isValid_append, String.Pos.Raw.isValid_singleton, hrest]
  simp only [String.Pos.Raw.ext_iff, String.Pos.Raw.byteIdx_zero, String.Pos.Raw.le_iff,
    String.byteIdx_rawEndPos, String.utf8ByteSize_singleton]
  constructor
  · rintro ((hzero | hsize) | hbehind)
    · exact .inl hzero
    · subst hsize
      refine .inr ⟨Nat.le_refl _, ?_⟩
      rw [Nat.sub_self]
      exact String.Pos.Raw.isValid_zero
    · exact .inr hbehind
  · rintro (hzero | hbehind)
    · exact .inl (.inl hzero)
    · exact .inr hbehind

/-- A byte begins a character of a text if a cut before it leaves whole characters. -/
theorem isContinuation_getElem_iff (cs : List Char) {position : Nat}
    (h : position < (String.ofList cs).toByteArray.size) :
    isContinuation (String.ofList cs).toByteArray[position] = false ↔
      String.Pos.Raw.IsValid (String.ofList cs) ⟨position⟩ := by
  induction cs generalizing position with
  | nil => simp at h
  | cons c cs ih =>
      have hpos := c.utf8Size_pos
      have hbytes : (String.ofList (c :: cs)).toByteArray =
          (String.utf8EncodeChar c).toByteArray ++ (String.ofList cs).toByteArray := by
        rw [String.toByteArray_ofList, String.toByteArray_ofList, List.utf8Encode_cons,
          List.utf8Encode_singleton]
      have hsize : (String.utf8EncodeChar c).toByteArray.size = c.utf8Size := by simp
      rw [isValid_ofList_cons]
      simp only [hbytes] at h ⊢
      -- The byte is one of the first character, or one of the text behind it.
      by_cases hfirst : position < c.utf8Size
      · rw [ByteArray.getElem_append_left (by rwa [hsize]), List.getElem_toByteArray,
          isContinuation_encodeChar]
        omega
      · have hle := Nat.le_of_not_lt hfirst
        have hne : position ≠ 0 := by omega
        rw [ByteArray.getElem_append_right (by rwa [hsize]), ih]
        simp only [hsize, hle, hne, false_or, true_and]

theorem isBoundary_iff_isValid {text : String} {position : Nat} :
    isBoundary text position = true ↔ String.Pos.Raw.IsValid text ⟨position⟩ := by
  obtain ⟨cs, rfl⟩ := text.exists_eq_ofList
  unfold isBoundary
  split
  · rename_i hzero
    subst hzero
    simp only [true_iff]
    exact String.Pos.Raw.isValid_zero
  split
  · rename_i hwithin
    rw [Bool.not_eq_true']
    exact isContinuation_getElem_iff cs hwithin
  · rename_i hend
    rw [beq_iff_eq]
    constructor
    · rintro rfl
      exact String.Pos.Raw.isValid_rawEndPos
    · intro hvalid
      exact Nat.le_antisymm hvalid.le_utf8ByteSize (Nat.le_of_not_lt hend)

/-- The first boundary on the way back from a position, byte by byte; nothing if the
way leads below zero. -/
def lastBoundary? (text : String) (position : Nat) : Option text.Pos :=
  if h : isBoundary text position = true then some ⟨⟨position⟩, isBoundary_iff_isValid.mp h⟩
  else
    match position with
    | 0 => none
    | previous + 1 => lastBoundary? text previous

theorem lastBoundary?_isSome (text : String) (position : Nat) :
    (lastBoundary? text position).isSome = true := by
  induction position with
  -- The start of a text is a boundary, whatever byte stands there.
  | zero => rfl
  | succ previous ih =>
      unfold lastBoundary?
      split
      · rfl
      · exact ih

/-- The beginning of a text up to the last boundary that is not behind `limit` bytes. -/
def truncate (text : String) (limit : Nat) : String :=
  if text.utf8ByteSize ≤ limit then text
  else (text.sliceTo ((lastBoundary? text limit).get (lastBoundary?_isSome text limit))).copy

end PageHarvest.Text
