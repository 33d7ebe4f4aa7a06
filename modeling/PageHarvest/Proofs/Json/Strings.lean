import Mathlib.Tactic.SplitIfs
import PageHarvest.Json.Document
import PageHarvest.Json.Printer

/-!
Strings that are printed and read again. The reader undoes every escape of the
printer, and it finds the closing quote because a quote inside a string is never
printed bare. The members of an object are read one after the other, each up to the
comma or the brace behind its value.
-/

namespace PageHarvest.Json

theorem readPieces_short {letter c : Char} (hletter : letter ≠ 'u')
    (h : shortEscape? letter = some c) (rest : List Char) :
    readPieces ('\\' :: letter :: rest) =
      (readPieces rest).map fun (pieces, after) => (.char c :: pieces, after) := by
  rw [readPieces.eq_def]
  cases hrest : readPieces rest <;> simp [h, hrest, hletter]

theorem readPieces_code {a b : Char} {code : Nat} (h : hexQuad? '0' '0' a b = some code)
    (rest : List Char) :
    readPieces ('\\' :: 'u' :: '0' :: '0' :: a :: b :: rest) =
      (readPieces rest).map fun (pieces, after) => (.ofCode code :: pieces, after) := by
  rw [readPieces.eq_def]
  cases hrest : readPieces rest <;> simp [h, hrest]

theorem readPieces_plain {c : Char} (hquote : c ≠ '"') (hslash : c ≠ '\\')
    (hcontrol : ¬ c.toNat < 0x20) (rest : List Char) :
    readPieces (c :: rest) =
      (readPieces rest).map fun (pieces, after) => (.char c :: pieces, after) := by
  rw [readPieces.eq_def]
  cases hrest : readPieces rest <;> simp [hquote, hslash, hcontrol, hrest]

/-- The four digits that a control character is printed with are its code. -/
theorem hexQuad?_hexDigit :
    ∀ n < 0x20, hexQuad? '0' '0' (hexDigit (n / 16)) (hexDigit (n % 16)) = some n := by
  decide

theorem ofCode_toNat {c : Char} (h : c.toNat < 0x20) : Piece.ofCode c.toNat = .char c := by
  have hlow : ¬ 0xD800 ≤ c.toNat := by omega
  simp [Piece.ofCode, hlow]

/-- A printed character is read back as that character. -/
theorem readPieces_escapeChar (c : Char) (rest : List Char) :
    readPieces (escapeChar c ++ rest) =
      (readPieces rest).map fun (pieces, after) => (.char c :: pieces, after) := by
  unfold escapeChar
  split_ifs with hquote hslash hback htab hline hfeed hreturn hcontrol
  · subst hquote
    exact readPieces_short (by decide) (by decide) rest
  · subst hslash
    exact readPieces_short (by decide) (by decide) rest
  · subst hback
    exact readPieces_short (by decide) (by decide) rest
  · subst htab
    exact readPieces_short (by decide) (by decide) rest
  · subst hline
    exact readPieces_short (by decide) (by decide) rest
  · subst hfeed
    exact readPieces_short (by decide) (by decide) rest
  · subst hreturn
    exact readPieces_short (by decide) (by decide) rest
  · have hcode := readPieces_code (hexQuad?_hexDigit c.toNat hcontrol) rest
    rwa [ofCode_toNat hcontrol] at hcode
  · exact readPieces_plain hquote hslash hcontrol rest

theorem readPieces_flatMap (s rest : List Char) :
    readPieces (s.flatMap escapeChar ++ '"' :: rest) = some (s.map .char, rest) := by
  induction s with
  | nil =>
      rw [readPieces.eq_def]
      simp
  | cons c s ih =>
      rw [List.flatMap_cons, List.append_assoc, readPieces_escapeChar, ih]
      rfl

theorem joinPieces?_map (s : List Char) : joinPieces? (s.map .char) = some s := by
  induction s with
  | nil => rfl
  | cons c s ih => simp [joinPieces?, ih]

/-- A string is read back from its printed form, up to the closing quote. -/
theorem readString_quoted (s : String) (rest : List Char) :
    readString (s.toList.flatMap escapeChar ++ '"' :: rest) = some (some s, rest) := by
  simp [readString, readPieces_flatMap, joinPieces?_map]

theorem readValue_quoted (fuel : Nat) (s : String) (rest : List Char) :
    readValue (fuel + 1) (quoted s ++ rest) = some (.string (some s), rest) := by
  simp [readValue, quoted, skipSpace, isSpace, readString_quoted]

theorem quoted_append (s : String) (rest : List Char) :
    quoted s ++ rest = '"' :: (s.toList.flatMap escapeChar ++ '"' :: rest) := by
  simp [quoted]

theorem readMembers_cons {fuel : Nat} {value after rest : List Char} {document : Document}
    (name : String) (hvalue : readValue fuel value = some (document, after))
    (hafter : skipSpace after = ',' :: rest) :
    readMembers (fuel + 1) (quoted name ++ ':' :: value) =
      (readMembers fuel rest).map fun (members, s) => ((some name, document) :: members, s) := by
  have hquote : ∀ s, skipSpace ('"' :: s) = '"' :: s := fun _ => rfl
  have hcolon : ∀ s, skipSpace (':' :: s) = ':' :: s := fun _ => rfl
  rw [quoted_append]
  cases hrest : readMembers fuel rest <;>
    simp [readMembers, hquote, readString_quoted, hcolon, hvalue, hafter, hrest]

theorem readMembers_last {fuel : Nat} {value after rest : List Char} {document : Document}
    (name : String) (hvalue : readValue fuel value = some (document, after))
    (hafter : skipSpace after = '}' :: rest) :
    readMembers (fuel + 1) (quoted name ++ ':' :: value) =
      some ([(some name, document)], rest) := by
  have hquote : ∀ s, skipSpace ('"' :: s) = '"' :: s := fun _ => rfl
  have hcolon : ∀ s, skipSpace (':' :: s) = ':' :: s := fun _ => rfl
  rw [quoted_append]
  simp [readMembers, hquote, readString_quoted, hcolon, hvalue, hafter]

theorem readValue_object {rest more : List Char} (fuel : Nat)
    (hfirst : skipSpace rest = '"' :: more) :
    readValue (fuel + 1) ('{' :: rest) =
      (readMembers fuel rest).map fun (members, s) => (.object members, s) := by
  have hbrace : skipSpace ('{' :: rest) = '{' :: rest := rfl
  cases hrest : readMembers fuel rest <;> simp [readValue, hbrace, hfirst, hrest]

/-- The bound on the nesting of calls leaves room for the members of an object. -/
theorem parse?_object {rest more : List Char} {members : List (Option String × Document)}
    (hfirst : skipSpace rest = '"' :: more)
    (hmembers : ∀ fuel, readMembers (fuel + 3) rest = some (members, [])) :
    Document.parse? ('{' :: rest) = some (.object members) := by
  have hfuel : 2 * ('{' :: rest).length + 2 = 2 * rest.length + 3 + 1 := by
    rw [List.length_cons]
    omega
  rw [Document.parse?, hfuel, readValue_object _ hfirst, hmembers]
  rfl

end PageHarvest.Json
