import Telemetry.Proofs.Json.Number

/-! Reading back the text of a string: every escape stands for the character it was written for. -/
namespace Telemetry.Json

theorem hexValue_hexDigit {n : Nat} (h : n < 16) : Text.hexValue (Text.hexDigit n) = some n := by
  revert n
  decide

theorem skipSpace_cons {c : Char} (h : isSpace c = false) (cs : List Char) :
    skipSpace (c :: cs) = c :: cs := by
  rw [skipSpace, List.dropWhile_cons_of_neg (by simp [h])]

section Strings

/-- One more code point in front of a reading. -/
private def prepend (n : Nat) (r : Option (List Nat × List Char)) : Option (List Nat × List Char) :=
  r.map fun p => (n :: p.1, p.2)

private theorem readUnits_plain {c : Char} (hquote : c ≠ '"') (hslash : c ≠ '\\') (hsize : ¬c.toNat < 32)
    (rest : List Char) : readUnits (c :: rest) = prepend c.toNat (readUnits rest) := by
  conv_lhs => unfold readUnits
  split
  · simp_all
  · simp_all
  · simp_all
  · simp_all
  · rename_i heq
    obtain ⟨rfl, rfl⟩ := List.cons.inj heq
    rw [if_neg hsize]
    cases readUnits rest <;> rfl

private theorem readUnits_escape {e c : Char} (hu : e ≠ 'u') (h : unescape e = some c) (rest : List Char) :
    readUnits ('\\' :: e :: rest) = prepend c.toNat (readUnits rest) := by
  conv_lhs => unfold readUnits
  split
  · simp_all
  · simp_all
  · simp_all
  · rename_i heq
    obtain ⟨rfl, rfl⟩ := List.cons.inj (List.cons.inj heq).2
    rw [h]
    cases readUnits rest <;> rfl
  · rename_i hslash heq
    obtain ⟨rfl, rfl⟩ := List.cons.inj heq
    exact absurd rfl (hslash e rest rfl)

private theorem readUnits_unicode {n : Nat} (h : n < 256) (rest : List Char) :
    readUnits ('\\' :: 'u' :: '0' :: '0' :: Text.hexDigit (n / 16) :: Text.hexDigit (n % 16) :: rest) =
      prepend n (readUnits rest) := by
  have hunit : hexUnit '0' '0' (Text.hexDigit (n / 16)) (Text.hexDigit (n % 16)) = some n := by
    have hzero : Text.hexValue '0' = some 0 := rfl
    simp only [hexUnit, hzero, hexValue_hexDigit (by omega : n / 16 < 16),
      hexValue_hexDigit (by omega : n % 16 < 16)]
    exact congrArg some (by omega)
  rw [readUnits, hunit]
  cases readUnits rest <;> rfl

private theorem readUnits_escapeChar (c : Char) (rest : List Char) :
    readUnits (escapeChar c ++ rest) = prepend c.toNat (readUnits rest) := by
  unfold escapeChar
  split
  · exact readUnits_escape (by decide) rfl rest
  · exact readUnits_escape (by decide) rfl rest
  · exact readUnits_escape (by decide) rfl rest
  · exact readUnits_escape (by decide) rfl rest
  · exact readUnits_escape (by decide) rfl rest
  · exact readUnits_escape (by decide) rfl rest
  · exact readUnits_escape (by decide) rfl rest
  · split
    · exact readUnits_unicode (by omega) rest
    · exact readUnits_plain ‹_› ‹_› ‹_› rest

/-- The characters of a string are read up to the closing quote. -/
theorem readUnits_text (cs rest : List Char) :
    readUnits (cs.flatMap escapeChar ++ '"' :: rest) = some (cs.map Char.toNat, rest) := by
  induction cs with
  | nil => rw [List.flatMap_nil, List.nil_append, readUnits, List.map_nil]
  | cons c cs ih =>
    rw [List.flatMap_cons, List.append_assoc, readUnits_escapeChar, ih]
    rfl

private theorem char_not_surrogate (c : Char) : isTrailing c.toNat = false ∧ isLeading c.toNat = false := by
  have hvalid : c.toNat < 0xd800 ∨ 0xdfff < c.toNat ∧ c.toNat < 0x110000 := c.valid
  simp only [isTrailing, isLeading, Bool.and_eq_false_iff, decide_eq_false_iff_not]
  omega

/-- Characters are no halves of surrogate pairs, so each stands for itself. -/
theorem joinUnits_map_toNat (cs : List Char) : joinUnits (cs.map Char.toNat) = some cs := by
  induction cs with
  | nil => rfl
  | cons c cs ih =>
    obtain ⟨htrailing, hleading⟩ := char_not_surrogate c
    rw [List.map_cons]
    unfold joinUnits
    rw [htrailing, hleading, ih, Char.ofNat_toNat]
    rfl

theorem unitsText_toList (s : String) : unitsText (s.toList.map Char.toNat) = some s := by
  rw [unitsText, joinUnits_map_toNat, Option.map_some, String.ofList_toList]

end Strings

end Telemetry.Json
