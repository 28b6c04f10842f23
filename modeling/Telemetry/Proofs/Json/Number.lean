import Telemetry.Json.Printer
import Telemetry.Json.Reader
import Telemetry.Proofs.Decimal.Bits
import Telemetry.Proofs.Decimal.Numeral
import Telemetry.Proofs.Text.Integer

/-! Reading back the text of a number. An integer comes back as it is. A double comes back as a double, but
not always as the one that was written: the reader rounds stepwise and can end at a neighbour. -/
namespace Telemetry.Json

open Decimal

/-- What may follow a value in a text: nothing, or a character that ends it. -/
def Stops (tail : List Char) : Prop := ∀ c ∈ tail.head?, c = ',' ∨ c = ']' ∨ c = '}'

theorem stops_nil : Stops [] := by simp [Stops]

theorem stops_cons {c : Char} (h : c = ',' ∨ c = ']' ∨ c = '}') (tail : List Char) : Stops (c :: tail) := by
  simpa [Stops] using h

/-- The next character is no digit. -/
def PastDigits (tail : List Char) : Prop := ∀ c ∈ tail.head?, c.isDigit = false

theorem Stops.pastDigits {tail : List Char} (h : Stops tail) : PastDigits tail := by
  intro c hc
  rcases h c hc with rfl | rfl | rfl <;> rfl

private theorem pastDigits_cons {c : Char} (h : c.isDigit = false) (tail : List Char) :
    PastDigits (c :: tail) := by
  simpa [PastDigits] using h

theorem spanDigits_append {ds tail : List Char} (hds : ∀ c ∈ ds, c.isDigit = true)
    (htail : PastDigits tail) : spanDigits (ds ++ tail) = (ds, tail) := by
  rw [spanDigits, List.takeWhile_append_of_pos hds, List.dropWhile_append_of_pos hds]
  cases tail with
  | nil => simp
  | cons c tail =>
    have hc : c.isDigit = false := htail c rfl
    simp [hc]

theorem digitsValue_toDigits (n : Nat) : digitsValue (Nat.toDigits 10 n) = n :=
  Nat.ofDigitChars_ten_toDigits

section Parts

variable {tail : List Char}

private theorem pastDigits_exponentText (e : Option Int) (htail : Stops tail) :
    PastDigits (Numeral.exponentText e ++ tail) := by
  cases e with
  | none => exact htail.pastDigits
  | some e => exact pastDigits_cons rfl _

private theorem pastDigits_fractionText (f : Option (List Char)) (e : Option Int) (htail : Stops tail) :
    PastDigits (Numeral.fractionText f ++ (Numeral.exponentText e ++ tail)) := by
  cases f with
  | none => exact pastDigits_exponentText e htail
  | some ds => exact pastDigits_cons rfl _

private theorem readFraction_text {f : Option (List Char)} (hne : f ≠ some [])
    (hds : ∀ c ∈ f.getD [], c.isDigit = true) (e : Option Int) (htail : Stops tail) :
    readFraction (Numeral.fractionText f ++ (Numeral.exponentText e ++ tail)) =
      some (f, Numeral.exponentText e ++ tail) := by
  cases f with
  | none =>
    cases e with
    | none =>
      cases tail with
      | nil => rfl
      | cons c tail =>
        have hc : c ≠ '.' := by
          rcases htail c rfl with rfl | rfl | rfl <;> decide
        simp only [Numeral.fractionText, Numeral.exponentText, List.nil_append]
        rw [readFraction]
        intro cs hcs
        exact hc (List.cons.inj hcs).1
    | some e => rfl
  | some ds =>
    have hspan := spanDigits_append hds (pastDigits_exponentText e htail)
    rw [Option.getD_some] at hspan
    obtain ⟨d, rest, rfl⟩ := List.exists_cons_of_ne_nil (l := ds) fun h => hne (congrArg some h)
    simp only [Numeral.fractionText, List.cons_append, readFraction] at hspan ⊢
    rw [hspan]

private theorem readExponent_text (e : Option Int) (htail : Stops tail) :
    readExponent (Numeral.exponentText e ++ tail) = some (e, tail) := by
  cases e with
  | none =>
    cases tail with
    | nil => rfl
    | cons c tail =>
      have hc : ¬(c = 'e' ∨ c = 'E') := by
        rcases htail c rfl with rfl | rfl | rfl <;> decide
      simp only [Numeral.exponentText, List.nil_append, readExponent]
      rw [if_neg hc]
  | some e =>
    have hspan := spanDigits_append (fun _ => Text.isDigit_of_mem_toDigits (n := e.natAbs)) htail.pastDigits
    obtain ⟨d, rest, hd⟩ := List.exists_cons_of_ne_nil (Nat.toDigits_ne_nil (n := e.natAbs) (b := 10))
    have hvalue := digitsValue_toDigits e.natAbs
    rw [hd] at hspan hvalue
    simp only [Numeral.exponentText, List.cons_append, readExponent, hd] at hspan ⊢
    by_cases he : e < 0
    · simp [he, hspan, hvalue, abs_of_neg he]
    · simp [he, hspan, hvalue, abs_of_nonneg (not_lt.1 he)]

/-- The text of a numeral is read to its end, and its parts are put together. -/
theorem readMagnitude_text {n : Numeral} (h : n.WellFormed) (negative : Bool) (htail : Stops tail) :
    readMagnitude negative (n.text ++ tail) =
      some (((assemble negative n.whole n.fraction n.exponent).map Draft.number).getD .broken, tail) := by
  have hspan := spanDigits_append h.whole_digits (pastDigits_fractionText n.fraction n.exponent htail)
  have hfraction := readFraction_text h.fraction_ne_nil h.fraction_digits n.exponent htail
  have hexponent := readExponent_text n.exponent htail
  rw [Numeral.text, List.append_assoc, List.append_assoc, readMagnitude, hspan]
  split
  · rename_i heq
    exact absurd (congrArg Prod.fst heq) h.whole_ne_nil
  · rename_i c cs rest heq
    have hwhole : n.whole = '0' :: c :: cs := congrArg Prod.fst heq
    have := h.no_leading_zero (by rw [hwhole]; rfl)
    rw [hwhole] at this
    simp at this
  · rename_i heq
    obtain ⟨rfl, rfl⟩ := Prod.mk.inj heq
    simp [hfraction, hexponent]

/-- A text is that of one numeral only. -/
theorem numeral_eq_of_text {n m : Numeral} (hn : n.WellFormed) (hm : m.WellFormed) (h : n.text = m.text) :
    n = m := by
  have hspan : ∀ k : Numeral, k.WellFormed → spanDigits (k.text ++ []) =
      (k.whole, Numeral.fractionText k.fraction ++ (Numeral.exponentText k.exponent ++ [])) := by
    intro k hk
    rw [Numeral.text, List.append_assoc, List.append_assoc]
    exact spanDigits_append hk.whole_digits (pastDigits_fractionText k.fraction k.exponent stops_nil)
  have hparts := hspan n hn
  rw [h, hspan m hm] at hparts
  obtain ⟨hwhole, hrest⟩ := Prod.mk.inj hparts
  have hfraction := readFraction_text hn.fraction_ne_nil hn.fraction_digits n.exponent stops_nil
  rw [← hrest, readFraction_text hm.fraction_ne_nil hm.fraction_digits m.exponent stops_nil] at hfraction
  obtain ⟨hfraction, hrest⟩ := Prod.mk.inj (Option.some.inj hfraction)
  have hexponent := readExponent_text n.exponent stops_nil
  rw [← hrest, readExponent_text m.exponent stops_nil] at hexponent
  obtain ⟨hexponent, -⟩ := Prod.mk.inj (Option.some.inj hexponent)
  cases n
  cases m
  cases hwhole
  cases hfraction
  cases hexponent
  rfl

end Parts

section Float

theorem ofFloat?_scaled? {negative : Bool} {whole fraction : List Char} {exponent : Int} {x : Float}
    (h : scaled? negative whole fraction exponent = some x) :
    ∃ hx : x.isFinite = true, Number.ofFloat? x = some (.float x hx) := by
  have hx : x.isFinite = true := by
    simp only [scaled?] at h
    split at h
    · cases h
      exact isFinite_ofSizeBits negative ‹_›
    · cases h
  exact ⟨hx, dif_pos hx⟩

/-- A numeral with a point or an exponent stands for a double, if its number is not too large. -/
theorem assemble_float {n : Numeral} (hwhole : ¬n.IsWhole) {negative : Bool}
    (h : (scaled? negative n.whole (n.fraction.getD []) (n.exponent.getD 0)).isSome) :
    ∃ y hy, assemble negative n.whole n.fraction n.exponent = some (.float y hy) := by
  obtain ⟨y, hy⟩ := Option.isSome_iff_exists.1 h
  obtain ⟨hfinite, hnumber⟩ := ofFloat?_scaled? hy
  refine ⟨y, hfinite, ?_⟩
  have hparts : ¬(n.fraction.isNone ∧ n.exponent.isNone) := by
    simpa [Numeral.IsWhole] using hwhole
  simp only [assemble]
  rw [if_neg hparts, hy]
  exact hnumber

private theorem numberLayout_positional (lead : Int) (h : numberLayout.isPositional lead = true) :
    lead ≤ 15 := by
  simp only [numberLayout, Bool.and_eq_true, decide_eq_true_eq] at h
  exact h.2

/-- Magnitudes are told apart by their texts. -/
theorem bits_eq_of_digits {a b : Nat}
    (h : numberLayout.digits (Magnitude.ofBits a) = numberLayout.digits (Magnitude.ofBits b)) : a = b := by
  have hnumeral := Layout.digits_numeral (l := numberLayout) rfl numberLayout_positional
  obtain ⟨n, v, hn, hnfloat, hnrounds⟩ := hnumeral (Magnitude.ofBits a)
  obtain ⟨m, w, hm, hmfloat, hmrounds⟩ := hnumeral (Magnitude.ofBits b)
  obtain rfl : n = m := numeral_eq_of_text hnfloat.wellFormed hmfloat.wellFormed (hn.symm.trans (h.trans hm))
  obtain rfl : v = w := hnfloat.value_eq.symm.trans hmfloat.value_eq
  exact Magnitude.RoundsTo.unique hnrounds hmrounds

/-- The text of a magnitude has no sign. -/
private theorem digits_ne_signed (m : Magnitude) (cs : List Char) : numberLayout.digits m ≠ '-' :: cs := by
  intro h
  obtain ⟨n, v, hn, hfloat, hrounds⟩ :=
    Layout.digits_numeral (l := numberLayout) rfl numberLayout_positional m
  obtain ⟨c, rest, hwhole⟩ := List.exists_cons_of_ne_nil hfloat.wellFormed.whole_ne_nil
  have hdigit := hfloat.wellFormed.whole_digits c (hwhole ▸ List.mem_cons_self)
  rw [hn, Numeral.text, hwhole] at h
  obtain ⟨rfl, -⟩ := List.cons.inj h
  exact absurd hdigit (by decide)

/-- Doubles are told apart by their texts, the two zeros included. -/
theorem finite_injective {x y : Float} (h : numberLayout.finite x = numberLayout.finite y) : x = y := by
  have hparts : sizeBits x = sizeBits y ∧ isNegative x = isNegative y := by
    simp only [Layout.finite] at h
    cases hx : isNegative x <;> cases hy : isNegative y <;>
      simp only [hx, hy, if_true, if_false, Bool.false_eq_true] at h
    · exact ⟨bits_eq_of_digits h, rfl⟩
    · exact absurd h (digits_ne_signed _ _)
    · exact absurd h.symm (digits_ne_signed _ _)
    · exact ⟨bits_eq_of_digits (List.cons.inj h).2, rfl⟩
  have hbits : x.toBits.toNat = y.toBits.toNat := by
    obtain ⟨hsize, hsign⟩ := hparts
    have hx := x.toBits.toNat_lt
    have hy := y.toBits.toNat_lt
    simp only [sizeBits, isNegative, decide_eq_decide] at hsize hsign
    omega
  exact Float.toBits_inj.1 (UInt64.toNat_inj.1 hbits)

/-- A numeral that is read to its end as a double. -/
structure IsReadable (n : Numeral) : Prop where
  wellFormed : n.WellFormed
  not_whole : ¬n.IsWhole
  scaled : ∀ negative, (scaled? negative n.whole (n.fraction.getD []) (n.exponent.getD 0)).isSome

private theorem isReadable_top (last : Char) (hdigit : last.isDigit = true)
    (h : ∀ negative, (scaled? negative ['1'] (Nat.toDigits 10 797693134862315 ++ [last]) 308).isSome) :
    IsReadable ⟨['1'], some (Nat.toDigits 10 797693134862315 ++ [last]), some 308⟩ where
  wellFormed := {
    whole_ne_nil := List.cons_ne_nil _ _
    whole_digits := fun c hc => List.mem_singleton.1 hc ▸ rfl
    no_leading_zero := fun _ => rfl
    fraction_ne_nil := by simp
    fraction_digits := by
      intro c hc
      rcases List.mem_append.1 hc with hc | hc
      · exact Text.isDigit_of_mem_toDigits hc
      · rwa [List.mem_singleton.1 hc] }
  not_whole h := nomatch h.2
  scaled := h

/-- The text of every finite magnitude can be read. The three largest ones are too close to the limit for the
general bound; their texts are read one by one. -/
theorem exists_readable {bits : Nat} (h : bits < infinityBits) :
    ∃ n : Numeral, numberLayout.digits (Magnitude.ofBits bits) = n.text ∧ IsReadable n := by
  by_cases hbits : bits < infinityBits - 3
  · obtain ⟨n, v, htext, hn, hrounds⟩ :=
      Layout.digits_numeral (l := numberLayout) rfl numberLayout_positional (Magnitude.ofBits bits)
    refine ⟨n, htext, hn.wellFormed, hn.not_whole, fun negative => ?_⟩
    refine scaled?_isSome negative (ofDigitChars_lt_word hn.wellFormed.whole_digits hn.whole_length) ?_
    rw [← Numeral.value, hn.value_eq]
    exact hrounds.upper.trans (upperEnd_ofBits_le hbits)
  · have hcases : bits = infinityBits - 1 ∨ bits = infinityBits - 2 ∨ bits = infinityBits - 3 := by omega
    rcases hcases with rfl | rfl | rfl
    · exact ⟨_, by decide +kernel, isReadable_top '7' rfl (by decide +kernel)⟩
    · exact ⟨_, by decide +kernel, isReadable_top '5' rfl (by decide +kernel)⟩
    · exact ⟨_, by decide +kernel, isReadable_top '3' rfl (by decide +kernel)⟩

/-- The double that is read back from the text of a double. One that is not finite is written as null, which
is read as NaN. -/
def stored (x : Float) : Float :=
  if x.isFinite then
    match readNumber (numberLayout.finite x) with
    | some (.number n, _) => n.toFloat
    | _ => nan
  else nan

private theorem readNumber_signed {n : Numeral} (hn : IsReadable n) (x : Float)
    (htext : numberLayout.digits (Magnitude.ofBits (sizeBits x)) = n.text) {tail : List Char}
    (htail : Stops tail) :
    readNumber (numberLayout.finite x ++ tail) =
      some (((assemble (isNegative x) n.whole n.fraction n.exponent).map Draft.number).getD .broken, tail) := by
  simp only [Layout.finite, htext]
  cases hnegative : isNegative x with
  | true => exact readMagnitude_text hn.wellFormed true htail
  | false =>
    obtain ⟨c, cs, hwhole⟩ := List.exists_cons_of_ne_nil hn.wellFormed.whole_ne_nil
    have hc : c ≠ '-' := by
      rintro rfl
      have := hn.wellFormed.whole_digits '-' (hwhole ▸ List.mem_cons_self)
      exact absurd this (by decide)
    rw [if_neg (by decide), ← readMagnitude_text hn.wellFormed false htail]
    rw [Numeral.text, hwhole, List.cons_append, List.cons_append, readNumber]
    intro rest hrest
    exact hc (List.cons.inj hrest).1

/-- The text of a finite double is read as a double, whatever follows it. -/
theorem readNumber_finite {x : Float} (hx : x.isFinite = true) :
    ∃ hs : (stored x).isFinite = true, ∀ tail, Stops tail →
      readNumber (numberLayout.finite x ++ tail) = some (.number (.float (stored x) hs), tail) := by
  obtain ⟨n, htext, hn⟩ := exists_readable ((isFinite_iff x).1 hx)
  obtain ⟨y, hy, hassemble⟩ := assemble_float hn.not_whole (hn.scaled (isNegative x))
  have hread : ∀ tail, Stops tail →
      readNumber (numberLayout.finite x ++ tail) = some (.number (.float y hy), tail) := by
    intro tail htail
    rw [readNumber_signed hn x htext htail, hassemble]
    rfl
  have hstored : stored x = y := by
    have hnil := hread [] stops_nil
    rw [List.append_nil] at hnil
    rw [stored, if_pos hx, hnil]
    rfl
  subst hstored
  exact ⟨hy, hread⟩

theorem isFinite_stored {x : Float} (hx : x.isFinite = true) : (stored x).isFinite = true :=
  (readNumber_finite hx).1

end Float

section Int

private theorem wellFormed_toDigits (n : Nat) : Numeral.WellFormed ⟨Nat.toDigits 10 n, none, none⟩ where
  whole_ne_nil := Nat.toDigits_ne_nil
  whole_digits _ hc := Text.isDigit_of_mem_toDigits hc
  no_leading_zero h := by
    by_cases hn : n = 0
    · subst hn
      rfl
    · exact absurd h (isSignificant_toDigits hn).head_ne
  fraction_ne_nil := by simp
  fraction_digits := by simp

private theorem readMagnitude_toDigits (negative : Bool) (n : Nat) {tail : List Char} (htail : Stops tail) :
    readMagnitude negative (Nat.toDigits 10 n ++ tail) =
      some (((assemble negative (Nat.toDigits 10 n) none none).map Draft.number).getD .broken, tail) := by
  have := readMagnitude_text (wellFormed_toDigits n) negative htail
  simpa [Numeral.text, Numeral.fractionText, Numeral.exponentText] using this

private theorem readNumber_toDigits (n : Nat) {tail : List Char} (htail : Stops tail) :
    readNumber (Nat.toDigits 10 n ++ tail) =
      some (((assemble false (Nat.toDigits 10 n) none none).map Draft.number).getD .broken, tail) := by
  obtain ⟨c, cs, hdigits⟩ := List.exists_cons_of_ne_nil (Nat.toDigits_ne_nil (n := n) (b := 10))
  have hc : c ≠ '-' := by
    rintro rfl
    have := Text.isDigit_of_mem_toDigits (n := n) (c := '-') (hdigits ▸ List.mem_cons_self)
    exact absurd this (by decide)
  rw [← readMagnitude_toDigits false n htail, hdigits, List.cons_append, readNumber]
  intro rest hrest
  exact hc (List.cons.inj hrest).1

/-- The text of an integer is read as that integer. -/
theorem readNumber_int (n : Int) (fits : fitsWord n = true) {tail : List Char} (htail : Stops tail) :
    readNumber ((toString n).toList ++ tail) = some (.number (.int n fits), tail) := by
  rw [Text.toList_toString_int]
  have hvalue := digitsValue_toDigits n.natAbs
  by_cases h : n < 0
  · have hn : n ≠ 0 := by omega
    have hneg : -(n.natAbs : Int) = n := by omega
    rw [if_pos h, List.singleton_append, List.cons_append, readNumber,
      readMagnitude_toDigits true n.natAbs htail]
    simp only [assemble, hvalue, Option.isNone_none, and_self, if_true]
    rw [if_neg (by omega), hneg, Number.ofInt?, dif_pos fits]
    rfl
  · have hpos : (n.natAbs : Int) = n := by omega
    rw [if_neg h, List.nil_append, readNumber_toDigits n.natAbs htail]
    simp only [assemble, hvalue, Option.isNone_none, and_self, if_true]
    rw [if_neg (by decide), hpos, Number.ofInt?, dif_pos fits]
    rfl

end Int

end Telemetry.Json
