import Mathlib.Data.List.TakeWhile
import Telemetry.Decimal.Layout
import Telemetry.Proofs.Decimal.Range
import Telemetry.Proofs.Decimal.Shortest

/-! The text of a double by its parts. A layout that always writes a point or an exponent gives a numeral
whose value rounds to the double. -/
namespace Telemetry.Decimal

/-- A number as it is written: digits, perhaps a point and more digits, perhaps an exponent. -/
structure Numeral where
  whole : List Char
  fraction : Option (List Char)
  exponent : Option Int

namespace Numeral

/-- The text of the digits after the point. -/
def fractionText : Option (List Char) → List Char
  | none => []
  | some ds => '.' :: ds

/-- The text of an exponent, which always has a sign. -/
def exponentText : Option Int → List Char
  | none => []
  | some e => 'e' :: (if e < 0 then '-' else '+') :: Nat.toDigits 10 e.natAbs

def text (n : Numeral) : List Char :=
  n.whole ++ (fractionText n.fraction ++ exponentText n.exponent)

def value (n : Numeral) : ℚ := textValue n.whole (n.fraction.getD []) (n.exponent.getD 0)

/-- A numeral whose text is a number of JSON. -/
structure WellFormed (n : Numeral) : Prop where
  whole_ne_nil : n.whole ≠ []
  whole_digits : ∀ c ∈ n.whole, c.isDigit
  no_leading_zero : n.whole.head? = some '0' → n.whole.length = 1
  fraction_ne_nil : n.fraction ≠ some []
  fraction_digits : ∀ c ∈ n.fraction.getD [], c.isDigit

/-- Whether the numeral has neither a point nor an exponent. -/
def IsWhole (n : Numeral) : Prop := n.fraction = none ∧ n.exponent = none

end Numeral

/-- Digits that start with a digit other than zero. -/
structure IsSignificant (ds : List Char) : Prop where
  ne_nil : ds ≠ []
  digits : ∀ c ∈ ds, c.isDigit
  head_ne : ds.head? ≠ some '0'

section Digits

theorem ofDigitChars_lt {ds : List Char} (h : ∀ c ∈ ds, c.isDigit) (n : Nat) :
    Nat.ofDigitChars 10 ds n < 10 ^ ds.length * (n + 1) := by
  induction ds generalizing n with
  | nil => simp
  | cons d ds ih =>
    have hd := h d List.mem_cons_self
    have hlt := ih (fun c hc => h c (List.mem_cons_of_mem _ hc)) (10 * n + (d.toNat - '0'.toNat))
    have hdigit : d.toNat - '0'.toNat < 10 := by
      simp only [Char.isDigit, Bool.and_eq_true, decide_eq_true_eq] at hd
      have : d.toNat ≤ 57 := hd.2
      simp only [Char.reduceToNat]
      omega
    rw [Nat.ofDigitChars_cons, List.length_cons, pow_succ]
    nlinarith [Nat.pos_of_ne_zero (pow_ne_zero ds.length (by norm_num : 10 ≠ 0))]

theorem ofDigitChars_lt_word {ds : List Char} (h : ∀ c ∈ ds, c.isDigit) (hlength : ds.length ≤ 16) :
    Nat.ofDigitChars 10 ds 0 < 2 ^ 64 := by
  have hpow : 10 ^ ds.length ≤ 10 ^ 16 := Nat.pow_le_pow_right (by decide) hlength
  have := ofDigitChars_lt h 0
  omega

theorem isSignificant_toDigits {n : Nat} (hn : n ≠ 0) : IsSignificant (Nat.toDigits 10 n) where
  ne_nil := Nat.toDigits_ne_nil
  digits _ hc := Nat.isDigit_of_mem_toDigits (by decide) (by decide) hc
  head_ne := by
    induction n using Nat.strong_induction_on with
    | _ n ih =>
      rw [Nat.toDigits_eq_if (by decide)]
      split
      · simpa using hn
      · rename_i hbase
        have := ih (n / 10) (by omega) (by omega)
        rwa [List.head?_append_of_ne_nil _ Nat.toDigits_ne_nil]

private theorem eq_replicate_of_takeWhile (ds : List Char) :
    ds.takeWhile (· == '0') = List.replicate (ds.takeWhile (· == '0')).length '0' := by
  rw [List.eq_replicate_iff]
  refine ⟨rfl, fun c hc => ?_⟩
  have := List.mem_takeWhile_imp hc
  simpa using this

/-- Only zeros are stripped, and what is left still starts with the same digit. -/
theorem stripZeros_append {ds : List Char} (h : IsSignificant ds) :
    IsSignificant (stripZeros ds) ∧ ∃ k, ds = stripZeros ds ++ List.replicate k '0' := by
  have hsplit : ds = (ds.reverse.dropWhile (· == '0')).reverse ++
      List.replicate (ds.reverse.takeWhile (· == '0')).length '0' := by
    conv_lhs => rw [← ds.reverse_reverse, ← ds.reverse.takeWhile_append_dropWhile (p := (· == '0')),
      List.reverse_append, eq_replicate_of_takeWhile ds.reverse, List.reverse_replicate]
  have hne : (ds.reverse.dropWhile (· == '0')).reverse ≠ [] := by
    intro hnil
    rw [hnil, List.nil_append] at hsplit
    refine h.head_ne ?_
    have hlength : 0 < ds.length := List.length_pos_iff.2 h.ne_nil
    rw [hsplit, List.length_replicate] at hlength
    rw [hsplit, List.head?_replicate, if_neg (by omega)]
  have hstrip : stripZeros ds = (ds.reverse.dropWhile (· == '0')).reverse := by
    rw [stripZeros]
    split
    · exact absurd ‹_› hne
    · rfl
  rw [hstrip]
  refine ⟨⟨hne, fun c hc => h.digits c ?_, ?_⟩, _, hsplit⟩
  · rw [hsplit]
    exact List.mem_append_left _ hc
  · have := h.head_ne
    rwa [hsplit, List.head?_append_of_ne_nil _ hne] at this

private theorem ofDigitChars_append_replicate (ds : List Char) (k : Nat) :
    Nat.ofDigitChars 10 (ds ++ List.replicate k '0') 0 = Nat.ofDigitChars 10 ds 0 * 10 ^ k := by
  rw [Nat.ofDigitChars_append, Nat.ofDigitChars_replicate_zero, Nat.mul_comm]

private theorem ofDigitChars_replicate_append (ds : List Char) (k : Nat) :
    Nat.ofDigitChars 10 (List.replicate k '0' ++ ds) 0 = Nat.ofDigitChars 10 ds 0 := by
  rw [Nat.ofDigitChars_append, Nat.ofDigitChars_replicate_zero, Nat.mul_zero]

end Digits

/-- The number with the given digits, the first of them having the given exponent. -/
def leadValue (ds : List Char) (lead : Int) : ℚ :=
  Nat.ofDigitChars 10 ds 0 * 10 ^ (lead + 1 - ds.length)

/-- A numeral that has a point or an exponent, starts with few enough digits for a word, and has the given
value. -/
structure Numeral.IsFloat (n : Numeral) (v : ℚ) : Prop where
  wellFormed : n.WellFormed
  not_whole : ¬n.IsWhole
  whole_length : n.whole.length ≤ 16
  value_eq : n.value = v

section Forms

variable {ds : List Char} {lead : Int}

private theorem small_numeral (hds : ∀ c ∈ ds, c.isDigit) (hne : ds ≠ []) (hlead : lead < 0) :
    Numeral.IsFloat ⟨['0'], some (List.replicate (-lead - 1).toNat '0' ++ ds), none⟩
      (leadValue ds lead) where
  wellFormed := {
    whole_ne_nil := List.cons_ne_nil _ _
    whole_digits := fun c hc => List.mem_singleton.1 hc ▸ rfl
    no_leading_zero := fun _ => rfl
    fraction_ne_nil := by simp [hne]
    fraction_digits := by
      intro c hc
      rcases List.mem_append.1 hc with hc | hc
      · rw [List.eq_of_mem_replicate hc]
        decide
      · exact hds c hc }
  not_whole h := nomatch h.1
  whole_length := by simp
  value_eq := by
    have hzero : Nat.ofDigitChars 10 (['0'] ++ (List.replicate (-lead - 1).toNat '0' ++ ds)) 0 =
        Nat.ofDigitChars 10 ds 0 := by
      rw [List.singleton_append, Nat.ofDigitChars_cons]
      exact ofDigitChars_replicate_append ds _
    simp only [Numeral.value, textValue, leadValue, Option.getD_some, Option.getD_none]
    rw [hzero, List.length_append, List.length_replicate]
    congr 2
    omega

private theorem integral_numeral (hds : IsSignificant ds) (hlow : 0 ≤ lead) (hhigh : lead ≤ 15)
    (hlength : ds.length ≤ lead.toNat + 1) :
    Numeral.IsFloat ⟨ds ++ List.replicate (lead.toNat + 1 - ds.length) '0', some ['0'], none⟩
      (leadValue ds lead) where
  wellFormed := {
    whole_ne_nil := by simp [hds.ne_nil]
    whole_digits := by
      intro c hc
      rcases List.mem_append.1 hc with hc | hc
      · exact hds.digits c hc
      · rw [List.eq_of_mem_replicate hc]
        decide
    no_leading_zero := by
      intro h
      rw [List.head?_append_of_ne_nil _ hds.ne_nil] at h
      exact absurd h hds.head_ne
    fraction_ne_nil := by simp
    fraction_digits := fun c hc => List.mem_singleton.1 hc ▸ rfl }
  not_whole h := nomatch h.1
  whole_length := by
    rw [List.length_append, List.length_replicate]
    omega
  value_eq := by
    simp only [Numeral.value, textValue, leadValue, Option.getD_some, Option.getD_none]
    rw [List.append_assoc, ← List.replicate_succ', ofDigitChars_append_replicate]
    push_cast
    rw [mul_assoc, ← zpow_natCast, ← zpow_add₀ (by norm_num)]
    congr 2
    simp only [List.length_singleton]
    omega

private theorem split_numeral (hds : IsSignificant ds) (hlow : 0 ≤ lead) (hhigh : lead ≤ 15)
    (hlength : lead.toNat + 1 < ds.length) :
    Numeral.IsFloat ⟨ds.take (lead.toNat + 1), some (ds.drop (lead.toNat + 1)), none⟩
      (leadValue ds lead) where
  wellFormed := {
    whole_ne_nil := by simp [hds.ne_nil]
    whole_digits := fun c hc => hds.digits c (List.mem_of_mem_take hc)
    no_leading_zero := by
      intro h
      rw [List.head?_take, if_neg (by omega)] at h
      exact absurd h hds.head_ne
    fraction_ne_nil := by
      simp only [ne_eq, Option.some.injEq, List.drop_eq_nil_iff]
      omega
    fraction_digits := fun c hc => hds.digits c (List.mem_of_mem_drop hc) }
  not_whole h := nomatch h.1
  whole_length := by
    rw [List.length_take]
    omega
  value_eq := by
    simp only [Numeral.value, textValue, leadValue, Option.getD_some, Option.getD_none]
    rw [List.take_append_drop, List.length_drop]
    congr 2
    omega

private theorem zero_numeral : Numeral.IsFloat ⟨['0'], some ['0'], none⟩ 0 where
  wellFormed := {
    whole_ne_nil := List.cons_ne_nil _ _
    whole_digits := fun c hc => List.mem_singleton.1 hc ▸ rfl
    no_leading_zero := fun _ => rfl
    fraction_ne_nil := by simp
    fraction_digits := fun c hc => List.mem_singleton.1 hc ▸ rfl }
  not_whole h := nomatch h.1
  whole_length := by simp
  value_eq := by simp [Numeral.value, textValue, Nat.ofDigitChars_cons]

private theorem scientific_numeral {d : Char} {rest : List Char} (hds : IsSignificant (d :: rest)) :
    Numeral.IsFloat ⟨[d], if rest = [] then none else some rest, some lead⟩
      (leadValue (d :: rest) lead) where
  wellFormed := {
    whole_ne_nil := List.cons_ne_nil _ _
    whole_digits := by
      intro c hc
      rw [List.mem_singleton.1 hc]
      exact hds.digits d List.mem_cons_self
    no_leading_zero := fun _ => rfl
    fraction_ne_nil := by split <;> simp_all
    fraction_digits := by
      intro c hc
      split at hc
      · exact absurd hc List.not_mem_nil
      · exact hds.digits c (List.mem_cons_of_mem _ hc) }
  not_whole h := nomatch h.2
  whole_length := by simp
  value_eq := by
    have hrest : (if rest = [] then none else some rest).getD [] = rest := by
      split <;> simp_all
    simp only [Numeral.value, textValue, leadValue, Option.getD_some]
    rw [hrest, List.singleton_append, List.length_cons]
    congr 2
    push_cast
    ring

/-- The text without an exponent is that of a numeral. -/
theorem positional_numeral (hds : IsSignificant ds) (hhigh : lead ≤ 15) :
    ∃ n : Numeral, positional true ds lead = n.text ∧ n.IsFloat (leadValue ds lead) := by
  simp only [positional]
  split
  · rename_i hlead
    exact ⟨_, by simp [Numeral.text, Numeral.fractionText, Numeral.exponentText],
      small_numeral hds.digits hds.ne_nil hlead⟩
  · split
    · rename_i hlead hlength
      exact ⟨_, by simp [Numeral.text, Numeral.fractionText, Numeral.exponentText],
        integral_numeral hds (by omega) hhigh hlength⟩
    · rename_i hlead hlength
      exact ⟨_, by simp [Numeral.text, Numeral.fractionText, Numeral.exponentText],
        split_numeral hds (by omega) hhigh (by omega)⟩

/-- The text with an exponent is that of a numeral. -/
theorem scientific_eq_text (hds : IsSignificant ds) :
    ∃ n : Numeral, scientific ds lead = n.text ∧ n.IsFloat (leadValue ds lead) := by
  obtain ⟨d, rest, rfl⟩ := List.exists_cons_of_ne_nil hds.ne_nil
  refine ⟨_, ?_, scientific_numeral hds⟩
  cases rest with
  | nil => simp [scientific, Numeral.text, Numeral.fractionText, Numeral.exponentText]
  | cons e rest => simp [scientific, Numeral.text, Numeral.fractionText, Numeral.exponentText]

end Forms

/-- Stripping zeros and moving the point keep the number. -/
theorem leadValue_stripZeros {c : Nat} (hc : c ≠ 0) (e : Int) :
    leadValue (stripZeros (Nat.toDigits 10 c)) (e + ((Nat.toDigits 10 c).length - 1 : Nat)) =
      c * 10 ^ e := by
  have hpos : 0 < (Nat.toDigits 10 c).length := Nat.length_toDigits_pos
  obtain ⟨-, k, hk⟩ := stripZeros_append (isSignificant_toDigits hc)
  have hlength := congrArg List.length hk
  have hvalue := congrArg (Nat.ofDigitChars 10 · 0) hk
  rw [List.length_append, List.length_replicate] at hlength
  rw [Nat.ofDigitChars_ten_toDigits, ofDigitChars_append_replicate] at hvalue
  have hexponent : e + ((Nat.toDigits 10 c).length - 1 : Nat) + 1 -
      (stripZeros (Nat.toDigits 10 c)).length = k + e := by omega
  rw [leadValue, hexponent, zpow_add₀ (by norm_num), zpow_natCast, ← mul_assoc]
  congr 1
  conv_rhs => rw [hvalue]
  push_cast
  rfl

/-- A layout that ends whole numbers in `.0`, and uses an exponent from `10 ^ 16` on, writes numerals whose
values round to the magnitude. -/
theorem Layout.digits_numeral {l : Layout} (hpoint : l.hasPointZero = true)
    (hlead : ∀ lead, l.isPositional lead = true → lead ≤ 15) (m : Magnitude) :
    ∃ (n : Numeral) (v : ℚ), l.digits m = n.text ∧ n.IsFloat v ∧ m.RoundsTo v := by
  by_cases hm : m.significand = 0
  · have hzero : m.value = 0 := by rw [Magnitude.value, hm, Nat.cast_zero, zero_mul]
    refine ⟨_, 0, ?_, zero_numeral, hzero ▸ m.roundsTo_value⟩
    simp only [digits]
    rw [if_pos hm, hpoint]
    rfl
  have hc := Magnitude.shortest_ne_zero hm l.tie
  have hrounds := m.roundsTo_shortest l.tie
  rw [← leadValue_stripZeros hc] at hrounds
  obtain ⟨hds, -⟩ := stripZeros_append (isSignificant_toDigits hc)
  simp only [digits]
  rw [if_neg hm]
  split
  · rename_i hpositional
    obtain ⟨n, htext, hn⟩ := positional_numeral hds (hlead _ hpositional)
    exact ⟨n, _, by rw [hpoint, htext], hn, hrounds⟩
  · obtain ⟨n, htext, hn⟩ := scientific_eq_text hds
    exact ⟨n, _, htext, hn, hrounds⟩

private theorem upperEnd_le_of_exponent {m : Magnitude} (hsize : m.significand ≤ 2 ^ 53)
    (hexponent : m.exponent ≤ 970) : m.upperEnd ≤ safeLimit := by
  have hsize' : ((4 * m.significand + 2 : Nat) : ℚ) ≤ 4 * 2 ^ 53 + 2 := by
    exact_mod_cast (by omega : 4 * m.significand + 2 ≤ 4 * 2 ^ 53 + 2)
  have hpow : (2 : ℚ) ^ (m.exponent - 2) ≤ 2 ^ (968 : Int) := zpow_le_zpow_right₀ one_le_two (by omega)
  rw [Magnitude.upperEnd, safeLimit, ← zpow_natCast 2 969]
  calc ((4 * m.significand + 2 : Nat) : ℚ) * 2 ^ (m.exponent - 2)
      ≤ (4 * 2 ^ 53 + 2) * 2 ^ (968 : Int) := by gcongr
    _ ≤ (2 ^ 55 - 14) * 2 * 2 ^ (968 : Int) :=
      mul_le_mul_of_nonneg_right (by norm_num) (by positivity)
    _ = (2 ^ 55 - 14) * 2 ^ ((969 : Nat) : Int) := by
      rw [mul_assoc, ← zpow_one_add₀ two_ne_zero]
      rfl

private theorem upperEnd_le_of_significand {m : Magnitude} (hsize : m.significand + 4 ≤ 2 ^ 53)
    (hexponent : m.exponent ≤ 971) : m.upperEnd ≤ safeLimit := by
  have hsize' : ((4 * m.significand + 2 : Nat) : ℚ) ≤ 2 ^ 55 - 14 := by
    rw [le_sub_iff_add_le]
    exact_mod_cast (by omega : 4 * m.significand + 2 + 14 ≤ 2 ^ 55)
  have hpow : (2 : ℚ) ^ (m.exponent - 2) ≤ 2 ^ ((969 : Nat) : Int) :=
    zpow_le_zpow_right₀ one_le_two (by omega)
  rw [Magnitude.upperEnd, safeLimit, ← zpow_natCast 2 969]
  exact mul_le_mul hsize' hpow (by positivity) (by norm_num)

/-- Below the three largest doubles there is room for the errors of reading. -/
theorem upperEnd_ofBits_le {bits : Nat} (h : bits < infinityBits - 3) :
    (Magnitude.ofBits bits).upperEnd ≤ safeLimit := by
  unfold Magnitude.ofBits
  split
  · exact upperEnd_le_of_exponent (by dsimp only; omega) (by norm_num)
  · simp only [infinityBits] at h
    rcases Nat.lt_or_ge (bits / 2 ^ 52) 2046 with hexponent | hexponent
    · exact upperEnd_le_of_exponent (by dsimp only; omega) (by dsimp only; omega)
    · exact upperEnd_le_of_significand (by dsimp only; omega) (by dsimp only; omega)

end Telemetry.Decimal
