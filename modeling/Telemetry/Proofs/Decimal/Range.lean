import Telemetry.Decimal.Scaled
import Telemetry.Proofs.Decimal.Rounding

/-! Reading a decimal stepwise stays within the doubles for every number that is not close to the largest
double. Each of the two factors of a product is rounded, so the bound leaves room for both errors. -/
namespace Telemetry.Decimal

section Absorb

theorem le_ofDigitChars (ds : List Char) (n : Nat) :
    10 ^ ds.length * n ≤ Nat.ofDigitChars 10 ds n := by
  rw [Nat.ofDigitChars_eq_ofDigitChars_zero]
  omega

/-- A number that fits a word is taken whole. -/
theorem absorb_of_lt {ds : List Char} {n : Nat} (h : Nat.ofDigitChars 10 ds n < 2 ^ 64) :
    absorb n ds = (Nat.ofDigitChars 10 ds n, []) := by
  induction ds generalizing n with
  | nil => simp [absorb]
  | cons d ds ih =>
    rw [Nat.ofDigitChars_cons] at h ⊢
    have hnext := le_ofDigitChars ds (10 * n + (d.toNat - '0'.toNat))
    have hpow := Nat.one_le_pow ds.length 10 (by decide)
    have hlt : 10 * n + (d.toNat - '0'.toNat) < 2 ^ 64 := by nlinarith
    simp only [absorb]
    rw [if_pos hlt]
    exact ih h

/-- What is taken are the first digits. -/
theorem absorb_eq_append (n : Nat) (ds : List Char) :
    ∃ taken left, ds = taken ++ left ∧ absorb n ds = (Nat.ofDigitChars 10 taken n, left) := by
  induction ds generalizing n with
  | nil => exact ⟨[], [], rfl, by simp [absorb]⟩
  | cons d ds ih =>
    simp only [absorb]
    split
    · obtain ⟨taken, left, hds, heq⟩ := ih (10 * n + (d.toNat - '0'.toNat))
      exact ⟨d :: taken, left, by rw [hds, List.cons_append], by rw [heq, Nat.ofDigitChars_cons]⟩
    · exact ⟨[], d :: ds, rfl, by simp⟩

theorem absorb_lt {n : Nat} (ds : List Char) (h : n < 2 ^ 64) : (absorb n ds).1 < 2 ^ 64 := by
  induction ds generalizing n with
  | nil => exact h
  | cons d ds ih =>
    simp only [absorb]
    split
    · exact ih ‹_›
    · exact h

end Absorb

/-- The number with the given digits before and after the point and the given exponent. -/
def textValue (whole fraction : List Char) (exponent : Int) : ℚ :=
  Nat.ofDigitChars 10 (whole ++ fraction) 0 * 10 ^ (exponent - fraction.length)

/-- The word that is read is a word, and leaving out digits after the point makes the number smaller. -/
theorem collect_le {whole : List Char} (fraction : List Char) (exponent : Int)
    (h : Nat.ofDigitChars 10 whole 0 < 2 ^ 64) :
    (collect whole fraction exponent).1 < 2 ^ 64 ∧
      ((collect whole fraction exponent).1 : ℚ) * 10 ^ (collect whole fraction exponent).2 ≤
        textValue whole fraction exponent := by
  obtain ⟨taken, left, rfl, heq⟩ := absorb_eq_append (Nat.ofDigitChars 10 whole 0) fraction
  have hcollect : collect whole (taken ++ left) exponent =
      (Nat.ofDigitChars 10 (whole ++ taken) 0, exponent - taken.length) := by
    simp only [collect, absorb_of_lt h, heq, Nat.ofDigitChars_append]
    simp
  refine ⟨?_, ?_⟩
  · have hword := absorb_lt (taken ++ left) h
    rw [heq] at hword
    rwa [hcollect, Nat.ofDigitChars_append]
  · have hlow := le_ofDigitChars left (Nat.ofDigitChars 10 (whole ++ taken) 0)
    rw [← Nat.ofDigitChars_append, List.append_assoc] at hlow
    rw [hcollect, textValue]
    calc (Nat.ofDigitChars 10 (whole ++ taken) 0 : ℚ) * 10 ^ (exponent - taken.length)
        = ((10 ^ left.length * Nat.ofDigitChars 10 (whole ++ taken) 0 : Nat) : ℚ) *
            10 ^ (exponent - (taken ++ left).length) := by
          have hlength : exponent - taken.length = left.length + (exponent - (taken ++ left).length) := by
            rw [List.length_append]
            push_cast
            ring
          rw [hlength, zpow_add₀ (by norm_num), zpow_natCast]
          push_cast
          ring
      _ ≤ Nat.ofDigitChars 10 (whole ++ (taken ++ left)) 0 *
            10 ^ (exponent - (taken ++ left).length) := by
          refine mul_le_mul_of_nonneg_right ?_ (by positivity)
          exact_mod_cast hlow

section Steps

private theorem log2Floor_one_nonneg {n : Nat} (hn : n ≠ 0) : 0 ≤ log2Floor n 1 := by
  have hlt := (log2Floor_bounds hn one_ne_zero).2
  have hone : (1 : ℚ) ≤ n := by exact_mod_cast Nat.one_le_iff_ne_zero.2 hn
  rw [Nat.cast_one, div_one] at hlt
  have : (2 : ℚ) ^ (0 : Int) < 2 ^ (log2Floor n 1 + 1) := by
    rw [zpow_zero]
    exact lt_of_le_of_lt hone hlt
  rw [zpow_lt_zpow_iff_right₀ (one_lt_two (α := ℚ))] at this
  omega

private theorem bitsValue_nearestBits_one_le {n : Nat} (hn : n ≠ 0) :
    bitsValue (nearestBits n 1) ≤ n * (1 + 1 / 2 ^ 53) := by
  have hlog := log2Floor_one_nonneg hn
  have h := bitsValue_nearestBits_le hn one_ne_zero (by omega)
  rwa [Nat.cast_one, div_one] at h

private theorem one_le_bitsValue_nearestBits {n : Nat} (hn : n ≠ 0) :
    1 ≤ bitsValue (nearestBits n 1) := by
  have hlog := log2Floor_one_nonneg hn
  exact (one_le_zpow₀ (one_le_two (α := ℚ)) hlog).trans
    (le_bitsValue_nearestBits hn one_ne_zero (by omega))

private theorem bitsValue_fraction (x : Nat) :
    ((Magnitude.ofBits x).fraction.1 : ℚ) / (Magnitude.ofBits x).fraction.2 = bitsValue x :=
  Magnitude.value_fraction _

private theorem times_value (x y : Nat) :
    (((Magnitude.ofBits x).fraction.1 * (Magnitude.ofBits y).fraction.1 : Nat) : ℚ) /
      ((Magnitude.ofBits x).fraction.2 * (Magnitude.ofBits y).fraction.2 : Nat) =
        bitsValue x * bitsValue y := by
  rw [← bitsValue_fraction x, ← bitsValue_fraction y, div_mul_div_comm]
  push_cast
  rfl

private theorem over_value (x y : Nat) :
    (((Magnitude.ofBits x).fraction.1 * (Magnitude.ofBits y).fraction.2 : Nat) : ℚ) /
      ((Magnitude.ofBits x).fraction.2 * (Magnitude.ofBits y).fraction.1 : Nat) =
        bitsValue x / bitsValue y := by
  rw [← bitsValue_fraction x, ← bitsValue_fraction y, div_div_div_eq]
  push_cast
  rfl

private theorem overBits_eq (x y : Nat) : overBits x y =
    nearestBits ((Magnitude.ofBits x).fraction.1 * (Magnitude.ofBits y).fraction.2)
      ((Magnitude.ofBits x).fraction.2 * (Magnitude.ofBits y).fraction.1) := rfl

private theorem timesBits_lt {x y : Nat} (h : bitsValue x * bitsValue y < overflowThreshold) :
    timesBits x y < infinityBits := by
  rw [← times_value] at h
  exact nearestBits_lt (Nat.mul_ne_zero (Magnitude.fraction_ne_zero _) (Magnitude.fraction_ne_zero _)) h

private theorem fraction_fst_ne_zero {y : Nat} (hy : 1 ≤ bitsValue y) :
    (Magnitude.ofBits y).fraction.1 ≠ 0 := by
  intro hzero
  rw [← bitsValue_fraction, hzero, Nat.cast_zero, zero_div] at hy
  exact absurd hy (by norm_num)

private theorem overBits_lt {x y : Nat} (hy : 1 ≤ bitsValue y)
    (h : bitsValue x < overflowThreshold) : overBits x y < infinityBits := by
  have hle : bitsValue x / bitsValue y ≤ bitsValue x := div_le_self (Magnitude.value_nonneg _) hy
  rw [overBits_eq]
  refine nearestBits_lt (Nat.mul_ne_zero (Magnitude.fraction_ne_zero _) (fraction_fst_ne_zero hy)) ?_
  rw [over_value]
  exact lt_of_le_of_lt hle h

private theorem bitsValue_zero : bitsValue 0 = 0 := by
  simp [bitsValue, Magnitude.ofBits, Magnitude.value]

private theorem bitsValue_overBits_le {x y : Nat} (hy : 1 ≤ bitsValue y) :
    bitsValue (overBits x y) ≤ max (2 * bitsValue x) 1 := by
  have hle : bitsValue x / bitsValue y ≤ bitsValue x := div_le_self (Magnitude.value_nonneg _) hy
  have hden := Nat.mul_ne_zero (Magnitude.fraction_ne_zero (Magnitude.ofBits x)) (fraction_fst_ne_zero hy)
  by_cases hnum : (Magnitude.ofBits x).fraction.1 * (Magnitude.ofBits y).fraction.2 = 0
  · have hzero : overBits x y = 0 := by
      rw [overBits_eq, hnum, nearestBits, if_pos rfl]
    rw [hzero, bitsValue_zero]
    exact le_max_of_le_right zero_le_one
  · have h := bitsValue_nearestBits_le_max hnum hden
    rw [over_value] at h
    rw [overBits_eq]
    refine h.trans (max_le_max_right _ ?_)
    linarith

private theorem pow_lt_overflowThreshold {k : Nat} (hk : k ≤ 970) : (2 : ℚ) ^ k < overflowThreshold := by
  calc (2 : ℚ) ^ k ≤ 2 ^ 970 := pow_le_pow_right₀ one_le_two hk
    _ < (2 ^ 54 - 1) * 2 ^ 970 := lt_mul_of_one_lt_left (by positivity) (by norm_num)

/-- A word has a nearest double. -/
theorem nearestBits_word_lt {n : Nat} (h : n ≤ 2 ^ 64) : nearestBits n 1 < infinityBits := by
  have hcast : (n : ℚ) ≤ 2 ^ 64 := by exact_mod_cast h
  refine nearestBits_lt one_ne_zero ?_
  rw [Nat.cast_one, div_one]
  exact lt_of_le_of_lt hcast (pow_lt_overflowThreshold (by norm_num))

private theorem powerBits_value_ge (k : Nat) : 1 ≤ bitsValue (powerBits k) :=
  one_le_bitsValue_nearestBits (pow_ne_zero _ (by norm_num))

end Steps

/-- Half a step above the fourth largest double. -/
def safeLimit : ℚ := (2 ^ 55 - 14) * 2 ^ 969

section Stepwise

variable {word : Nat} {exponent : Int}

private theorem product_lt (hword : word ≠ 0) (hexponent : 0 ≤ exponent)
    (h : (word : ℚ) * 10 ^ exponent ≤ safeLimit) :
    bitsValue (nearestBits word 1) * bitsValue (powerBits exponent.toNat) < overflowThreshold := by
  obtain ⟨k, rfl⟩ := Int.eq_ofNat_of_zero_le hexponent
  rw [zpow_natCast] at h
  have hpower : bitsValue (powerBits k) ≤ 10 ^ k * (1 + 1 / 2 ^ 53) := by
    have := bitsValue_nearestBits_one_le (n := 10 ^ k) (pow_ne_zero _ (by norm_num))
    rwa [Nat.cast_pow] at this
  calc bitsValue (nearestBits word 1) * bitsValue (powerBits k)
      ≤ (word * (1 + 1 / 2 ^ 53)) * (10 ^ k * (1 + 1 / 2 ^ 53)) :=
        mul_le_mul (bitsValue_nearestBits_one_le hword) hpower (Magnitude.value_nonneg _) (by positivity)
    _ = word * 10 ^ k * (1 + 1 / 2 ^ 53) ^ 2 := by ring
    _ ≤ safeLimit * (1 + 1 / 2 ^ 53) ^ 2 := mul_le_mul_of_nonneg_right h (by positivity)
    _ = ((2 ^ 55 - 14) * (1 + 1 / 2 ^ 53) ^ 2) * 2 ^ 969 := mul_right_comm _ _ _
    _ < (2 ^ 54 - 1) * 2 * 2 ^ 969 := mul_lt_mul_of_pos_right (by norm_num) (by positivity)
    _ = overflowThreshold := by rw [mul_assoc, ← pow_succ' 2 969, overflowThreshold]

private theorem word_value_lt (hlt : word < 2 ^ 64) (hword : word ≠ 0) :
    bitsValue (nearestBits word 1) ≤ 2 ^ 65 := by
  have hcast : (word : ℚ) ≤ 2 ^ 64 := by exact_mod_cast hlt.le
  refine (bitsValue_nearestBits_one_le hword).trans ?_
  linarith

private theorem cast_powers_lt {i j k : Nat} (h : 2 ^ i * 2 ^ j < 10 ^ k) :
    (2 : ℚ) ^ i * 2 ^ j < 10 ^ k := by
  exact_mod_cast h

private theorem safeLimit_lt : safeLimit < 10 ^ (309 : Int) := by
  have hcast : (2 : ℚ) ^ 55 * 2 ^ 969 < 10 ^ 309 := cast_powers_lt (by decide +kernel)
  calc safeLimit ≤ 2 ^ 55 * 2 ^ 969 := mul_le_mul_of_nonneg_right (by norm_num) (by positivity)
    _ < 10 ^ 309 := hcast
    _ = 10 ^ (309 : Int) := (zpow_natCast 10 309).symm

private theorem exponent_le (hword : word ≠ 0) (h : (word : ℚ) * 10 ^ exponent ≤ safeLimit) :
    exponent ≤ 308 := by
  have hone : (1 : ℚ) ≤ word := by exact_mod_cast Nat.one_le_iff_ne_zero.2 hword
  have hlt : (10 : ℚ) ^ exponent < 10 ^ (309 : Int) :=
    calc (10 : ℚ) ^ exponent ≤ word * 10 ^ exponent := le_mul_of_one_le_left (by positivity) hone
      _ ≤ safeLimit := h
      _ < 10 ^ (309 : Int) := safeLimit_lt
  rw [zpow_lt_zpow_iff_right₀ (by norm_num)] at hlt
  omega

/-- A word times a power of ten that is not too large is a double. -/
theorem stepwiseBits_lt (hlt : word < 2 ^ 64) (h : (word : ℚ) * 10 ^ exponent ≤ safeLimit) :
    stepwiseBits word exponent < infinityBits := by
  by_cases hword : word = 0
  · subst hword
    simp [stepwiseBits, nearestBits, infinityBits]
  have hvalue := word_value_lt hlt hword
  simp only [stepwiseBits]
  split
  · decide
  split
  · exact absurd (exponent_le hword h) (not_le.2 ‹_›)
  split
  · exact timesBits_lt (product_lt hword ‹_› h)
  split
  · have hpow := pow_lt_overflowThreshold (k := 65) (by norm_num)
    exact overBits_lt (powerBits_value_ge _) (lt_of_le_of_lt hvalue hpow)
  split
  · refine overBits_lt (powerBits_value_ge _) ?_
    refine lt_of_le_of_lt (bitsValue_overBits_le (powerBits_value_ge _)) ?_
    refine lt_of_le_of_lt (max_le ?_ (by norm_num)) (pow_lt_overflowThreshold (k := 66) (by norm_num))
    linarith
  · decide

end Stepwise

/-- A number that is not too large is read, if its part before the point fits a word. -/
theorem scaled?_isSome (negative : Bool) {whole fraction : List Char} {exponent : Int}
    (hwhole : Nat.ofDigitChars 10 whole 0 < 2 ^ 64)
    (h : textValue whole fraction exponent ≤ safeLimit) :
    (scaled? negative whole fraction exponent).isSome := by
  obtain ⟨hword, hle⟩ := collect_le fraction exponent hwhole
  have hbits := stepwiseBits_lt hword (hle.trans h)
  simp only [scaled?]
  rw [if_pos hbits]
  rfl

end Telemetry.Decimal
