import Mathlib.Algebra.Order.Field.Rat
import Mathlib.Algebra.Order.Field.Power
import Mathlib.Tactic.FieldSimp
import Mathlib.Tactic.Linarith
import Mathlib.Tactic.NormNum
import Mathlib.Tactic.Positivity
import Mathlib.Tactic.Ring
import Telemetry.Decimal.Nearest

/-! How far rounding to a double moves a number, and when the result is still a double. -/
namespace Telemetry.Decimal

/-- The number a magnitude stands for. -/
def Magnitude.value (m : Magnitude) : ℚ := m.significand * 2 ^ m.exponent

/-- The number that bits below a sign stand for. -/
def bitsValue (bits : Nat) : ℚ := (Magnitude.ofBits bits).value

theorem zpow_eq_div (b : ℚ) (e : Int) : b ^ e = b ^ e.toNat / b ^ (-e).toNat := by
  rcases le_total 0 e with h | h
  · obtain ⟨n, rfl⟩ := Int.eq_ofNat_of_zero_le h
    simp
  · obtain ⟨n, hn⟩ := Int.eq_ofNat_of_zero_le (by omega : 0 ≤ -e)
    obtain rfl : e = -n := by omega
    simp [zpow_neg]

theorem Magnitude.value_fraction (m : Magnitude) : (m.fraction.1 : ℚ) / m.fraction.2 = m.value := by
  rw [value, zpow_eq_div]
  simp only [fraction, Nat.cast_mul, Nat.cast_pow, Nat.cast_ofNat]
  rw [mul_div_assoc]

theorem Magnitude.fraction_ne_zero (m : Magnitude) : m.fraction.2 ≠ 0 := by
  simp [fraction]

/-- The significand of a double has fifty-three bits, and its exponent is not below that of the least double. -/
theorem Magnitude.ofBits_bounds (bits : Nat) :
    (ofBits bits).significand < 2 ^ 53 ∧ -1074 ≤ (ofBits bits).exponent := by
  unfold ofBits
  split <;> constructor <;> dsimp only <;> omega

theorem Magnitude.value_nonneg (m : Magnitude) : 0 ≤ m.value := by
  unfold value
  positivity

section Log

variable {num den : Nat}

private theorem le_shift_iff (hd : den ≠ 0) (k : Int) :
    den * 2 ^ k.toNat ≤ num * 2 ^ (-k).toNat ↔ (2 : ℚ) ^ k ≤ num / den := by
  have hd' : (0 : ℚ) < den := by positivity
  rw [zpow_eq_div, div_le_div_iff₀ (by positivity) hd', ← Nat.cast_le (α := ℚ)]
  push_cast
  rw [mul_comm (den : ℚ)]

private theorem log2_bounds {n : Nat} (hn : n ≠ 0) :
    (2 : ℚ) ^ (n.log2 : Int) ≤ n ∧ (n : ℚ) < 2 ^ ((n.log2 : Int) + 1) := by
  constructor
  · exact_mod_cast Nat.log2_self_le hn
  · exact_mod_cast Nat.lt_log2_self (n := n)

private theorem quotient_bounds (hn : num ≠ 0) (hd : den ≠ 0) :
    (2 : ℚ) ^ ((num.log2 : Int) - den.log2 - 1) ≤ num / den ∧
      (num : ℚ) / den < 2 ^ ((num.log2 : Int) - den.log2 + 1) := by
  obtain ⟨hn₁, hn₂⟩ := log2_bounds hn
  obtain ⟨hd₁, hd₂⟩ := log2_bounds hd
  have hd' : (0 : ℚ) < den := by positivity
  constructor
  · rw [le_div_iff₀ hd']
    calc (2 : ℚ) ^ ((num.log2 : Int) - den.log2 - 1) * den
        ≤ 2 ^ ((num.log2 : Int) - den.log2 - 1) * 2 ^ ((den.log2 : Int) + 1) := by gcongr
      _ = 2 ^ (num.log2 : Int) := by rw [← zpow_add₀ two_ne_zero]; congr 1; ring
      _ ≤ num := hn₁
  · rw [div_lt_iff₀ hd']
    calc (num : ℚ) < 2 ^ ((num.log2 : Int) + 1) := hn₂
      _ = 2 ^ ((num.log2 : Int) - den.log2 + 1) * 2 ^ (den.log2 : Int) := by
        rw [← zpow_add₀ two_ne_zero]; congr 1; ring
      _ ≤ 2 ^ ((num.log2 : Int) - den.log2 + 1) * den := by gcongr

/-- A fraction lies between the power of two that is found for it and the next one. -/
theorem log2Floor_bounds (hn : num ≠ 0) (hd : den ≠ 0) :
    (2 : ℚ) ^ log2Floor num den ≤ num / den ∧ (num : ℚ) / den < 2 ^ (log2Floor num den + 1) := by
  obtain ⟨hlow, hhigh⟩ := quotient_bounds hn hd
  simp only [log2Floor]
  split
  · rename_i h
    exact ⟨(le_shift_iff hd _).1 h, hhigh⟩
  · rename_i h
    rw [le_shift_iff hd, not_le] at h
    exact ⟨hlow, by simpa using h⟩

end Log

/-- Rounding to a whole number adds at most a half. -/
theorem divNearest_le (num den : Nat) (hd : den ≠ 0) :
    (divNearest num den : ℚ) ≤ num / den + 1 / 2 := by
  have hd' : (0 : ℚ) < den := by positivity
  have hmod : (num : ℚ) = den * (num / den : Nat) + (num % den : Nat) := by
    exact_mod_cast (Nat.div_add_mod num den).symm
  have hvalue : (num : ℚ) / den = (num / den : Nat) + (num % den : Nat) / den := by
    rw [hmod]
    field_simp
  simp only [divNearest]
  split
  · rename_i h
    have htwice : den ≤ 2 * (num % den) := by omega
    have hhalf : (1 : ℚ) / 2 ≤ (num % den : Nat) / den := by
      rw [div_le_div_iff₀ two_pos hd']
      exact_mod_cast (by omega : 1 * den ≤ num % den * 2)
    push_cast
    linarith
  · have hrest : (0 : ℚ) ≤ (num % den : Nat) / den := by positivity
    linarith

/-- A whole number is its own nearest. -/
theorem divNearest_mul (n : Nat) {den : Nat} (hd : den ≠ 0) : divNearest (n * den) den = n := by
  simp [divNearest, Nat.mul_div_cancel _ (Nat.pos_of_ne_zero hd), Ne.symm hd]

theorem div_le_divNearest (num den : Nat) : num / den ≤ divNearest num den := by
  simp only [divNearest]
  split <;> omega

/-- Bits made from a significand and an exponent stand for the same number. -/
theorem bitsValue_toBits {m : Magnitude} (hexponent : -1074 ≤ m.exponent)
    (hlow : 2 ^ 52 ≤ m.significand ∨ m.exponent = -1074) (hhigh : m.significand ≤ 2 ^ 53) :
    bitsValue m.toBits = m.value := by
  obtain ⟨significand, exponent⟩ := m
  dsimp only at hexponent hlow hhigh
  obtain ⟨k, hk⟩ := Int.eq_ofNat_of_zero_le (by omega : 0 ≤ exponent + 1074)
  obtain rfl : exponent = k - 1074 := by omega
  simp only [Magnitude.toBits]
  rw [hk, Int.toNat_natCast]
  unfold bitsValue Magnitude.ofBits
  split
  · rename_i hsub
    obtain rfl : k = 0 := by omega
    simp [Magnitude.value]
  · rename_i hnormal
    by_cases hcarry : significand = 2 ^ 53
    · subst hcarry
      rw [show (k * 2 ^ 52 + 2 ^ 53) % 2 ^ 52 = 0 by omega,
        show ((k * 2 ^ 52 + 2 ^ 53 : Nat) : Int) / 2 ^ 52 - 1075 = (k - 1074) + 1 by omega]
      simp only [Magnitude.value]
      rw [zpow_add_one₀ two_ne_zero]
      push_cast
      ring
    · have hsize : 2 ^ 52 ≤ significand ∨ k = 0 := by omega
      rw [show (k * 2 ^ 52 + significand) % 2 ^ 52 = significand - 2 ^ 52 by omega,
        show ((k * 2 ^ 52 + significand : Nat) : Int) / 2 ^ 52 - 1075 = k - 1074 by omega,
        show 2 ^ 52 + (significand - 2 ^ 52) = significand by omega]

section Nearest

variable {num den : Nat}

/-- The exponent a fraction is rounded at. -/
def roundingExponent (num den : Nat) : Int := max (log2Floor num den - 52) (-1074)

theorem log2Floor_eq (h : -1022 ≤ log2Floor num den) :
    log2Floor num den = 52 + roundingExponent num den := by
  unfold roundingExponent
  omega

/-- The significand of the double nearest to a fraction. -/
def roundedSignificand (num den : Nat) : Nat :=
  let q := roundingExponent num den
  divNearest (num * 2 ^ (-q).toNat) (den * 2 ^ q.toNat)

theorem nearestBits_eq (hn : num ≠ 0) :
    nearestBits num den =
      Magnitude.toBits ⟨roundedSignificand num den, roundingExponent num den⟩ := by
  rw [nearestBits, if_neg hn]
  rfl

private theorem shifted_value (q : Int) :
    ((num * 2 ^ (-q).toNat : Nat) : ℚ) / (den * 2 ^ q.toNat : Nat) = num / den / 2 ^ q := by
  rw [zpow_eq_div 2 q]
  push_cast
  rw [div_div_eq_mul_div, div_mul_eq_mul_div, div_div]

private theorem roundedSignificand_le_add (num : Nat) (hd : den ≠ 0) :
    (roundedSignificand num den : ℚ) ≤ num / den / 2 ^ roundingExponent num den + 1 / 2 := by
  have h := divNearest_le (num * 2 ^ (-roundingExponent num den).toNat)
    (den * 2 ^ (roundingExponent num den).toNat) (by positivity)
  rwa [shifted_value] at h

private theorem quotient_lt (hn : num ≠ 0) (hd : den ≠ 0) :
    (num : ℚ) / den / 2 ^ roundingExponent num den < 2 ^ 53 := by
  rw [div_lt_iff₀ (by positivity)]
  calc (num : ℚ) / den < 2 ^ (log2Floor num den + 1) := (log2Floor_bounds hn hd).2
    _ ≤ 2 ^ (53 + roundingExponent num den) := by
      apply zpow_le_zpow_right₀ one_le_two
      unfold roundingExponent
      omega
    _ = 2 ^ 53 * 2 ^ roundingExponent num den := by
      rw [zpow_add₀ two_ne_zero]
      norm_num

private theorem roundedSignificand_le (hn : num ≠ 0) (hd : den ≠ 0) :
    roundedSignificand num den ≤ 2 ^ 53 := by
  have h := roundedSignificand_le_add num hd
  have hlt : (roundedSignificand num den : ℚ) < (2 ^ 53 + 1 : Nat) := by
    push_cast
    linarith [quotient_lt hn hd]
  exact Nat.lt_succ_iff.1 (by exact_mod_cast hlt)

private theorem le_roundedSignificand (hn : num ≠ 0) (hd : den ≠ 0) (h : -1022 ≤ log2Floor num den) :
    2 ^ 52 ≤ roundedSignificand num den := by
  refine le_trans ?_ (div_le_divNearest _ _)
  rw [Nat.le_div_iff_mul_le (by positivity), ← Nat.cast_le (α := ℚ), Nat.cast_mul]
  rw [← le_div_iff₀ (by positivity), shifted_value, le_div_iff₀ (by positivity)]
  calc ((2 ^ 52 : Nat) : ℚ) * 2 ^ roundingExponent num den = 2 ^ log2Floor num den := by
        rw [log2Floor_eq h, zpow_add₀ two_ne_zero]
        norm_num
    _ ≤ num / den := (log2Floor_bounds hn hd).1

private theorem roundedSignificand_normal (hn : num ≠ 0) (hd : den ≠ 0) :
    2 ^ 52 ≤ roundedSignificand num den ∨ roundingExponent num den = -1074 := by
  rcases le_or_gt (-1022) (log2Floor num den) with h | h
  · exact .inl (le_roundedSignificand hn hd h)
  · right
    unfold roundingExponent
    omega

private theorem bitsValue_nearestBits (hn : num ≠ 0) (hd : den ≠ 0) :
    bitsValue (nearestBits num den) =
      roundedSignificand num den * 2 ^ roundingExponent num den := by
  rw [nearestBits_eq hn]
  refine bitsValue_toBits ?_ (roundedSignificand_normal hn hd) (roundedSignificand_le hn hd)
  exact le_max_right _ _

/-- A number that some bits stand for is its own nearest. -/
theorem bitsValue_nearestBits_of_eq (hd : den ≠ 0) {bits : Nat} (h : (num : ℚ) / den = bitsValue bits) :
    bitsValue (nearestBits num den) = num / den := by
  by_cases hn : num = 0
  · rw [hn, nearestBits, if_pos rfl]
    simp [bitsValue, Magnitude.ofBits, Magnitude.value]
  obtain ⟨hsize, hexponent⟩ := Magnitude.ofBits_bounds bits
  set m := Magnitude.ofBits bits
  set q := roundingExponent num den with hq
  have hle : q ≤ m.exponent := by
    have hpow : (2 : ℚ) ^ log2Floor num den < 2 ^ (53 + m.exponent) :=
      calc (2 : ℚ) ^ log2Floor num den ≤ num / den := (log2Floor_bounds hn hd).1
        _ = m.significand * 2 ^ m.exponent := h
        _ < 2 ^ (53 : Int) * 2 ^ m.exponent := by gcongr; exact_mod_cast hsize
        _ = 2 ^ (53 + m.exponent) := (zpow_add₀ two_ne_zero _ _).symm
    have := (zpow_lt_zpow_iff_right₀ (one_lt_two (α := ℚ))).1 hpow
    rw [hq, roundingExponent]
    omega
  -- Counted in steps of the rounding exponent the number is whole, so nothing is rounded away.
  obtain ⟨k, hk⟩ := Int.eq_ofNat_of_zero_le (sub_nonneg.2 hle)
  have hsteps : (num : ℚ) / den / 2 ^ q = (m.significand * 2 ^ k : Nat) := by
    rw [h, div_eq_iff (by positivity), bitsValue, Magnitude.value, show m.exponent = k + q by omega,
      zpow_add₀ two_ne_zero]
    push_cast
    rw [mul_assoc, zpow_natCast]
  have hwhole : num * 2 ^ (-q).toNat = m.significand * 2 ^ k * (den * 2 ^ q.toNat) := by
    rw [← shifted_value, div_eq_iff (by positivity)] at hsteps
    exact_mod_cast hsteps
  have hrounded : roundedSignificand num den = m.significand * 2 ^ k := by
    rw [roundedSignificand, ← hq, hwhole, divNearest_mul _ (by positivity)]
  rw [bitsValue_nearestBits hn hd, hrounded, ← hsteps, ← hq, div_mul_cancel₀ _ (by positivity)]

/-- A number in the range of normal doubles grows by a factor of at most `1 + 2 ^ -53`. -/
theorem bitsValue_nearestBits_le (hn : num ≠ 0) (hd : den ≠ 0) (h : -1022 ≤ log2Floor num den) :
    bitsValue (nearestBits num den) ≤ num / den * (1 + 1 / 2 ^ 53) := by
  have hpow : (0 : ℚ) < 2 ^ roundingExponent num den := by positivity
  have hlow : (2 : ℚ) ^ 52 * 2 ^ roundingExponent num den ≤ num / den := by
    have := (log2Floor_bounds hn hd).1
    rw [log2Floor_eq h, zpow_add₀ two_ne_zero] at this
    exact_mod_cast this
  have hround : (roundedSignificand num den : ℚ) * 2 ^ roundingExponent num den ≤
      num / den + 2 ^ roundingExponent num den / 2 := by
    have := mul_le_mul_of_nonneg_right (roundedSignificand_le_add num hd) hpow.le
    rwa [add_mul, div_mul_cancel₀ _ hpow.ne', one_div_mul_eq_div] at this
  rw [bitsValue_nearestBits hn hd]
  linarith

/-- Rounding keeps a number above the power of two below it. -/
theorem le_bitsValue_nearestBits (hn : num ≠ 0) (hd : den ≠ 0) (h : -1022 ≤ log2Floor num den) :
    (2 : ℚ) ^ log2Floor num den ≤ bitsValue (nearestBits num den) := by
  have hsize : ((2 ^ 52 : Nat) : ℚ) ≤ roundedSignificand num den := by
    exact_mod_cast le_roundedSignificand hn hd h
  rw [bitsValue_nearestBits hn hd, log2Floor_eq h, zpow_add₀ two_ne_zero]
  have hpow : (0 : ℚ) < 2 ^ roundingExponent num den := by positivity
  refine mul_le_mul_of_nonneg_right ?_ hpow.le
  exact_mod_cast hsize

/-- A rough bound that needs no assumption on the range. -/
theorem bitsValue_nearestBits_le_max (hn : num ≠ 0) (hd : den ≠ 0) :
    bitsValue (nearestBits num den) ≤ max (2 * ((num : ℚ) / den)) 1 := by
  have hsize : (roundedSignificand num den : ℚ) ≤ 2 ^ (53 : Int) := by
    exact_mod_cast roundedSignificand_le hn hd
  rw [bitsValue_nearestBits hn hd]
  have hle : (roundedSignificand num den : ℚ) * 2 ^ roundingExponent num den ≤
      2 ^ (53 + roundingExponent num den) := by
    rw [zpow_add₀ two_ne_zero]
    exact mul_le_mul_of_nonneg_right hsize (by positivity)
  refine hle.trans ?_
  rcases le_or_gt (-1022) (log2Floor num den) with h | h
  · have hlog := log2Floor_eq h
    rw [show 53 + roundingExponent num den = 1 + log2Floor num den by omega, zpow_add₀ two_ne_zero,
      zpow_one]
    exact le_max_of_le_left (mul_le_mul_of_nonneg_left (log2Floor_bounds hn hd).1 two_pos.le)
  · refine le_max_of_le_right (zpow_le_one_of_nonpos₀ (one_le_two (α := ℚ)) ?_)
    unfold roundingExponent
    omega

/-- The least number that rounds to infinity lies half a step above the largest double. -/
def overflowThreshold : ℚ := (2 ^ 54 - 1) * 2 ^ 970

private theorem roundingExponent_le (hn : num ≠ 0) (hd : den ≠ 0)
    (h : (num : ℚ) / den < overflowThreshold) : roundingExponent num den ≤ 971 := by
  have hlog : log2Floor num den < 1024 := by
    rw [← zpow_lt_zpow_iff_right₀ (one_lt_two (α := ℚ))]
    calc (2 : ℚ) ^ log2Floor num den ≤ num / den := (log2Floor_bounds hn hd).1
      _ < overflowThreshold := h
      _ ≤ 2 ^ 54 * 2 ^ 970 := by
        unfold overflowThreshold
        gcongr
        norm_num
      _ = 2 ^ (1024 : Int) := by
        rw [← pow_add]
        exact (zpow_natCast 2 1024).symm
  unfold roundingExponent
  omega

private theorem roundedSignificand_lt (hd : den ≠ 0) (hq : roundingExponent num den = 971)
    (h : (num : ℚ) / den < overflowThreshold) : roundedSignificand num den < 2 ^ 53 := by
  have hscaled : (num : ℚ) / den / 2 ^ (971 : Int) < (2 ^ 54 - 1) / 2 := by
    rw [div_lt_iff₀ (by positivity)]
    calc (num : ℚ) / den < (2 ^ 54 - 1) * 2 ^ 970 := h
      _ = (2 ^ 54 - 1) / 2 * (2 ^ 970 * 2) := by
        generalize (2 : ℚ) ^ 970 = p
        ring
      _ = (2 ^ 54 - 1) / 2 * 2 ^ (971 : Int) := by
        rw [← pow_succ]
        exact congrArg _ (zpow_natCast 2 971).symm
  have hlt : (roundedSignificand num den : ℚ) < (2 ^ 53 : Nat) :=
    calc (roundedSignificand num den : ℚ)
        ≤ num / den / 2 ^ roundingExponent num den + 1 / 2 := roundedSignificand_le_add num hd
      _ < (2 ^ 54 - 1) / 2 + 1 / 2 := by rw [hq]; exact add_lt_add_left hscaled _
      _ = (2 ^ 53 : Nat) := by norm_num
  exact_mod_cast hlt

/-- A number below the threshold rounds to a double. -/
theorem nearestBits_lt (hd : den ≠ 0) (h : (num : ℚ) / den < overflowThreshold) :
    nearestBits num den < infinityBits := by
  by_cases hn : num = 0
  · rw [nearestBits, if_pos hn]
    decide
  have hq := roundingExponent_le hn hd h
  have hq' : -1074 ≤ roundingExponent num den := le_max_right _ _
  have hsize := roundedSignificand_le hn hd
  rw [nearestBits_eq hn, Magnitude.toBits, infinityBits]
  dsimp only
  rcases hq.lt_or_eq with hq | hq
  · omega
  · have := roundedSignificand_lt hd hq h
    omega

end Nearest

end Telemetry.Decimal
