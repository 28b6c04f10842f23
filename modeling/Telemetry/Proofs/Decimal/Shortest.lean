import Telemetry.Decimal.Shortest
import Telemetry.Proofs.Decimal.Rounding

/-! The decimal that is written for a double is one of the numbers that round to the double, and no number rounds to
two of them. -/
namespace Telemetry.Decimal

/-- The comparison is that of the numbers. -/
theorem compareScaled_eq (a n : Nat) (i j : Int) :
    compareScaled a i n j = compare ((a : ℚ) * 10 ^ i) (n * 2 ^ j) := by
  have hden : (0 : ℚ) < 10 ^ (-i).toNat * 2 ^ (-j).toNat := by positivity
  have hleft : ((a * 10 ^ i.toNat * 2 ^ (-j).toNat : Nat) : ℚ) =
      a * 10 ^ i * (10 ^ (-i).toNat * 2 ^ (-j).toNat) := by
    rw [zpow_eq_div 10 i]
    push_cast
    field_simp
  have hright : ((n * 2 ^ j.toNat * 10 ^ (-i).toNat : Nat) : ℚ) =
      n * 2 ^ j * (10 ^ (-i).toNat * 2 ^ (-j).toNat) := by
    rw [zpow_eq_div 2 j]
    push_cast
    field_simp
  rw [compareScaled]
  rcases lt_trichotomy ((a : ℚ) * 10 ^ i) (n * 2 ^ j) with h | h | h
  · rw [compare_lt_iff_lt.2 h, Nat.compare_eq_lt, ← Nat.cast_lt (α := ℚ), hleft, hright]
    exact mul_lt_mul_of_pos_right h hden
  · rw [compare_eq_iff_eq.2 h, Nat.compare_eq_eq, ← Nat.cast_inj (R := ℚ), hleft, hright, h]
  · rw [compare_gt_iff_gt.2 h, Nat.compare_eq_gt, ← Nat.cast_lt (α := ℚ), hleft, hright]
    exact mul_lt_mul_of_pos_right h hden

namespace Magnitude

/-- The lower end of the numbers that round to a magnitude. -/
def lowerEnd (m : Magnitude) : ℚ :=
  (if m.isNarrowBelow then 4 * m.significand - 1 else 4 * m.significand - 2 : Nat) * 2 ^ (m.exponent - 2)

/-- The upper end of the numbers that round to a magnitude. -/
def upperEnd (m : Magnitude) : ℚ := (4 * m.significand + 2 : Nat) * 2 ^ (m.exponent - 2)

/-- The number rounds to the magnitude: it lies between the ends, and at one of them only if the significand is
even. -/
structure RoundsTo (m : Magnitude) (v : ℚ) : Prop where
  lower : m.lowerEnd ≤ v
  upper : v ≤ m.upperEnd
  even_of_end : v = m.lowerEnd ∨ v = m.upperEnd → m.significand % 2 = 0

variable {m : Magnitude} {v : ℚ}

theorem value_eq_quarters (m : Magnitude) : m.value = (4 * m.significand : Nat) * 2 ^ (m.exponent - 2) := by
  have hsplit : (2 : ℚ) ^ m.exponent = 4 * 2 ^ (m.exponent - 2) := by
    rw [show m.exponent = 2 + (m.exponent - 2) by ring, zpow_add₀ two_ne_zero]
    norm_num
  rw [value, hsplit]
  push_cast
  ring

private theorem quarters_lt {a b : Nat} (h : a < b) (e : Int) : (a : ℚ) * 2 ^ e < b * 2 ^ e :=
  mul_lt_mul_of_pos_right (Nat.cast_lt.2 h) (by positivity)

theorem lowerEnd_lt_value (hm : m.significand ≠ 0) : m.lowerEnd < m.value := by
  rw [value_eq_quarters, lowerEnd]
  exact quarters_lt (by split <;> omega) _

theorem value_lt_upperEnd (m : Magnitude) : m.value < m.upperEnd := by
  rw [value_eq_quarters, upperEnd]
  exact quarters_lt (by omega) _

theorem lowerEnd_lt_upperEnd (m : Magnitude) : m.lowerEnd < m.upperEnd := by
  rw [lowerEnd, upperEnd]
  exact quarters_lt (by split <;> omega) _

/-- A number that rounds to a magnitude other than zero is not zero. -/
theorem RoundsTo.pos (h : m.RoundsTo v) (hm : m.significand ≠ 0) : 0 < v := by
  refine lt_of_lt_of_le ?_ h.lower
  have hlow : 0 < (if m.isNarrowBelow then 4 * m.significand - 1 else 4 * m.significand - 2) := by
    split <;> omega
  have hlow' : (0 : ℚ) < (if m.isNarrowBelow then 4 * m.significand - 1 else 4 * m.significand - 2 : Nat) :=
    Nat.cast_pos.2 hlow
  unfold lowerEnd
  positivity

theorem roundsTo_value (m : Magnitude) : m.RoundsTo m.value := by
  by_cases hm : m.significand = 0
  · have hzero : m.value = 0 := by rw [value, hm, Nat.cast_zero, zero_mul]
    have hlow : m.lowerEnd = 0 := by simp [lowerEnd, isNarrowBelow, hm]
    refine ⟨by rw [hlow, hzero], m.value_lt_upperEnd.le, fun _ => by rw [hm]⟩
  · refine ⟨(lowerEnd_lt_value hm).le, m.value_lt_upperEnd.le, fun h => ?_⟩
    rcases h with h | h
    · exact absurd h (lowerEnd_lt_value hm).ne'
    · exact absurd h m.value_lt_upperEnd.ne

/-- A decimal that reads back rounds to the magnitude. -/
theorem roundsTo_of_contains {c : Nat} {e : Int} (h : m.contains c e = true) :
    m.RoundsTo (c * 10 ^ e) := by
  simp only [contains, Bool.and_eq_true, Bool.or_eq_true, beq_iff_eq, compareScaled_eq,
    compare_gt_iff_gt, compare_lt_iff_lt, compare_eq_iff_eq] at h
  rw [← lowerEnd, ← upperEnd] at h
  obtain ⟨hlow, hhigh⟩ := h
  refine ⟨?_, ?_, ?_⟩
  · rcases hlow with h | h
    · exact h.le
    · exact h.2.ge
  · rcases hhigh with h | h
    · exact h.le
    · exact h.2.le
  · rintro (h | h)
    · rcases hlow with hgt | heven
      · exact absurd h hgt.ne'
      · exact heven.1
    · rcases hhigh with hlt | heven
      · exact absurd h hlt.ne
      · exact heven.1

theorem onGrid_contains {tie : Tie} {e : Int} {c : Nat} (h : m.onGrid tie e = some c) :
    m.contains c e = true := by
  simp only [onGrid] at h
  split at h
  · rename_i hdown hup
    split at h
    · cases h; exact hdown
    · cases h; exact hup
    · cases h
      split
      · exact hdown
      · exact hup
  · cases h; assumption
  · cases h; assumption
  · cases h

theorem search_contains {tie : Tie} {n c : Nat} {e₀ e : Int} (h : m.search tie n e₀ = some (c, e)) :
    m.contains c e = true := by
  induction n generalizing e₀ with
  | zero => cases h
  | succ n ih =>
    simp only [search] at h
    split at h
    · rename_i hgrid
      cases h
      exact onGrid_contains hgrid
    · exact ih h

theorem exact_value (m : Magnitude) : (m.exact.1 : ℚ) * 10 ^ m.exact.2 = m.value := by
  rw [value]
  simp only [exact]
  rcases le_total 0 m.exponent with h | h
  · obtain ⟨n, hn⟩ := Int.eq_ofNat_of_zero_le h
    simp [hn]
  · obtain ⟨n, hn⟩ := Int.eq_ofNat_of_zero_le (by omega : 0 ≤ -m.exponent)
    obtain hm : m.exponent = -n := by omega
    simp only [hm, neg_neg, Int.toNat_natCast, Int.toNat_neg_natCast, pow_zero, mul_one]
    rw [min_eq_left (by omega), zpow_neg, zpow_neg, zpow_natCast, zpow_natCast]
    push_cast
    rw [show (10 : ℚ) = 2 * 5 by norm_num, mul_pow]
    field_simp

/-- The decimal that is written rounds to the magnitude. -/
theorem roundsTo_shortest (m : Magnitude) (tie : Tie) :
    m.RoundsTo ((m.shortest tie).1 * 10 ^ (m.shortest tie).2) := by
  simp only [shortest]
  cases hsearch : m.search tie 17 (scale m.fraction.1 m.fraction.2 - 1) with
  | some p => exact roundsTo_of_contains (search_contains hsearch)
  | none =>
    rw [Option.getD_none, exact_value]
    exact m.roundsTo_value

theorem shortest_ne_zero (hm : m.significand ≠ 0) (tie : Tie) : (m.shortest tie).1 ≠ 0 := by
  intro hzero
  have hpos := (m.roundsTo_shortest tie).pos hm
  rw [hzero, Nat.cast_zero, zero_mul] at hpos
  exact lt_irrefl 0 hpos

section Neighbours

/-- The next magnitude has the next significand, or the least one of the next exponent. -/
theorem ofBits_succ (bits : Nat) :
    (ofBits (bits + 1) = ⟨(ofBits bits).significand + 1, (ofBits bits).exponent⟩ ∧
        (ofBits (bits + 1)).isNarrowBelow = false) ∨
      ((ofBits bits).significand + 1 = 2 ^ 53 ∧ ofBits (bits + 1) = ⟨2 ^ 52, (ofBits bits).exponent + 1⟩ ∧
        (ofBits (bits + 1)).isNarrowBelow = true) := by
  have hnormal : ∀ n, 2 ^ 52 ≤ n → ofBits n = ⟨2 ^ 52 + n % 2 ^ 52, (n / 2 ^ 52 : Nat) - 1075⟩ :=
    fun n hn => if_neg (by omega)
  have hsubnormal : ∀ n, n < 2 ^ 52 → ofBits n = ⟨n, -1074⟩ := fun n hn => if_pos hn
  rcases Nat.lt_trichotomy (bits + 1) (2 ^ 52) with hbits | hbits | hbits
  · left
    rw [hsubnormal bits (by omega), hsubnormal _ hbits]
    exact ⟨rfl, by simp [isNarrowBelow]⟩
  · left
    obtain rfl : bits = 2 ^ 52 - 1 := by omega
    exact ⟨rfl, rfl⟩
  · rw [hnormal bits (by omega), hnormal _ hbits.le]
    simp only [mk.injEq, isNarrowBelow, Bool.and_eq_true, Bool.and_eq_false_iff, beq_iff_eq,
      beq_eq_false_iff_ne, decide_eq_true_eq]
    by_cases hcarry : bits % 2 ^ 52 + 1 = 2 ^ 52
    · right
      omega
    · left
      omega

/-- The numbers that round to a magnitude end where those of the next one begin. -/
theorem upperEnd_ofBits (bits : Nat) : (ofBits bits).upperEnd = (ofBits (bits + 1)).lowerEnd := by
  rw [upperEnd, lowerEnd]
  rcases ofBits_succ bits with ⟨hnext, hwide⟩ | ⟨hlast, hnext, hnarrow⟩
  · rw [hwide, hnext, if_neg Bool.false_ne_true]
    rfl
  · have hpow : (2 : ℚ) ^ ((ofBits bits).exponent + 1 - 2) = 2 * 2 ^ ((ofBits bits).exponent - 2) := by
      rw [← zpow_one_add₀ two_ne_zero]
      congr 1
      ring
    have hsize : 4 * (ofBits bits).significand + 2 = 2 * (4 * 2 ^ 52 - 1) := by omega
    rw [hnarrow, hnext, if_pos rfl, hsize]
    dsimp only
    rw [hpow]
    push_cast
    ring

theorem significand_ofBits_mod (bits : Nat) : (ofBits bits).significand % 2 = bits % 2 := by
  unfold ofBits
  split
  · rfl
  · show (2 ^ 52 + bits % 2 ^ 52) % 2 = bits % 2
    omega

theorem strictMono_lowerEnd : StrictMono fun bits => (ofBits bits).lowerEnd :=
  strictMono_nat_of_lt_succ fun bits => by
    rw [← upperEnd_ofBits]
    exact lowerEnd_lt_upperEnd _

private theorem not_lt_of_roundsTo {a b : Nat} (ha : (ofBits a).RoundsTo v) (hb : (ofBits b).RoundsTo v) :
    ¬a < b := by
  intro hlt
  have hle : (ofBits (a + 1)).lowerEnd ≤ (ofBits b).lowerEnd := strictMono_lowerEnd.monotone hlt
  have hupper := ha.upper
  rw [upperEnd_ofBits] at hupper
  have hv : v = (ofBits (a + 1)).lowerEnd := le_antisymm hupper (hle.trans hb.lower)
  have hnext : a + 1 = b := strictMono_lowerEnd.injective (le_antisymm hle (hb.lower.trans hupper))
  subst hnext
  have haeven := ha.even_of_end (.inr (hv.trans (upperEnd_ofBits a).symm))
  have hbeven := hb.even_of_end (.inl hv)
  rw [significand_ofBits_mod] at haeven hbeven
  omega

/-- A number rounds to one magnitude only: neighbours share an end, but not both of them are even. -/
theorem RoundsTo.unique {a b : Nat} (ha : (ofBits a).RoundsTo v) (hb : (ofBits b).RoundsTo v) : a = b :=
  le_antisymm (Nat.not_lt.1 (not_lt_of_roundsTo hb ha)) (Nat.not_lt.1 (not_lt_of_roundsTo ha hb))

end Neighbours

end Magnitude
end Telemetry.Decimal
