import Telemetry.Proofs.Decimal.Bits
import Telemetry.Proofs.Decimal.Range

/-! The number a double stands for, and the integers that are rounded to a double without a loss. -/
namespace Telemetry.Decimal

/-- The number a finite double stands for. Both zeros stand for zero. -/
def value (x : Float) : ℚ := (if isNegative x then -1 else 1) * bitsValue (sizeBits x)

/-- Whether a number is one that some double stands for. -/
def IsDouble (q : ℚ) : Prop := ∃ x : Float, x.isFinite = true ∧ value x = q

theorem value_ofSizeBits (negative : Bool) {bits : Nat} (h : bits < infinityBits) :
    value (ofSizeBits negative bits) = (if negative then -1 else 1) * bitsValue bits := by
  rw [value, isNegative_ofSizeBits negative h, sizeBits_ofSizeBits negative h]

theorem bitsValue_nonneg (bits : Nat) : 0 ≤ bitsValue bits := Magnitude.value_nonneg _

theorem abs_value (x : Float) : |value x| = bitsValue (sizeBits x) := by
  rw [value]
  split <;> simp [abs_of_nonneg (bitsValue_nonneg _)]

theorem sign_mul_natAbs (n : Int) : ((if (decide (n < 0)) then -1 else 1) * n.natAbs : ℚ) = n := by
  rcases lt_or_ge n 0 with h | h
  · rw [if_pos (decide_eq_true h), Nat.cast_natAbs, abs_of_neg h]
    push_cast
    ring
  · rw [if_neg (by simpa using h), Nat.cast_natAbs, abs_of_nonneg h, one_mul]

/-- An integer of at most sixty-four bits is rounded to a double that stands for it, if there is one. -/
theorem value_ofInt_eq_iff {n : Int} (h : n.natAbs ≤ 2 ^ 64) : value (ofInt n) = n ↔ IsDouble n := by
  have hbits := nearestBits_word_lt h
  constructor
  · exact fun hvalue => ⟨ofInt n, isFinite_ofSizeBits _ hbits, hvalue⟩
  · rintro ⟨x, -, hx⟩
    have hsize : ((n.natAbs : Nat) : ℚ) / (1 : Nat) = bitsValue (sizeBits x) := by
      rw [← abs_value, hx, Nat.cast_one, div_one, Nat.cast_natAbs, Int.cast_abs]
    rw [ofInt, value_ofSizeBits _ hbits, bitsValue_nearestBits_of_eq one_ne_zero hsize, Nat.cast_one, div_one,
      sign_mul_natAbs]

end Telemetry.Decimal
