import Mathlib
import Telemetry.Decimal.Magnitude

/-! Which bits are those of a finite double. -/
namespace Telemetry.Decimal

open Float.Model

private theorem unpack_isFinite (b : BitVec 64) :
    (UnpackedFloat.unpack Format.binary64 b).isFinite =
      !decide (@UnpackedFloat.unpackExponent Format.binary64 b = -1#11) := by
  simp only [UnpackedFloat.unpack]
  split
  · rename_i hexponent
    split <;> simp [UnpackedFloat.isFinite, hexponent]
  · rename_i hexponent
    split
    · split <;> simp_all [UnpackedFloat.isFinite]
    · simp_all [UnpackedFloat.isFinite]

private theorem unpackExponent_toNat (b : BitVec 64) :
    (@UnpackedFloat.unpackExponent Format.binary64 b).toNat = b.toNat / 2 ^ 52 % 2 ^ 11 := by
  simp [UnpackedFloat.unpackExponent, Nat.shiftRight_eq_div_pow]

private theorem unpackExponent_eq_iff (b : BitVec 64) :
    @UnpackedFloat.unpackExponent Format.binary64 b = -1#11 ↔
      infinityBits ≤ b.toNat % 2 ^ 63 := by
  have hb := b.isLt
  rw [← BitVec.toNat_inj, unpackExponent_toNat, infinityBits]
  have : (-1#11).toNat = 2047 := rfl
  rw [this]
  omega

/-- The finite doubles are those whose bits below the sign are below the bits of infinity. -/
theorem isFinite_iff (x : Float) : x.isFinite = true ↔ sizeBits x < infinityBits := by
  have hfinite : x.isFinite = (UnpackedFloat.unpack Format.binary64 x.toBits.toBitVec).isFinite := rfl
  rw [hfinite, unpack_isFinite, Bool.not_eq_true', decide_eq_false_iff_not, unpackExponent_eq_iff, Nat.not_le]
  rfl

private theorem pack_unpack_finite {b : BitVec 64}
    (h : @UnpackedFloat.unpackExponent Format.binary64 b ≠ -1#11) :
    UnpackedFloat.pack Format.binary64 (UnpackedFloat.unpack Format.binary64 b) = b := by
  rw [UnpackedFloat.pack_unpack, if_neg]
  intro hnan
  exact h (of_decide_eq_true hnan).1

section OfSizeBits

variable {bits : Nat}

private theorem toNat_ofNat_bits (negative : Bool) (h : bits < infinityBits) :
    (UInt64.ofNat (bits + if negative then 2 ^ 63 else 0)).toNat = bits + if negative then 2 ^ 63 else 0 := by
  simp only [infinityBits] at h
  rw [UInt64.toNat_ofNat']
  cases negative <;> simp <;> omega

/-- Bits below those of infinity are the bits of the double made of them. -/
theorem toBits_ofSizeBits (negative : Bool) (h : bits < infinityBits) :
    (ofSizeBits negative bits).toBits = UInt64.ofNat (bits + if negative then 2 ^ 63 else 0) := by
  have hexponent : @UnpackedFloat.unpackExponent Format.binary64
      (UInt64.ofNat (bits + if negative then 2 ^ 63 else 0)).toBitVec ≠ -1#11 := by
    rw [Ne, unpackExponent_eq_iff, UInt64.toNat_toBitVec, toNat_ofNat_bits negative h]
    simp only [infinityBits] at h ⊢
    cases negative <;> simp <;> omega
  exact congrArg UInt64.ofBitVec (pack_unpack_finite hexponent)

theorem sizeBits_ofSizeBits (negative : Bool) (h : bits < infinityBits) :
    sizeBits (ofSizeBits negative bits) = bits := by
  rw [sizeBits, toBits_ofSizeBits negative h, toNat_ofNat_bits negative h]
  simp only [infinityBits] at h
  cases negative <;> simp <;> omega

theorem isNegative_ofSizeBits (negative : Bool) (h : bits < infinityBits) :
    isNegative (ofSizeBits negative bits) = negative := by
  rw [isNegative, toBits_ofSizeBits negative h, toNat_ofNat_bits negative h]
  simp only [infinityBits] at h
  cases negative <;> simp
  omega

/-- Bits below those of infinity make a finite double. -/
theorem isFinite_ofSizeBits (negative : Bool) (h : bits < infinityBits) :
    (ofSizeBits negative bits).isFinite = true := by
  rw [isFinite_iff, sizeBits_ofSizeBits negative h]
  exact h

end OfSizeBits

end Telemetry.Decimal
