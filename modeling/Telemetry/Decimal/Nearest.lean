import Telemetry.Decimal.Magnitude

/-! Reading decimals: the double nearest to a decimal number, ties to the even significand. -/
namespace Telemetry.Decimal

/-- The greatest `e` with `2 ^ e ≤ num / den`, for positive `num` and `den`. -/
def log2Floor (num den : Nat) : Int :=
  let k : Int := num.log2 - den.log2
  if den * 2 ^ k.toNat ≤ num * 2 ^ (-k).toNat then k else k - 1

/-- `num / den` rounded to a whole number, a half to the even neighbour. -/
def divNearest (num den : Nat) : Nat :=
  let m := num / den
  let twice := 2 * (num % den)
  if den < twice ∨ (twice = den ∧ m % 2 = 1) then m + 1 else m

/-- The bits of the double nearest to `num / den`, without a bound on the exponent: bits that are not
below `infinityBits` stand for a number too large for a double. -/
def nearestBits (num den : Nat) : Nat :=
  if num = 0 then 0
  else
    let q := max (log2Floor num den - 52) (-1074)
    Magnitude.toBits ⟨divNearest (num * 2 ^ (-q).toNat) (den * 2 ^ q.toNat), q⟩

/-- The digit count of a number, one for zero. -/
def digitCount (n : Nat) : Nat := (Nat.toDigits 10 n).length

/-- The bits of the double nearest to `coefficient * 10 ^ exponent`. The first two cases decide numbers
far outside the range of doubles without computing a large power. -/
def scaledBits (coefficient : Nat) (exponent : Int) : Nat :=
  if coefficient = 0 then 0
  else if exponent + digitCount coefficient < -330 then 0
  else if 400 < exponent + digitCount coefficient then infinityBits
  else nearestBits (coefficient * 10 ^ exponent.toNat) (10 ^ (-exponent).toNat)

/-- The finite double nearest to `± coefficient * 10 ^ exponent`; `none` if it is too large. -/
def toFloat? (negative : Bool) (coefficient : Nat) (exponent : Int) : Option Float :=
  let bits := scaledBits coefficient exponent
  if bits < infinityBits then some (ofSizeBits negative bits) else none

/-- The double nearest to `coefficient / 10 ^ places`, for numbers in the range of doubles. -/
def ofDecimal (coefficient places : Nat) : Float :=
  ofSizeBits false (nearestBits coefficient (10 ^ places))

/-- The double nearest to an integer of at most sixty-four bits. -/
def ofInt (n : Int) : Float :=
  ofSizeBits (n < 0) (nearestBits n.natAbs 1)

end Telemetry.Decimal
