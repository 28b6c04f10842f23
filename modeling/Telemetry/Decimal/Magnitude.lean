import Telemetry.Instances

/-! Finite doubles as scaled integers. The bits below the sign number the magnitudes in ascending
order, so a magnitude is stored and compared as a natural number. -/
namespace Telemetry.Decimal

/-- The size of a finite double: `significand * 2 ^ exponent`. -/
structure Magnitude where
  significand : Nat
  exponent : Int
deriving DecidableEq, Repr

/-- The bits of infinity; every magnitude has smaller bits. -/
def infinityBits : Nat := 2047 * 2 ^ 52

/-- The magnitude with the given bits. Bits below `2 ^ 52` are the subnormal ones. -/
def Magnitude.ofBits (bits : Nat) : Magnitude :=
  if bits < 2 ^ 52 then ⟨bits, -1074⟩
  else ⟨2 ^ 52 + bits % 2 ^ 52, bits / 2 ^ 52 - 1075⟩

/-- The bits of a magnitude whose significand has at most fifty-three bits. A significand of `2 ^ 53`
carries into the exponent, which gives the bits of the same value. -/
def Magnitude.toBits (m : Magnitude) : Nat :=
  (m.exponent + 1074).toNat * 2 ^ 52 + m.significand

/-- Numerator and denominator of a magnitude. -/
def Magnitude.fraction (m : Magnitude) : Nat × Nat :=
  (m.significand * 2 ^ m.exponent.toNat, 2 ^ (-m.exponent).toNat)

/-- The gap to the next smaller double is half the gap to the next larger one. -/
def Magnitude.isNarrowBelow (m : Magnitude) : Bool :=
  m.significand == 2 ^ 52 && m.exponent > -1074

/-- The bits of a double below its sign. -/
def sizeBits (x : Float) : Nat := x.toBits.toNat % 2 ^ 63

/-- The sign bit, also of a zero. -/
def isNegative (x : Float) : Bool := 2 ^ 63 ≤ x.toBits.toNat

/-- The double with the given sign and bits below the sign. -/
def ofSizeBits (negative : Bool) (bits : Nat) : Float :=
  Float.ofBits (UInt64.ofNat (bits + if negative then 2 ^ 63 else 0))

/-- The only NaN this library makes. -/
def nan : Float := Float.ofBits 0x7ff8000000000000

end Telemetry.Decimal
