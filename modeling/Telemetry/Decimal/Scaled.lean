import Telemetry.Decimal.Nearest

/-! Reading decimals within machine words: the digits that fit sixty-four bits, rounded to a double, times a
power of ten that is a double as well. Each step rounds, so the result can be a neighbour of the nearest
double; up to fifteen digits and with a small exponent it is the nearest one. -/
namespace Telemetry.Decimal

/-- Appends digits to a number for as long as it fits sixty-four bits, and gives back the digits that are
left. -/
def absorb (n : Nat) : List Char → Nat × List Char
  | [] => (n, [])
  | d :: ds =>
    let next := 10 * n + (d.toNat - '0'.toNat)
    if next < 2 ^ 64 then absorb next ds else (n, d :: ds)

/-- Significand and exponent of a number with the given digits before and after the point. A digit before
the point that is left out counts as a power of ten, one after the point does not count. -/
def collect (whole fraction : List Char) (exponent : Int) : Nat × Int :=
  let (n, dropped) := absorb 0 whole
  let (m, unread) := absorb n fraction
  (m, exponent + dropped.length - (fraction.length - unread.length : Nat))

/-- The bits of the double nearest to the product of two magnitudes, given by their bits. -/
def timesBits (x y : Nat) : Nat :=
  let (a, b) := (Magnitude.ofBits x).fraction
  let (c, d) := (Magnitude.ofBits y).fraction
  nearestBits (a * c) (b * d)

/-- The bits of the double nearest to the quotient of two magnitudes, given by their bits. -/
def overBits (x y : Nat) : Nat :=
  let (a, b) := (Magnitude.ofBits x).fraction
  let (c, d) := (Magnitude.ofBits y).fraction
  nearestBits (a * d) (b * c)

/-- The bits of the double nearest to a power of ten. -/
def powerBits (k : Nat) : Nat := nearestBits (10 ^ k) 1

/-- The bits of a word times a power of ten, in steps of at most `10 ^ 308`. No word survives three
steps down, and only zero survives a second step up. -/
def stepwiseBits (word : Nat) (exponent : Int) : Nat :=
  let bits := nearestBits word 1
  if bits = 0 then 0
  else if 308 < exponent then infinityBits
  else if 0 ≤ exponent then timesBits bits (powerBits exponent.toNat)
  else if -308 ≤ exponent then overBits bits (powerBits (-exponent).toNat)
  else if -616 ≤ exponent then overBits (overBits bits (powerBits 308)) (powerBits (-exponent - 308).toNat)
  else 0

/-- The finite double of a number with the given digits before and after the point; `none` if it is too
large. -/
def scaled? (negative : Bool) (whole fraction : List Char) (exponent : Int) : Option Float :=
  let (word, exponent) := collect whole fraction exponent
  let bits := stepwiseBits word exponent
  if bits < infinityBits then some (ofSizeBits negative bits) else none

end Telemetry.Decimal
