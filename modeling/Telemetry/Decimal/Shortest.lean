import Telemetry.Decimal.Nearest

/-! Writing doubles: the fewest digits that read back to the same double, the nearest of those. -/
namespace Telemetry.Decimal

/-- Which of two equally near candidates is taken. -/
inductive Tie where
  | toEven
  | up
deriving DecidableEq, Repr

/-- Compares `a * 10 ^ i` with `n * 2 ^ j`, exactly. -/
def compareScaled (a : Nat) (i : Int) (n : Nat) (j : Int) : Ordering :=
  compare (a * 10 ^ i.toNat * 2 ^ (-j).toNat) (n * 2 ^ j.toNat * 10 ^ (-i).toNat)

/-- Whether `coefficient * 10 ^ exponent` lies among the reals that round to the magnitude. The ends
belong to it if its significand is even. -/
def Magnitude.contains (m : Magnitude) (coefficient : Nat) (exponent : Int) : Bool :=
  let low := if m.isNarrowBelow then 4 * m.significand - 1 else 4 * m.significand - 2
  let fromLow := compareScaled coefficient exponent low (m.exponent - 2)
  let fromHigh := compareScaled coefficient exponent (4 * m.significand + 2) (m.exponent - 2)
  let closed := m.significand % 2 == 0
  (fromLow == .gt || (closed && fromLow == .eq)) && (fromHigh == .lt || (closed && fromHigh == .eq))

/-- The least `k` with `num / den < 10 ^ k`, for positive `num` and `den`. -/
def scale (num den : Nat) : Int :=
  if den ≤ num then digitCount (num / den)
  else 1 - digitCount ((den - 1) / num)

/-- The better of the two neighbours of the magnitude on the grid of multiples of `10 ^ exponent`, if
one of them reads back. -/
def Magnitude.onGrid (m : Magnitude) (tie : Tie) (exponent : Int) : Option Nat :=
  let (num, den) := m.fraction
  let c := num * 10 ^ (-exponent).toNat / (den * 10 ^ exponent.toNat)
  match m.contains c exponent, m.contains (c + 1) exponent with
  | true, true =>
    match compareScaled (2 * c + 1) exponent (2 * m.significand) m.exponent with
    | .gt => some c
    | .lt => some (c + 1)
    | .eq => some (if tie = .toEven ∧ c % 2 = 0 then c else c + 1)
  | true, false => some c
  | false, true => some (c + 1)
  | false, false => none

/-- Tries the grids of the given exponent and below, the given number of them. -/
def Magnitude.search (m : Magnitude) (tie : Tie) : Nat → Int → Option (Nat × Int)
  | 0, _ => none
  | n + 1, exponent =>
    match m.onGrid tie exponent with
    | some c => some (c, exponent)
    | none => m.search tie n (exponent - 1)

/-- The magnitude itself, as a decimal. -/
def Magnitude.exact (m : Magnitude) : Nat × Int :=
  (m.significand * 2 ^ m.exponent.toNat * 5 ^ (-m.exponent).toNat, min m.exponent 0)

/-- Coefficient and exponent of the shortest decimal that reads back. Seventeen digits always suffice. -/
def Magnitude.shortest (m : Magnitude) (tie : Tie) : Nat × Int :=
  let (num, den) := m.fraction
  (m.search tie 17 (scale num den - 1)).getD m.exact

end Telemetry.Decimal
