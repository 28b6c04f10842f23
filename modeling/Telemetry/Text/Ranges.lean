/-! Classes of characters as ranges. -/
namespace Telemetry.Text

/-- Whether a character lies in one of the ranges with the given bounds: an odd number of bounds are not
above it. -/
def inRanges (bounds : List Nat) (c : Char) : Bool :=
  (bounds.takeWhile (· ≤ c.toNat)).length % 2 = 1

end Telemetry.Text
