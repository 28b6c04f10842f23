import Telemetry.Decimal.Shortest

/-! The text of a double: its shortest digits, laid out by a record of decisions. -/
namespace Telemetry.Decimal

/-- The decisions of an output format about how the digits of a finite double are written. -/
structure Layout where
  /-- whether a number is written without an exponent, by the exponent of its leading digit -/
  isPositional : Int → Bool
  /-- whether a whole number written without an exponent ends in `.0` -/
  hasPointZero : Bool
  /-- which of two equally near shortest decimals is written -/
  tie : Tie

/-- Digits without the zeros at their end; a lone zero stays. -/
def stripZeros (digits : List Char) : List Char :=
  match (digits.reverse.dropWhile (· == '0')).reverse with
  | [] => ['0']
  | ds => ds

/-- Digits with a decimal point, the leading digit having the given exponent. -/
def positional (pointZero : Bool) (digits : List Char) (lead : Int) : List Char :=
  if lead < 0 then
    '0' :: '.' :: (List.replicate (-lead - 1).toNat '0' ++ digits)
  else if digits.length ≤ lead.toNat + 1 then
    digits ++ List.replicate (lead.toNat + 1 - digits.length) '0' ++ (if pointZero then ['.', '0'] else [])
  else
    digits.take (lead.toNat + 1) ++ '.' :: digits.drop (lead.toNat + 1)

/-- The first digit, a point before the others, and the exponent with its sign. -/
def scientific (digits : List Char) (lead : Int) : List Char :=
  let mantissa := match digits with
    | d :: e :: rest => d :: '.' :: e :: rest
    | ds => ds
  mantissa ++ 'e' :: (if lead < 0 then '-' else '+') :: Nat.toDigits 10 lead.natAbs

/-- The text of a magnitude in a layout. -/
def Layout.digits (l : Layout) (m : Magnitude) : List Char :=
  if m.significand = 0 then positional l.hasPointZero ['0'] 0
  else
    let (coefficient, exponent) := m.shortest l.tie
    let ds := Nat.toDigits 10 coefficient
    let lead : Int := exponent + (ds.length - 1 : Nat)
    if l.isPositional lead then positional l.hasPointZero (stripZeros ds) lead
    else scientific (stripZeros ds) lead

/-- The text of a finite double. The sign of a zero is written. -/
def Layout.finite (l : Layout) (x : Float) : List Char :=
  let text := l.digits (Magnitude.ofBits (sizeBits x))
  if isNegative x then '-' :: text else text

/-- Plain text for people: never an exponent, no point in a whole number. -/
def plain : Layout := ⟨fun _ => true, false, .up⟩

/-- The plain text of any double. -/
def display (x : Float) : String :=
  if x.isNaN then "NaN"
  else if x.isInf then (if isNegative x then "-inf" else "inf")
  else String.ofList (plain.finite x)

end Telemetry.Decimal
