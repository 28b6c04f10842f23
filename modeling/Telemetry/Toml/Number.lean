import Telemetry.Decimal.Nearest
import Telemetry.Text.Hex

/-! Integers and floats, as TOML writes them. -/
namespace Telemetry.Toml

/-- Digits, of which neighbours may have one underscore between them. -/
def readDigits (value : Char → Option Nat) : List Char → Option (List Nat)
  | [] => none
  | [c] => do return [← value c]
  | c :: '_' :: cs => do
    let d ← value c
    let ds ← readDigits value cs
    return d :: ds
  | c :: cs => do
    let d ← value c
    let ds ← readDigits value cs
    return d :: ds

/-- The value of a digit below the base. -/
def digit? (base : Nat) (c : Char) : Option Nat := do
  let d ← Text.hexValue c
  guard (d < base)
  return d

/-- The digits of a number in a base, leading zeros included. -/
def digits? (base : Nat) (cs : List Char) : Option (List Nat) := readDigits (digit? base) cs

/-- The number that digits stand for. -/
def ofDigits (base : Nat) (ds : List Nat) : Nat := ds.foldl (fun n d => base * n + d) 0

/-- A number in a base. -/
def readNat (base : Nat) (cs : List Char) : Option Nat := (digits? base cs).map (ofDigits base)

/-- The digits of a decimal number without leading zeros. -/
def wholeDigits? (cs : List Char) : Option (List Nat) :=
  if cs.head? = some '0' ∧ 1 < cs.length then none else digits? 10 cs

/-- A decimal number without leading zeros. -/
def readDecimal (cs : List Char) : Option Nat := (wholeDigits? cs).map (ofDigits 10)

/-- An integer that fits a signed sixty-four bit word. -/
def fitting (n : Int) : Option Int := if -2 ^ 63 ≤ n ∧ n < 2 ^ 63 then some n else none

/-- An integer, in decimal with a sign or in another base without one. -/
def readInteger (cs : List Char) : Option Int := do
  match cs with
  | '0' :: 'x' :: ds => fitting (← readNat 16 ds)
  | '0' :: 'o' :: ds => fitting (← readNat 8 ds)
  | '0' :: 'b' :: ds => fitting (← readNat 2 ds)
  | '-' :: ds => fitting (-(← readDecimal ds))
  | '+' :: ds => fitting (← readDecimal ds)
  | ds => fitting (← readDecimal ds)

/-- Whether there is a minus sign in front, and the characters without the sign. -/
def splitSign : List Char → Bool × List Char
  | '-' :: cs => (true, cs)
  | '+' :: cs => (false, cs)
  | cs => (false, cs)

/-- The exponent after its letter; none stands for zero. -/
def exponent? : List Char → Option Int
  | [] => some 0
  | _ :: cs => do
    let (negative, digits) := splitSign cs
    let n : Int := ← readNat 10 digits
    return if negative then -n else n

/-- The digits after the point; a number may have none and no point. -/
def fraction? : List Char → Option (List Nat)
  | [] => some []
  | _ :: cs => digits? 10 cs

/-- Whether the characters are a float: digits and a fraction, an exponent or both, or a name. A number that
is too large for a double is none, unless it is negative. -/
def isFloat (cs : List Char) : Bool :=
  let (negative, cs) := splitSign cs
  if cs = ['i', 'n', 'f'] ∨ cs = ['n', 'a', 'n'] then true
  else
    let (mantissa, exponent) := cs.span fun c => c ≠ 'e' ∧ c ≠ 'E'
    let (whole, fraction) := mantissa.span (· ≠ '.')
    match wholeDigits? whole, fraction? fraction, exponent? exponent with
    | some ws, some fs, some e =>
      !(fraction.isEmpty && exponent.isEmpty) &&
        (negative || (Decimal.toFloat? false (ofDigits 10 (ws ++ fs)) (e - fs.length)).isSome)
    | _, _, _ => false

end Telemetry.Toml
