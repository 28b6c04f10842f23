import Telemetry.Instances

/-! Reading whole numbers from decimal text: an optional sign and at least one ASCII digit. -/
namespace Telemetry.Text

/-- Why a text is not a whole number of the wanted range. The first fault from the left is reported. -/
inductive IntegerFault
  | empty
  | invalidDigit
  | overflow
deriving DecidableEq, Repr

/-- The wording of a fault. -/
def IntegerFault.message : IntegerFault → String
  | .empty => "cannot parse integer from empty string"
  | .invalidDigit => "invalid digit found in string"
  | .overflow => "number too large to fit in target type"

/-- Appends the digits to a number that may not exceed the limit. -/
def readDigits (limit : Nat) : Nat → List Char → Except IntegerFault Nat
  | n, [] => .ok n
  | n, c :: cs =>
    if c.isDigit then
      let m := 10 * n + (c.toNat - 48)
      if limit < m then .error .overflow else readDigits limit m cs
    else .error .invalidDigit

/-- Reads a whole number from `-below` to `above`. A minus sign is accepted for signed numbers only; no
blank is accepted anywhere. -/
def readInteger (signed : Bool) (below above : Nat) : List Char → Except IntegerFault Int
  | [] => .error .empty
  | ['+'] => .error .invalidDigit
  | ['-'] => .error .invalidDigit
  | '+' :: cs => Int.ofNat <$> readDigits above 0 cs
  | '-' :: cs =>
    if signed then (fun n => -Int.ofNat n) <$> readDigits below 0 cs else .error .invalidDigit
  | cs => Int.ofNat <$> readDigits above 0 cs

/-- A signed sixty-four bit number. -/
def readInt64 (cs : List Char) : Except IntegerFault Int := readInteger true (2 ^ 63) (2 ^ 63 - 1) cs

/-- An unsigned sixty-four bit number. -/
def readUInt64 (cs : List Char) : Except IntegerFault Int := readInteger false 0 (2 ^ 64 - 1) cs

end Telemetry.Text
