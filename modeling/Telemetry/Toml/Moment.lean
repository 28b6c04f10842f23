/-! Dates and times, as TOML writes them. -/
namespace Telemetry.Toml

/-- The number that so many digits stand for. -/
def field? (count : Nat) (cs : List Char) : Option Nat :=
  if cs.length = count ∧ cs.all Char.isDigit then some (Nat.ofDigitChars 10 cs 0) else none

/-- Whether digits stand for a number in a range. -/
def isField (count low high : Nat) (cs : List Char) : Bool :=
  match field? count cs with
  | some n => low ≤ n && n ≤ high
  | none => false

def isLeapYear (year : Nat) : Bool := year % 4 = 0 && (year % 100 ≠ 0 || year % 400 = 0)

/-- The last day of a month. -/
def lastDay (year month : Nat) : Nat :=
  if month = 2 then (if isLeapYear year then 29 else 28)
  else if month = 4 ∨ month = 6 ∨ month = 9 ∨ month = 11 then 30
  else 31

/-- A date: year, month and day. -/
def isDate : List Char → Bool
  | [a, b, c, d, '-', e, f, '-', g, h] =>
    match field? 4 [a, b, c, d], field? 2 [e, f], field? 2 [g, h] with
    | some year, some month, some day =>
      1 ≤ month && month ≤ 12 && 1 ≤ day && day ≤ lastDay year month
    | _, _, _ => false
  | _ => false

/-- Hour and minute. -/
def isClock : List Char → Bool
  | [a, b, ':', c, d] => isField 2 0 23 [a, b] && isField 2 0 59 [c, d]
  | _ => false

/-- What follows a time: hour, minute and second, which may be a leap second and have a fraction. -/
def timeRest? : List Char → Option (List Char)
  | a :: b :: ':' :: c :: d :: ':' :: e :: f :: rest =>
    if isClock [a, b, ':', c, d] && isField 2 0 60 [e, f] then
      match rest with
      | '.' :: g :: rest => if g.isDigit then some (rest.dropWhile Char.isDigit) else none
      | rest => some rest
    else none
  | _ => none

def isTime (cs : List Char) : Bool := timeRest? cs = some []

/-- A time that may have its distance from universal time behind it. -/
def isOffsetTime (cs : List Char) : Bool :=
  match timeRest? cs with
  | none => false
  | some [] => true
  | some ['Z'] => true
  | some ['z'] => true
  | some (sign :: clock) => (sign = '+' || sign = '-') && isClock clock

/-- A date, a time, or both with a letter between them. -/
def isMoment (cs : List Char) : Bool :=
  isDate cs || isTime cs ||
    isDate (cs.take 10) && (match cs.drop 10 with
      | 'T' :: time => isOffsetTime time
      | 't' :: time => isOffsetTime time
      | _ => false)

end Telemetry.Toml
