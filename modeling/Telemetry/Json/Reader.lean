import Telemetry.Decimal.Scaled
import Telemetry.Json.Draft
import Telemetry.Text.Hex

/-! Reading JSON text. Each step takes the characters that are left and gives back what it read and the
characters after it, or no characters if the text has lost its form. Arrays and objects that are read may
nest 127 deep. -/
namespace Telemetry.Json

/-- The characters allowed between tokens. -/
def isSpace (c : Char) : Bool := c == ' ' || c == '\n' || c == '\t' || c == '\r'

def skipSpace (cs : List Char) : List Char := cs.dropWhile isSpace

/-- The character a one-letter escape stands for. -/
def unescape (c : Char) : Option Char :=
  match c with
  | '"' => some '"'
  | '\\' => some '\\'
  | '/' => some '/'
  | 'b' => some '\x08'
  | 'f' => some '\x0c'
  | 'n' => some '\n'
  | 'r' => some '\r'
  | 't' => some '\t'
  | _ => none

/-- The value of four hexadecimal digits. -/
def hexUnit (a b c d : Char) : Option Nat := do
  let a ← Text.hexValue a
  let b ← Text.hexValue b
  let c ← Text.hexValue c
  let d ← Text.hexValue d
  return ((a * 16 + b) * 16 + c) * 16 + d

/-- The code points of a string after its opening quote. A control below a space is refused; half of a
surrogate pair is kept. -/
def readUnits : List Char → Option (List Nat × List Char)
  | [] => none
  | '"' :: cs => some ([], cs)
  | '\\' :: 'u' :: a :: b :: c :: d :: cs => do
    let n ← hexUnit a b c d
    let (units, rest) ← readUnits cs
    return (n :: units, rest)
  | '\\' :: c :: cs => do
    let x ← unescape c
    let (units, rest) ← readUnits cs
    return (x.toNat :: units, rest)
  | c :: cs =>
    if c.toNat < 32 then none
    else do
      let (units, rest) ← readUnits cs
      return (c.toNat :: units, rest)

/-- The first half of a surrogate pair. -/
def isLeading (n : Nat) : Bool := 0xd800 ≤ n && n < 0xdc00

/-- The second half of a surrogate pair. -/
def isTrailing (n : Nat) : Bool := 0xdc00 ≤ n && n < 0xe000

/-- The characters of code points: two halves of a surrogate pair are one character, half a pair is none. -/
def joinUnits : List Nat → Option (List Char)
  | [] => some []
  | n :: rest =>
    if isTrailing n then none
    else if isLeading n then
      match rest with
      | m :: rest =>
        if isTrailing m then
          (joinUnits rest).map (Char.ofNat (0x10000 + (n - 0xd800) * 0x400 + (m - 0xdc00)) :: ·)
        else none
      | [] => none
    else (joinUnits rest).map (Char.ofNat n :: ·)

/-- The text of code points. -/
def unitsText (units : List Nat) : Option String := (joinUnits units).map String.ofList

/-- A run of decimal digits and what follows it. -/
def spanDigits (cs : List Char) : List Char × List Char :=
  (cs.takeWhile Char.isDigit, cs.dropWhile Char.isDigit)

/-- The number a run of digits stands for. -/
def digitsValue (ds : List Char) : Nat := Nat.ofDigitChars 10 ds 0

/-- The fraction of a number: nothing, or a point and at least one digit. -/
def readFraction (cs : List Char) : Option (Option (List Char) × List Char) :=
  match cs with
  | '.' :: cs =>
    match spanDigits cs with
    | ([], _) => none
    | (ds, rest) => some (some ds, rest)
  | cs => some (none, cs)

/-- The exponent of a number: nothing, or a letter, perhaps a sign, and at least one digit. -/
def readExponent (cs : List Char) : Option (Option Int × List Char) :=
  match cs with
  | c :: cs' =>
    if c = 'e' ∨ c = 'E' then
      let (negative, cs'') := match cs' with
        | '+' :: r => (false, r)
        | '-' :: r => (true, r)
        | r => (false, r)
      match spanDigits cs'' with
      | ([], _) => none
      | (ds, rest) =>
        let n : Int := digitsValue ds
        some (some (if negative then -n else n), rest)
    else some (none, cs)
  | [] => some (none, [])

/-- The number with the given parts. Without fraction and exponent it is an integer if it fits; minus
zero does not count as one. -/
def assemble (negative : Bool) (whole : List Char) (fraction : Option (List Char))
    (exponent : Option Int) : Option Number :=
  let float : Option Number :=
    (Decimal.scaled? negative whole (fraction.getD []) (exponent.getD 0)).bind Number.ofFloat?
  if fraction.isNone ∧ exponent.isNone then
    let n : Int := digitsValue whole
    if negative then
      if n = 0 then float else (Number.ofInt? (-n)).or float
    else (Number.ofInt? n).or float
  else float

/-- A number without its sign. Its whole part has no leading zero. A number beyond the doubles is
broken. -/
def readMagnitude (negative : Bool) (cs : List Char) : Option (Draft × List Char) :=
  match spanDigits cs with
  | ([], _) => none
  | ('0' :: _ :: _, _) => none
  | (whole, rest) => do
    let (fraction, rest) ← readFraction rest
    let (exponent, rest) ← readExponent rest
    return (((assemble negative whole fraction exponent).map Draft.number).getD .broken, rest)

/-- A number. -/
def readNumber (cs : List Char) : Option (Draft × List Char) :=
  match cs with
  | '-' :: cs => readMagnitude true cs
  | cs => readMagnitude false cs

/-- A key and the colon after it. -/
def readKey (cs : List Char) : Option (Option String × List Char) :=
  match skipSpace cs with
  | '"' :: cs => do
    let (units, rest) ← readUnits cs
    match skipSpace rest with
    | ':' :: rest => return (unitsText units, rest)
    | _ => none
  | _ => none

/-- What is read of a value, and the rest behind it if it has an end. -/
abbrev Reading (α : Type) := α × Option (List Char)

/-- A value without an end. -/
def Reading.cut : Reading Draft := (.broken, none)

mutual

/-- A value after optional blanks. The count bounds the steps; two for each character, and one, are
enough. -/
def readValue : Nat → List Char → Reading Draft
  | 0, _ => .cut
  | steps + 1, cs =>
    match skipSpace cs with
    | 'n' :: 'u' :: 'l' :: 'l' :: rest => (.null, some rest)
    | 't' :: 'r' :: 'u' :: 'e' :: rest => (.bool true, some rest)
    | 'f' :: 'a' :: 'l' :: 's' :: 'e' :: rest => (.bool false, some rest)
    | '"' :: cs =>
      match readUnits cs with
      | some (units, rest) => (((unitsText units).map Draft.string).getD .broken, some rest)
      | none => .cut
    | '[' :: cs =>
      match skipSpace cs with
      | ']' :: rest => (.array [], some rest)
      | cs =>
        let (items, rest) := readItems steps cs
        (.array items, rest)
    | '{' :: cs =>
      match skipSpace cs with
      | '}' :: rest => (.object .stream [], some rest)
      | cs =>
        let (members, rest) := readMembers steps cs
        (.object .stream members, rest)
    | cs =>
      match readNumber cs with
      | some (v, rest) => (v, some rest)
      | none => .cut

/-- The items of an array that has at least one, up to its closing bracket. -/
def readItems : Nat → List Char → Reading (List Draft)
  | 0, _ => ([.broken], none)
  | steps + 1, cs =>
    let (v, rest) := readValue steps cs
    match rest.map skipSpace with
    | some (']' :: rest) => ([v], some rest)
    | some (',' :: rest) =>
      let (vs, rest) := readItems steps rest
      (v :: vs, rest)
    | some _ => ([v, .broken], none)
    | none => ([v], none)

/-- The members of an object that has at least one, up to its closing brace. -/
def readMembers : Nat → List Char → Reading (List (Option String × Draft))
  | 0, _ => ([(none, .broken)], none)
  | steps + 1, cs =>
    match readKey cs with
    | none => ([(none, .broken)], none)
    | some (key, rest) =>
      let (v, rest) := readValue steps rest
      match rest.map skipSpace with
      | some ('}' :: rest) => ([(key, v)], some rest)
      | some (',' :: rest) =>
        let (ms, rest) := readMembers steps rest
        ((key, v) :: ms, rest)
      | some _ => ([(key, v), (none, .broken)], none)
      | none => ([(key, v)], none)

end

/-- How deep the arrays and objects of a text may nest where they are read. -/
def depthLimit : Nat := 127

/-- The draft of a text, and whether the text is JSON from its start to its end. -/
def readDraft (cs : List Char) : Draft × Bool :=
  let (v, rest) := readValue (2 * cs.length + 1) cs
  (v.limit depthLimit, match rest with
    | some rest => (skipSpace rest).isEmpty
    | none => false)

/-- The value of a text, with nothing but blanks around it. Repeated keys are kept. -/
def parseChars (cs : List Char) : Option Json :=
  let (v, complete) := readDraft cs
  if complete then v.toJson? else none

/-- The value of a text as it is written, repeated keys included. -/
def parse? (s : String) : Option Json := parseChars s.toList

end Telemetry.Json
