import Telemetry.Json.Reader

/-! Reading typed values from JSON. The first part that is not as expected, in reading order, decides the
error. -/
namespace Telemetry.Json

/-- Why a value is not what was expected. -/
inductive DecodeError
  /-- wrong type, missing or repeated member, unknown variant, or a number out of its range -/
  | mismatch
  /-- an integer that its field cannot hold -/
  | outOfRange (n : Int)
  /-- a text that is not an integer of the field's range -/
  | invalidInteger (text : String)
  /-- a text that is not base64 -/
  | invalidBase64
deriving DecidableEq, Repr

/-- A reader of typed values. -/
abbrev Decoder (α : Type) := Draft → Except DecodeError α

/-- Reads a text. What is wrong with the text behind the value is noticed after the value is read. -/
def decodeText {α : Type} (decode : Decoder α) (s : String) : Except DecodeError α := do
  let (v, complete) := readDraft s.toList
  let x ← decode v
  if complete then return x else .error .mismatch

def decodeString : Decoder String
  | .string s => .ok s
  | _ => .error .mismatch

def decodeBool : Decoder Bool
  | .bool b => .ok b
  | _ => .error .mismatch

/-- An integer between the given bounds. -/
def decodeInt (low high : Int) : Decoder Int
  | .number (.int n _) => if low ≤ n ∧ n ≤ high then .ok n else .error .mismatch
  | _ => .error .mismatch

def decodeInt64 : Decoder Int64 := fun v => Int64.ofInt <$> decodeInt (-2 ^ 63) (2 ^ 63 - 1) v

def decodeInt32 : Decoder Int32 := fun v => Int32.ofInt <$> decodeInt (-2 ^ 31) (2 ^ 31 - 1) v

def decodeUInt32 : Decoder UInt32 := fun v => (UInt32.ofNat ·.toNat) <$> decodeInt 0 (2 ^ 32 - 1) v

def decodeUInt64 : Decoder UInt64 := fun v => (UInt64.ofNat ·.toNat) <$> decodeInt 0 (2 ^ 64 - 1) v

/-- Any number, as a double. -/
def decodeFloat : Decoder Float
  | .number n => .ok n.toFloat
  | _ => .error .mismatch

/-- A double; null stands for NaN. -/
def decodeFloatOrNaN : Decoder Float
  | .null => .ok Decimal.nan
  | v => decodeFloat v

/-- Applies a reader to each value, up to the first error. -/
def decodeEach {α : Type} (item : Decoder α) : List Draft → Except DecodeError (List α)
  | [] => .ok []
  | v :: rest => do
    let x ← item v
    let xs ← decodeEach item rest
    return x :: xs

def decodeList {α : Type} (item : Decoder α) : Decoder (List α)
  | .array items => decodeEach item items
  | _ => .error .mismatch

/-- Null stands for no value. -/
def decodeOption {α : Type} (item : Decoder α) : Decoder (Option α)
  | .null => .ok none
  | v => some <$> item v

/-- A value that has to be there. -/
def require {α : Type} : Option α → Except DecodeError α
  | some x => .ok x
  | none => .error .mismatch

/-- A variant: its name alone, or an object whose only member has the name as its key. Whether there are
more members is known before the value is read, unless they come one by one. -/
def decodeVariant {α : Type} (read : String → Option Draft → Except DecodeError α) : Decoder α
  | .string name => read name none
  | .object _ [(some name, v)] => read name (some v)
  | .object .stream ((some name, v) :: _) => do
    let _ ← read name (some v)
    .error .mismatch
  | _ => .error .mismatch

/-- Whether a value stands for the value of a variant that has none. -/
def Draft.isNothing : Draft → Bool
  | .null => true
  | .object .buffered [] => true
  | _ => false

/-- The name of a variant that carries no value. -/
def decodeUnitVariant : Decoder String :=
  decodeVariant fun name value => if value.all (·.isNothing) then .ok name else .error .mismatch

/-- A variant that carries a value. -/
def decodeValueVariant {α : Type} (read : String → Decoder α) : Decoder α :=
  decodeVariant fun name value =>
    match value with
    | some v => read name v
    | none => .error .mismatch

end Telemetry.Json
