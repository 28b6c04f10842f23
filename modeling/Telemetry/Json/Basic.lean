import Telemetry.Keyed
import Telemetry.Decimal.Layout

/-! JSON values. An integer keeps its exact value if it fits sixty-four bits, signed or unsigned; every
other number is a finite double. -/
namespace Telemetry

/-- Whether an integer fits sixty-four bits, signed or unsigned. -/
def fitsWord (n : Int) : Bool := -2 ^ 63 ≤ n && n < 2 ^ 64

namespace Json

/-- A JSON number. -/
inductive Number
  | int (n : Int) (fits : fitsWord n = true)
  | float (x : Float) (finite : x.isFinite = true)
deriving DecidableEq

end Json

/-- A JSON value. Members are kept as they are listed; `Json.Canonical` says that their keys ascend. -/
inductive Json
  | null
  | bool (b : Bool)
  | number (n : Json.Number)
  | string (s : String)
  | array (items : List Json)
  | object (members : List (String × Json))

namespace Json

/-- The kind of a value. -/
inductive Kind
  | null | bool | number | string | array | object
deriving DecidableEq, Repr

/-- The name of a kind in messages. -/
def Kind.name : Kind → String
  | .null => "null"
  | .bool => "bool"
  | .number => "number"
  | .string => "string"
  | .array => "array"
  | .object => "object"

def kind : Json → Kind
  | .null => .null
  | .bool _ => .bool
  | .number _ => .number
  | .string _ => .string
  | .array _ => .array
  | .object _ => .object

/-- The number of an integer that fits. -/
def Number.ofInt? (n : Int) : Option Number :=
  if h : fitsWord n = true then some (.int n h) else none

/-- The number of a finite double. -/
def Number.ofFloat? (x : Float) : Option Number :=
  if h : x.isFinite = true then some (.float x h) else none

/-- A number as a signed word, if it is an integer that fits one. -/
def Number.int64? : Number → Option Int64
  | .int n _ => if -2 ^ 63 ≤ n ∧ n < 2 ^ 63 then some (Int64.ofInt n) else none
  | .float _ _ => none

/-- A number as an unsigned word, if it is an integer that fits one. -/
def Number.uint64? : Number → Option UInt64
  | .int n _ => if 0 ≤ n then some (UInt64.ofNat n.toNat) else none
  | .float _ _ => none

/-- A number as a double; an integer is rounded to the nearest one. -/
def Number.toFloat : Number → Float
  | .int n _ => Decimal.ofInt n
  | .float x _ => x

theorem fitsWord_int64 (n : Int64) : fitsWord n.toInt = true := by
  have h₁ := n.le_toInt
  have h₂ := n.toInt_lt
  simp only [fitsWord, Bool.and_eq_true, decide_eq_true_eq]
  omega

theorem fitsWord_uint64 (n : UInt64) : fitsWord (n.toNat : Int) = true := by
  have h := n.toNat_lt
  simp only [fitsWord, Bool.and_eq_true, decide_eq_true_eq]
  omega

/-- A signed word as a value. -/
def ofInt64 (n : Int64) : Json := .number (.int n.toInt (fitsWord_int64 n))

/-- An unsigned word as a value. -/
def ofUInt64 (n : UInt64) : Json := .number (.int n.toNat (fitsWord_uint64 n))

/-- A double as a value. JSON has no text for NaN and the infinities; they become null. -/
def ofFloat (x : Float) : Json :=
  if h : x.isFinite = true then .number (.float x h) else .null

mutual

/-- The value with the keys of every object ascending. Of members with one key the last stays. -/
def canonical : Json → Json
  | .array items => .array (canonicalItems items)
  | .object members => .object (Keyed.ofList (canonicalMembers members))
  | v => v

def canonicalItems : List Json → List Json
  | [] => []
  | v :: rest => canonical v :: canonicalItems rest

def canonicalMembers : List (String × Json) → List (String × Json)
  | [] => []
  | (k, v) :: rest => (k, canonical v) :: canonicalMembers rest

end

mutual

/-- Whether the keys of every object in the value ascend. -/
def Canonical : Json → Prop
  | .array items => CanonicalItems items
  | .object members => Keyed.Ascending members ∧ CanonicalMembers members
  | _ => True

def CanonicalItems : List Json → Prop
  | [] => True
  | v :: rest => Canonical v ∧ CanonicalItems rest

def CanonicalMembers : List (String × Json) → Prop
  | [] => True
  | (_, v) :: rest => Canonical v ∧ CanonicalMembers rest

end

mutual

/-- How deep arrays and objects nest in the value; a scalar has depth zero. -/
def depth : Json → Nat
  | .array items => itemsDepth items + 1
  | .object members => membersDepth members + 1
  | _ => 0

def itemsDepth : List Json → Nat
  | [] => 0
  | v :: rest => max (depth v) (itemsDepth rest)

def membersDepth : List (String × Json) → Nat
  | [] => 0
  | (_, v) :: rest => max (depth v) (membersDepth rest)

end

end Json
end Telemetry
