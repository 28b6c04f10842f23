import Telemetry.Attribute

/-! Typing dynamic values. It never fails: what has no exact type is stored as text, with a warning. -/
namespace Telemetry.AttributeEncoding

open Json

/-- The text a value without a type is stored as: a string as itself, anything else as JSON. -/
def stringify : Json → String
  | .string s => s
  | v => v.text

/-- The element type a list takes from its first item. -/
inductive ListType
  | string | int | float | bool
deriving DecidableEq, Repr

def ListType.of? : Json → Option ListType
  | .string _ => some .string
  | .bool _ => some .bool
  | .number (.float ..) => some .float
  | .number (.int ..) => some .int
  | _ => none

def string? : Json → Option String
  | .string s => some s
  | _ => none

def bool? : Json → Option Bool
  | .bool b => some b
  | _ => none

def int64? : Json → Option Int64
  | .number n => n.int64?
  | _ => none

def float? : Json → Option Float
  | .number n => some n.toFloat
  | _ => none

/-- An integer that only an unsigned word can hold. -/
def isUnsigned (v : Json) : Bool :=
  match v with
  | .number n => n.int64?.isNone && n.uint64?.isSome
  | _ => false

/-- The items as a list of the given type, if each of them is of it. A list of doubles takes integers,
rounded to the nearest double. -/
def typedList? (type : ListType) (items : List Json) : Option AttributeValue :=
  match type with
  | .string => .stringList <$> items.mapM string?
  | .int => .intList <$> items.mapM int64?
  | .float => .floatList <$> items.mapM float?
  | .bool => .boolList <$> items.mapM bool?

/-- Stores the items of a list as texts. -/
def fallback (key : String) (items : List Json) (fault : ListFault) : Reported AttributeValue := do
  Reported.warn (.untypedList key fault items.length)
  return .stringList (items.map stringify)

/-- The typed form of a list; the empty list is one of strings. -/
def encodeList (key : String) (items : List Json) : Reported AttributeValue :=
  match items with
  | [] => return .stringList []
  | first :: _ =>
    match ListType.of? first with
    | none => fallback key items .untypedFirst
    | some type =>
      match typedList? type items with
      | some value => return value
      | none =>
        if type = .int ∧ items.any isUnsigned then fallback key items .overflow
        else fallback key items .mixed

/-- The typed form of a number. -/
def encodeNumber (key : String) (n : Number) : Reported AttributeValue :=
  match n.int64? with
  | some i => return .int i
  | none =>
    match n.uint64? with
    | some u => do
      Reported.warn (.unsignedAttribute key u)
      return .string (toString u.toNat)
    | none => return .float n.toFloat

/-- The typed form of a value, which is to be stored under the key. -/
def encodeValue (key : String) (v : Json) : Reported AttributeValue :=
  match v with
  | .string s => return .string s
  | .bool b => return .bool b
  | .number n => encodeNumber key n
  | .array items => encodeList key items
  | .null | .object _ => do
    Reported.warn (.unsupportedValue key v.kind)
    return .string (stringify v)

/-- Types the members of an object and stores them in the map. -/
def encodeInto (attributes : Attributes) : List (String × Json) → Reported Attributes
  | [] => return attributes
  | (key, v) :: rest => do
    let value ← encodeValue key v
    let attributes ← attributes.insert key value
    encodeInto attributes rest

/-- The typed form of the members of an object. -/
def encode (members : List (String × Json)) : Reported Attributes := encodeInto .empty members

end Telemetry.AttributeEncoding
