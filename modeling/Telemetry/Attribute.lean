import Telemetry.Json.Decoder
import Telemetry.Json.Printer
import Telemetry.Warning

/-! Attribute values and attribute maps: the typed form telemetry is stored in. -/
namespace Telemetry

/-- A value of one of eight types. An empty list keeps its type. -/
inductive AttributeValue
  | string (s : String)
  | int (n : Int64)
  | float (x : Float)
  | bool (b : Bool)
  | stringList (items : List String)
  | intList (items : List Int64)
  | floatList (items : List Float)
  | boolList (items : List Bool)
deriving DecidableEq

namespace AttributeValue

/-- The tag a type is stored under. -/
def tag : AttributeValue → String
  | .string _ => "str"
  | .int _ => "bigint"
  | .float _ => "double"
  | .bool _ => "boolean"
  | .stringList _ => "str_list"
  | .intList _ => "bigint_list"
  | .floatList _ => "double_list"
  | .boolList _ => "boolean_list"

/-- The plain value, without its type. -/
def plain : AttributeValue → Json
  | .string s => .string s
  | .int n => .ofInt64 n
  | .float x => .ofFloat x
  | .bool b => .bool b
  | .stringList items => .array (items.map .string)
  | .intList items => .array (items.map .ofInt64)
  | .floatList items => .array (items.map .ofFloat)
  | .boolList items => .array (items.map .bool)

/-- The stored form: the plain value under its type's tag. -/
def toJson (v : AttributeValue) : Json := .object [(v.tag, v.plain)]

/-- Reads the plain value of a type. Null in place of a double stands for NaN. -/
def decodePlain (tag : String) : Json.Decoder AttributeValue := fun value =>
  match tag with
  | "str" => .string <$> Json.decodeString value
  | "bigint" => .int <$> Json.decodeInt64 value
  | "double" => .float <$> Json.decodeFloatOrNaN value
  | "boolean" => .bool <$> Json.decodeBool value
  | "str_list" => .stringList <$> Json.decodeList Json.decodeString value
  | "bigint_list" => .intList <$> Json.decodeList Json.decodeInt64 value
  | "double_list" => .floatList <$> Json.decodeList Json.decodeFloatOrNaN value
  | "boolean_list" => .boolList <$> Json.decodeList Json.decodeBool value
  | _ => .error .mismatch

/-- Reads the stored form. -/
def decode : Json.Decoder AttributeValue := Json.decodeValueVariant decodePlain

/-- The text of a value: a scalar as itself, a list as JSON. -/
def display : AttributeValue → String
  | .string s => s
  | .int n => toString n.toInt
  | .float x => Decimal.display x
  | .bool b => toString b
  | v => v.plain.text

end AttributeValue

/-- Attribute values under ascending keys. -/
structure Attributes where
  entries : List (String × AttributeValue)
  ascending : Keyed.Ascending entries
deriving DecidableEq

namespace Attributes

def empty : Attributes := ⟨[], List.Pairwise.nil⟩

instance : Inhabited Attributes := ⟨empty⟩

/-- Stores a value under a key of any kind. -/
def set (attributes : Attributes) (key : String) (value : AttributeValue) : Attributes :=
  ⟨Keyed.insert key value attributes.entries, attributes.ascending.insert key value⟩

/-- Stores a value, unless its key is empty. -/
def insert (attributes : Attributes) (key : String) (value : AttributeValue) : Reported Attributes :=
  if key = "" then do
    Reported.warn .emptyKey
    return attributes
  else return attributes.set key value

def size (attributes : Attributes) : Nat := attributes.entries.length

def isEmpty (attributes : Attributes) : Bool := attributes.entries.isEmpty

def get? (attributes : Attributes) (key : String) : Option AttributeValue :=
  attributes.entries.lookup key

/-- The text of an attribute, empty if there is none. -/
def stringValue (attributes : Attributes) (key : String) : String :=
  match attributes.get? key with
  | some v => v.display
  | none => ""

/-- Inserts entries in the given order. -/
def insertAll (attributes : Attributes) : List (String × AttributeValue) → Reported Attributes
  | [] => return attributes
  | (key, value) :: rest => do
    let attributes ← attributes.insert key value
    attributes.insertAll rest

/-- The map of a list of entries. -/
def ofList (entries : List (String × AttributeValue)) : Reported Attributes :=
  empty.insertAll entries

/-- The plain values under their keys. -/
def plain (attributes : Attributes) : List (String × Json) :=
  attributes.entries.map fun e => (e.1, e.2.plain)

/-- The stored form. -/
def toJson (attributes : Attributes) : Json :=
  .object (attributes.entries.map fun e => (e.1, e.2.toJson))

/-- Stores the values of members in the given order. -/
def decodeInto (attributes : Attributes) :
    List (Option String × Json.Draft) → Except Json.DecodeError Attributes
  | [] => .ok attributes
  | (key, v) :: rest => do
    let key ← Json.require key
    let value ← AttributeValue.decode v
    (attributes.set key value).decodeInto rest

/-- Reads the stored form. Keys are taken as they are, the empty one included. -/
def decode : Json.Decoder Attributes
  | .object _ members => empty.decodeInto members
  | _ => .error .mismatch

end Attributes
end Telemetry
