import Telemetry.Json.Decoder
import Telemetry.Json.Printer
import Telemetry.Text.Base64
import Telemetry.Warning

/-! Log bodies. Scalars keep their type; lists and maps are kept as JSON text. -/
namespace Telemetry

/-- The body of a log record. -/
inductive Body
  | string (s : String)
  | int (n : Int64)
  | float (x : Float)
  | bool (b : Bool)
  | bytes (b : List UInt8)
  | json (text : String)
deriving DecidableEq

namespace Body

/-- The JSON text of a list or a map. -/
def structured (v : Json) : Body := .json v.text

/-- The body of a dynamic value; null is no body. -/
def ofJson? : Json → Reported (Option Body)
  | .null => return none
  | .string s => return some (.string s)
  | .bool b => return some (.bool b)
  | .number n =>
    match n.int64? with
    | some i => return some (.int i)
    | none =>
      match n.uint64? with
      | some u => do
        Reported.warn (.unsignedBody u)
        return some (.string (toString u.toNat))
      | none => return some (.float n.toFloat)
  | .array items => return some (structured (.array items))
  | .object members => return some (structured (.object members))

/-- The value shown to clients: bytes as base64, JSON text as the value it stands for, or as a string if
it cannot be read. -/
def plain : Body → Json
  | .string s => .string s
  | .int n => .ofInt64 n
  | .float x => .ofFloat x
  | .bool b => .bool b
  | .bytes b => .string (Text.Base64.encode b)
  | .json text =>
    match Json.parse? text with
    | some v => v.canonical
    | none => .string text

/-- The text of a body. -/
def display : Body → String
  | .string s => s
  | .int n => toString n.toInt
  | .float x => Decimal.display x
  | .bool b => toString b
  | .bytes b => Text.Base64.encode b
  | .json text => text

/-- The stored form: a value under its type's tag. -/
def toJson : Body → Json
  | .string s => .object [("str", .string s)]
  | .int n => .object [("bigint", .ofInt64 n)]
  | .float x => .object [("double", .ofFloat x)]
  | .bool b => .object [("boolean", .bool b)]
  | .bytes b => .object [("bytes", .string (Text.Base64.encode b))]
  | .json text => .object [("json", .string text)]

/-- Bytes from base64 text. -/
def decodeBytes : Json.Decoder (List UInt8)
  | .string s =>
    match Text.Base64.decode s with
    | some b => .ok b
    | none => .error .invalidBase64
  | _ => .error .mismatch

/-- Reads the value of a type. Null in place of a double stands for NaN. -/
def decodePlain (tag : String) : Json.Decoder Body := fun value =>
  match tag with
  | "str" => .string <$> Json.decodeString value
  | "bigint" => .int <$> Json.decodeInt64 value
  | "double" => .float <$> Json.decodeFloatOrNaN value
  | "boolean" => .bool <$> Json.decodeBool value
  | "bytes" => .bytes <$> decodeBytes value
  | "json" => .json <$> Json.decodeString value
  | _ => .error .mismatch

/-- Reads the stored form. -/
def decode : Json.Decoder Body := Json.decodeValueVariant decodePlain

end Body
end Telemetry
