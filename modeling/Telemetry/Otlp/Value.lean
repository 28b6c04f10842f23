import Telemetry.AttributeEncoding
import Telemetry.Body
import Telemetry.Otlp.Message
import Telemetry.Resource

/-! Mapping the values of export messages. -/
namespace Telemetry.Otlp

/-- The dynamic value of a double; one that is not finite becomes its text, with a warning. -/
def doubleJson (x : Float) : Reported Json :=
  match Json.Number.ofFloat? x with
  | some n => return .number n
  | none => do
    Reported.warn (.nonFiniteDouble x)
    return .string (Decimal.display x)

/-- The dynamic value of a byte. -/
def byteJson (b : UInt8) : Json := .ofUInt64 b.toUInt64

mutual

/-- The dynamic value of a message value. Bytes become an array of numbers, a map becomes an object in
which the last value of a key counts, and an unset value becomes null. -/
def AnyValue.toJson : AnyValue → Reported Json
  | .unset => return .null
  | .string s => return .string s
  | .bool b => return .bool b
  | .int n => return .ofInt64 n
  | .double x => doubleJson x
  | .bytes b => return .array (b.map byteJson)
  | .array items => do
    let items ← itemsToJson items
    return .array items
  | .map entries => do
    let members ← entriesToJson entries
    return .object (Keyed.ofList members)

def itemsToJson : List AnyValue → Reported (List Json)
  | [] => return []
  | v :: rest => do
    let x ← v.toJson
    let xs ← itemsToJson rest
    return x :: xs

def entriesToJson : List (String × AnyValue) → Reported (List (String × Json))
  | [] => return []
  | (key, v) :: rest => do
    let x ← v.toJson
    let xs ← entriesToJson rest
    return (key, x) :: xs

end

/-- The attributes of a message. -/
def attributes (entries : KeyValues) : Reported Attributes := do
  let members ← entriesToJson entries
  AttributeEncoding.encode (Keyed.ofList members)

/-- The body of a log message. Bytes and doubles of any kind are kept as they are; lists and maps become
JSON text. -/
def body (v : AnyValue) : Reported (Option Body) :=
  match v with
  | .unset => return none
  | .string s => return some (.string s)
  | .bool b => return some (.bool b)
  | .int n => return some (.int n)
  | .double x => return some (.float x)
  | .bytes b => return some (.bytes b)
  | .array _ | .map _ => do
    let v ← v.toJson
    return some (Body.structured v)

/-- The resource of a message; a missing one is empty. -/
def resource : Option ResourceMessage → Reported Resource
  | none => return .empty
  | some r => do
    let attributes ← attributes r.attributes
    return ⟨attributes, r.droppedAttributesCount⟩

/-- The scope of a message; a missing one is empty. -/
def scope : Option ScopeMessage → Reported Scope
  | none => return .empty
  | some s => do
    let attributes ← attributes s.attributes
    return ⟨s.name, s.version, attributes, s.droppedAttributesCount⟩

/-- A time in nanoseconds; one beyond the largest signed word becomes that word. -/
def nanos (time : UInt64) : Int64 :=
  Int64.ofInt (min (time.toNat : Int) (2 ^ 63 - 1))

end Telemetry.Otlp
