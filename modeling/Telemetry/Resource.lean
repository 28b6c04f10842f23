import Telemetry.Attribute
import Telemetry.Json.Record

/-! Where telemetry comes from: the emitting resource and the instrumentation scope. -/
namespace Telemetry

/-- The attribute that names a resource's service. -/
def serviceNameKey : String := "service.name"

/-- The attribute that marks the resources of the demo telemetry. -/
def sampleKey : String := "telemetry.sample"

structure Resource where
  attributes : Attributes
  droppedAttributesCount : UInt32
deriving DecidableEq

namespace Resource

def empty : Resource := ⟨.empty, 0⟩

def serviceName (r : Resource) : String := r.attributes.stringValue serviceNameKey

/-- Whether the resource is marked as demo telemetry. -/
def isSample (r : Resource) : Bool := r.attributes.get? sampleKey == some (.bool true)

def toJson (r : Resource) : Json :=
  .object [("attributes", r.attributes.toJson),
    ("droppedAttributesCount", .ofUInt64 r.droppedAttributesCount.toUInt64)]

/-- The fields of the JSON form, in the order of its positional form. -/
def record : Json.Record Resource :=
  Resource.mk
    <$> Json.Record.field "attributes" Attributes.decode
    <*> Json.Record.field "droppedAttributesCount" Json.decodeUInt32

def decode : Json.Decoder Resource := record.decode

end Resource

structure Scope where
  name : String
  version : String
  attributes : Attributes
  droppedAttributesCount : UInt32
deriving DecidableEq

namespace Scope

def empty : Scope := ⟨"", "", .empty, 0⟩

def toJson (s : Scope) : Json :=
  .object [("attributes", s.attributes.toJson),
    ("droppedAttributesCount", .ofUInt64 s.droppedAttributesCount.toUInt64),
    ("name", .string s.name), ("version", .string s.version)]

/-- The fields of the JSON form, in the order of its positional form. -/
def record : Json.Record Scope :=
  Scope.mk
    <$> Json.Record.field "name" Json.decodeString
    <*> Json.Record.field "version" Json.decodeString
    <*> Json.Record.field "attributes" Attributes.decode
    <*> Json.Record.field "droppedAttributesCount" Json.decodeUInt32

def decode : Json.Decoder Scope := record.decode

end Scope
end Telemetry
