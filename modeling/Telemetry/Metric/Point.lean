import Telemetry.Json.Word
import Telemetry.Attribute
import Telemetry.Json.Record

/-! Data points of metrics, one type for each kind of metric. -/
namespace Telemetry

/-- Whether values are changes since the last report or totals since the start. -/
inductive Temporality
  | unspecified | delta | cumulative
deriving DecidableEq, Repr

namespace Temporality

def name : Temporality → String
  | .unspecified => "Unspecified"
  | .delta => "Delta"
  | .cumulative => "Cumulative"

/-- The temporality with a name, if there is one. -/
def ofName? : String → Option Temporality
  | "Unspecified" => some .unspecified
  | "Delta" => some .delta
  | "Cumulative" => some .cumulative
  | _ => none

/-- The temporality with a number in the export protocol; an unknown number counts as unspecified. -/
def ofCode (code : Int32) : Temporality :=
  if code = 1 then .delta else if code = 2 then .cumulative else .unspecified

def decode : Json.Decoder Temporality := fun v => do
  Json.require (ofName? (← Json.decodeUnitVariant v))

end Temporality

/-- How the value of a point was recorded; it is always kept as a double. -/
inductive ValueType
  | empty | int | double
deriving DecidableEq, Repr

namespace ValueType

def name : ValueType → String
  | .empty => "Empty"
  | .int => "Int"
  | .double => "Double"

/-- The value type with a name, if there is one. -/
def ofName? : String → Option ValueType
  | "Empty" => some .empty
  | "Int" => some .int
  | "Double" => some .double
  | _ => none

def decode : Json.Decoder ValueType := fun v => do
  Json.require (ofName? (← Json.decodeUnitVariant v))

end ValueType

/-- A sample measurement that links a point to the trace it was taken in. -/
structure Exemplar where
  timestamp : Int64
  value : Float
  traceID : String
  spanID : String
  filteredAttributes : Attributes
deriving DecidableEq

namespace Exemplar

def empty : Exemplar := ⟨0, Decimal.ofInt 0, "", "", .empty⟩

def toJson (e : Exemplar) : Json :=
  .object [("filteredAttributes", e.filteredAttributes.toJson), ("spanID", .string e.spanID),
    ("timestamp", .ofInt64Text e.timestamp), ("traceID", .string e.traceID),
    ("value", .ofFloat e.value)]

/-- The fields of the JSON form, in the order of its positional form. -/
def record : Json.Record Exemplar :=
  Exemplar.mk
    <$> Json.Record.field "timestamp" Json.decodeInt64Text
    <*> Json.Record.field "value" Json.decodeFloatOrNaN
    <*> Json.Record.field "traceID" Json.decodeString
    <*> Json.Record.field "spanID" Json.decodeString
    <*> Json.Record.field "filteredAttributes" Attributes.decode

def decode : Json.Decoder Exemplar := record.decode

end Exemplar

structure GaugePoint where
  timestamp : Int64
  startTime : Int64
  attributes : Attributes
  flags : UInt32
  valueType : ValueType
  value : Float
  exemplars : List Exemplar
deriving DecidableEq

namespace GaugePoint

def empty : GaugePoint := ⟨0, 0, .empty, 0, .empty, Decimal.ofInt 0, []⟩

def toJson (p : GaugePoint) : Json :=
  .object [("attributes", p.attributes.toJson),
    ("exemplars", .array (p.exemplars.map Exemplar.toJson)),
    ("flags", .ofUInt64 p.flags.toUInt64),
    ("startTime", .ofInt64Text p.startTime),
    ("timestamp", .ofInt64Text p.timestamp),
    ("value", .ofFloat p.value),
    ("valueType", .string p.valueType.name)]

/-- The fields of the JSON form, in the order of its positional form. -/
def record : Json.Record GaugePoint :=
  GaugePoint.mk
    <$> Json.Record.field "timestamp" Json.decodeInt64Text
    <*> Json.Record.field "startTime" Json.decodeInt64Text
    <*> Json.Record.field "attributes" Attributes.decode
    <*> Json.Record.field "flags" Json.decodeUInt32
    <*> Json.Record.field "valueType" ValueType.decode
    <*> Json.Record.field "value" Json.decodeFloatOrNaN
    <*> Json.Record.field "exemplars" (Json.decodeList Exemplar.decode)

def decode : Json.Decoder GaugePoint := record.decode

end GaugePoint

structure SumPoint where
  timestamp : Int64
  startTime : Int64
  attributes : Attributes
  flags : UInt32
  valueType : ValueType
  value : Float
  isMonotonic : Bool
  aggregationTemporality : Temporality
  exemplars : List Exemplar
deriving DecidableEq

namespace SumPoint

def empty : SumPoint := ⟨0, 0, .empty, 0, .empty, Decimal.ofInt 0, false, .unspecified, []⟩

def toJson (p : SumPoint) : Json :=
  .object [("aggregationTemporality", .string p.aggregationTemporality.name),
    ("attributes", p.attributes.toJson),
    ("exemplars", .array (p.exemplars.map Exemplar.toJson)),
    ("flags", .ofUInt64 p.flags.toUInt64),
    ("isMonotonic", .bool p.isMonotonic),
    ("startTime", .ofInt64Text p.startTime),
    ("timestamp", .ofInt64Text p.timestamp),
    ("value", .ofFloat p.value),
    ("valueType", .string p.valueType.name)]

/-- The fields of the JSON form, in the order of its positional form. -/
def record : Json.Record SumPoint :=
  SumPoint.mk
    <$> Json.Record.field "timestamp" Json.decodeInt64Text
    <*> Json.Record.field "startTime" Json.decodeInt64Text
    <*> Json.Record.field "attributes" Attributes.decode
    <*> Json.Record.field "flags" Json.decodeUInt32
    <*> Json.Record.field "valueType" ValueType.decode
    <*> Json.Record.field "value" Json.decodeFloatOrNaN
    <*> Json.Record.field "isMonotonic" Json.decodeBool
    <*> Json.Record.field "aggregationTemporality" Temporality.decode
    <*> Json.Record.field "exemplars" (Json.decodeList Exemplar.decode)

def decode : Json.Decoder SumPoint := record.decode

end SumPoint

structure HistogramPoint where
  timestamp : Int64
  startTime : Int64
  attributes : Attributes
  flags : UInt32
  count : UInt64
  sum : Option Float
  min : Option Float
  max : Option Float
  bucketCounts : List UInt64
  explicitBounds : List Float
  aggregationTemporality : Temporality
  exemplars : List Exemplar
deriving DecidableEq

/-- An optional double; null stands for none as well as for a double that is not finite. -/
def optionalFloat (x : Option Float) : Json := (x.map Json.ofFloat).getD .null

namespace HistogramPoint

def empty : HistogramPoint := ⟨0, 0, .empty, 0, 0, none, none, none, [], [], .unspecified, []⟩

def toJson (p : HistogramPoint) : Json :=
  .object [("aggregationTemporality", .string p.aggregationTemporality.name),
    ("attributes", p.attributes.toJson),
    ("bucketCounts", .array (p.bucketCounts.map Json.ofUInt64Text)),
    ("count", .ofUInt64Text p.count),
    ("exemplars", .array (p.exemplars.map Exemplar.toJson)),
    ("explicitBounds", .array (p.explicitBounds.map Json.ofFloat)),
    ("flags", .ofUInt64 p.flags.toUInt64),
    ("max", optionalFloat p.max),
    ("min", optionalFloat p.min),
    ("startTime", .ofInt64Text p.startTime),
    ("sum", optionalFloat p.sum),
    ("timestamp", .ofInt64Text p.timestamp)]

/-- The fields of the JSON form, in the order of its positional form. -/
def record : Json.Record HistogramPoint :=
  HistogramPoint.mk
    <$> Json.Record.field "timestamp" Json.decodeInt64Text
    <*> Json.Record.field "startTime" Json.decodeInt64Text
    <*> Json.Record.field "attributes" Attributes.decode
    <*> Json.Record.field "flags" Json.decodeUInt32
    <*> Json.Record.field "count" Json.decodeUInt64Text
    <*> Json.Record.optional "sum" Json.decodeFloat
    <*> Json.Record.optional "min" Json.decodeFloat
    <*> Json.Record.optional "max" Json.decodeFloat
    <*> Json.Record.field "bucketCounts" (Json.decodeWords Json.decodeUInt64Text)
    <*> Json.Record.field "explicitBounds" (Json.decodeList Json.decodeFloatOrNaN)
    <*> Json.Record.field "aggregationTemporality" Temporality.decode
    <*> Json.Record.field "exemplars" (Json.decodeList Exemplar.decode)

def decode : Json.Decoder HistogramPoint := record.decode

end HistogramPoint

/-- Counts of consecutive exponential buckets, the first one at the offset. -/
structure Buckets where
  offset : Int32
  bucketCounts : List UInt64
deriving DecidableEq

namespace Buckets

def empty : Buckets := ⟨0, []⟩

def toJson (b : Buckets) : Json :=
  .object [("bucketCounts", .array (b.bucketCounts.map Json.ofUInt64Text)),
    ("offset", .ofInt64 b.offset.toInt64)]

/-- The fields of the JSON form, in the order of its positional form. -/
def record : Json.Record Buckets :=
  Buckets.mk
    <$> Json.Record.field "offset" Json.decodeInt32
    <*> Json.Record.field "bucketCounts" (Json.decodeWords Json.decodeUInt64Text)

def decode : Json.Decoder Buckets := record.decode

end Buckets

structure ExponentialPoint where
  timestamp : Int64
  startTime : Int64
  attributes : Attributes
  flags : UInt32
  count : UInt64
  sum : Option Float
  min : Option Float
  max : Option Float
  scale : Int32
  zeroCount : UInt64
  zeroThreshold : Float
  positive : Buckets
  negative : Buckets
  aggregationTemporality : Temporality
  exemplars : List Exemplar
deriving DecidableEq

namespace ExponentialPoint

def empty : ExponentialPoint where
  timestamp := 0
  startTime := 0
  attributes := .empty
  flags := 0
  count := 0
  sum := none
  min := none
  max := none
  scale := 0
  zeroCount := 0
  zeroThreshold := Decimal.ofInt 0
  positive := .empty
  negative := .empty
  aggregationTemporality := .unspecified
  exemplars := []

def toJson (p : ExponentialPoint) : Json :=
  .object [("aggregationTemporality", .string p.aggregationTemporality.name),
    ("attributes", p.attributes.toJson),
    ("count", .ofUInt64Text p.count),
    ("exemplars", .array (p.exemplars.map Exemplar.toJson)),
    ("flags", .ofUInt64 p.flags.toUInt64),
    ("max", optionalFloat p.max),
    ("min", optionalFloat p.min),
    ("negative", p.negative.toJson),
    ("positive", p.positive.toJson),
    ("scale", .ofInt64 p.scale.toInt64),
    ("startTime", .ofInt64Text p.startTime),
    ("sum", optionalFloat p.sum),
    ("timestamp", .ofInt64Text p.timestamp),
    ("zeroCount", .ofUInt64Text p.zeroCount),
    ("zeroThreshold", .ofFloat p.zeroThreshold)]

/-- The fields of the JSON form, in the order of its positional form. -/
def record : Json.Record ExponentialPoint :=
  ExponentialPoint.mk
    <$> Json.Record.field "timestamp" Json.decodeInt64Text
    <*> Json.Record.field "startTime" Json.decodeInt64Text
    <*> Json.Record.field "attributes" Attributes.decode
    <*> Json.Record.field "flags" Json.decodeUInt32
    <*> Json.Record.field "count" Json.decodeUInt64Text
    <*> Json.Record.optional "sum" Json.decodeFloat
    <*> Json.Record.optional "min" Json.decodeFloat
    <*> Json.Record.optional "max" Json.decodeFloat
    <*> Json.Record.field "scale" Json.decodeInt32
    <*> Json.Record.field "zeroCount" Json.decodeUInt64Text
    <*> Json.Record.field "zeroThreshold" Json.decodeFloatOrNaN
    <*> Json.Record.field "positive" Buckets.decode
    <*> Json.Record.field "negative" Buckets.decode
    <*> Json.Record.field "aggregationTemporality" Temporality.decode
    <*> Json.Record.field "exemplars" (Json.decodeList Exemplar.decode)

def decode : Json.Decoder ExponentialPoint := record.decode

end ExponentialPoint
end Telemetry
