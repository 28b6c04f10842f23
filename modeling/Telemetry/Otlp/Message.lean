/-! The messages of the OpenTelemetry export protocol, as far as they carry traces, logs and metrics.
Times are unsigned nanoseconds and ids are bytes. -/
namespace Telemetry.Otlp

/-- A dynamic value. An unset one carries nothing. -/
inductive AnyValue
  | unset
  | string (s : String)
  | bool (b : Bool)
  | int (n : Int64)
  | double (x : Float)
  | bytes (b : List UInt8)
  | array (items : List AnyValue)
  | map (entries : List (String × AnyValue))

/-- Keys with values; a key may be listed repeatedly. -/
abbrev KeyValues := List (String × AnyValue)

structure ResourceMessage where
  attributes : KeyValues
  droppedAttributesCount : UInt32

structure ScopeMessage where
  name : String
  version : String
  attributes : KeyValues
  droppedAttributesCount : UInt32

/-- The items of one instrumentation scope. -/
structure ScopeItems (α : Type) where
  scope : Option ScopeMessage
  items : List α

/-- The items of one resource, by scope. -/
structure ResourceItems (α : Type) where
  resource : Option ResourceMessage
  scopes : List (ScopeItems α)

structure EventMessage where
  time : UInt64
  name : String
  attributes : KeyValues
  droppedAttributesCount : UInt32

structure LinkMessage where
  traceID : List UInt8
  spanID : List UInt8
  traceState : String
  attributes : KeyValues
  droppedAttributesCount : UInt32

structure StatusMessage where
  code : Int32
  message : String

structure SpanMessage where
  traceID : List UInt8
  spanID : List UInt8
  parentSpanID : List UInt8
  traceState : String
  name : String
  kind : Int32
  startTime : UInt64
  endTime : UInt64
  attributes : KeyValues
  events : List EventMessage
  links : List LinkMessage
  status : Option StatusMessage
  droppedAttributesCount : UInt32
  droppedEventsCount : UInt32
  droppedLinksCount : UInt32

structure LogMessage where
  time : UInt64
  observedTime : UInt64
  severityNumber : Int32
  severityText : String
  body : AnyValue
  attributes : KeyValues
  droppedAttributesCount : UInt32
  flags : UInt32
  traceID : List UInt8
  spanID : List UInt8
  eventName : String

/-- The value of a number point or of an exemplar. -/
inductive NumberValue
  | absent
  | int (n : Int64)
  | double (x : Float)

structure ExemplarMessage where
  attributes : KeyValues
  time : UInt64
  value : NumberValue
  traceID : List UInt8
  spanID : List UInt8

/-- A point of a gauge or of a sum. -/
structure NumberPointMessage where
  attributes : KeyValues
  startTime : UInt64
  time : UInt64
  flags : UInt32
  value : NumberValue
  exemplars : List ExemplarMessage

structure HistogramPointMessage where
  attributes : KeyValues
  startTime : UInt64
  time : UInt64
  flags : UInt32
  exemplars : List ExemplarMessage
  count : UInt64
  sum : Option Float
  min : Option Float
  max : Option Float
  bucketCounts : List UInt64
  explicitBounds : List Float

structure BucketsMessage where
  offset : Int32
  bucketCounts : List UInt64

structure ExponentialPointMessage where
  attributes : KeyValues
  startTime : UInt64
  time : UInt64
  flags : UInt32
  exemplars : List ExemplarMessage
  count : UInt64
  sum : Option Float
  min : Option Float
  max : Option Float
  scale : Int32
  zeroCount : UInt64
  zeroThreshold : Float
  positive : Option BucketsMessage
  negative : Option BucketsMessage

/-- The data of a metric. Summaries are deprecated, and their points are not kept. -/
inductive MetricData
  | absent
  | gauge (points : List NumberPointMessage)
  | sum (points : List NumberPointMessage) (temporality : Int32) (monotonic : Bool)
  | histogram (points : List HistogramPointMessage) (temporality : Int32)
  | exponentialHistogram (points : List ExponentialPointMessage) (temporality : Int32)
  | summary

structure MetricMessage where
  name : String
  description : String
  unit : String
  data : MetricData

end Telemetry.Otlp
