import Telemetry.Metric.Point
import Telemetry.Identity
import Telemetry.Resource

/-! Metrics: named series of data points of one kind. -/
namespace Telemetry

/-- A data point of any kind. -/
inductive MetricPoint
  | gauge (p : GaugePoint)
  | sum (p : SumPoint)
  | histogram (p : HistogramPoint)
  | exponentialHistogram (p : ExponentialPoint)
deriving DecidableEq

namespace MetricPoint

def kind : MetricPoint → MetricKind
  | .gauge _ => .gauge
  | .sum _ => .sum
  | .histogram _ => .histogram
  | .exponentialHistogram _ => .exponentialHistogram

def timestamp : MetricPoint → Int64
  | .gauge p => p.timestamp
  | .sum p => p.timestamp
  | .histogram p => p.timestamp
  | .exponentialHistogram p => p.timestamp

def attributes : MetricPoint → Attributes
  | .gauge p => p.attributes
  | .sum p => p.attributes
  | .histogram p => p.attributes
  | .exponentialHistogram p => p.attributes

def exemplars : MetricPoint → List Exemplar
  | .gauge p => p.exemplars
  | .sum p => p.exemplars
  | .histogram p => p.exemplars
  | .exponentialHistogram p => p.exemplars

def toJson (p : MetricPoint) : Json :=
  .object [(p.kind.name, match p with
    | .gauge p => p.toJson
    | .sum p => p.toJson
    | .histogram p => p.toJson
    | .exponentialHistogram p => p.toJson)]

/-- Reads a point of the kind with the given name. -/
def decodePoint (name : String) : Json.Decoder MetricPoint := fun value =>
  match MetricKind.ofName? name with
  | some .gauge => .gauge <$> GaugePoint.decode value
  | some .sum => .sum <$> SumPoint.decode value
  | some .histogram => .histogram <$> HistogramPoint.decode value
  | some .exponentialHistogram => .exponentialHistogram <$> ExponentialPoint.decode value
  | _ => .error .mismatch

def decode : Json.Decoder MetricPoint := Json.decodeValueVariant decodePoint

end MetricPoint

/-- The points of one metric under its kind. Building a series keeps every point of that kind; a series
that is read from JSON is taken as it is. -/
structure DataPoints where
  kind : MetricKind
  points : List MetricPoint
deriving DecidableEq

namespace DataPoints

def empty (kind : MetricKind) : DataPoints := ⟨kind, []⟩

/-- Appends a point of the series' kind; any other point is left out with a warning. Says whether the
point was taken. -/
def push (d : DataPoints) (p : MetricPoint) : Reported (DataPoints × Bool) :=
  if p.kind = d.kind then return ({ d with points := d.points ++ [p] }, true)
  else do
    Reported.warn (.pointMismatch d.kind p.kind)
    return (d, false)

/-- Pushes points in the given order. -/
def pushAll (d : DataPoints) : List MetricPoint → Reported DataPoints
  | [] => return d
  | p :: rest => do
    let (d, _) ← d.push p
    d.pushAll rest

/-- The series of the first point's kind. -/
def ofPoints (points : List MetricPoint) : Reported DataPoints :=
  let kind := match points with
    | [] => .empty
    | p :: _ => p.kind
  (empty kind).pushAll points

def toJson (d : DataPoints) : Json :=
  .object [("metricType", .string d.kind.name), ("points", .array (d.points.map MetricPoint.toJson))]

def decodeKind : Json.Decoder MetricKind := fun v => do
  Json.require (MetricKind.ofName? (← Json.decodeUnitVariant v))

/-- The fields of the JSON form, in the order of its positional form. -/
def record : Json.Record DataPoints :=
  DataPoints.mk
    <$> Json.Record.field "metricType" decodeKind
    <*> Json.Record.field "points" (Json.decodeList MetricPoint.decode)

def decode : Json.Decoder DataPoints := record.decode

end DataPoints

/-- One metric as it was received. -/
structure Metric where
  name : String
  description : String
  unit : String
  dataPoints : DataPoints
  resource : Resource
  scope : Scope
  /-- when the batch with this metric arrived -/
  received : Int64
deriving DecidableEq

namespace Metric

def empty : Metric := ⟨"", "", "", .empty .empty, .empty, .empty, 0⟩

def kind (m : Metric) : MetricKind := m.dataPoints.kind

/-- The content id: name, service, kind and time of arrival. -/
def id (m : Metric) : String :=
  Identity.contentId [m.name, m.resource.serviceName, m.kind.name, toString m.received.toInt]

def toJson (m : Metric) : Json :=
  .object [("dataPoints", m.dataPoints.toJson),
    ("description", .string m.description),
    ("name", .string m.name),
    ("received", .ofInt64Text m.received),
    ("resource", m.resource.toJson),
    ("scope", m.scope.toJson),
    ("unit", .string m.unit)]

/-- The fields of the JSON form, in the order of its positional form. -/
def record : Json.Record Metric :=
  Metric.mk
    <$> Json.Record.field "name" Json.decodeString
    <*> Json.Record.field "description" Json.decodeString
    <*> Json.Record.field "unit" Json.decodeString
    <*> Json.Record.field "dataPoints" DataPoints.decode
    <*> Json.Record.field "resource" Resource.decode
    <*> Json.Record.field "scope" Scope.decode
    <*> Json.Record.field "received" Json.decodeInt64Text

def decode : Json.Decoder Metric := record.decode

end Metric
end Telemetry
