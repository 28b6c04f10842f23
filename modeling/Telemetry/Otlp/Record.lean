import Telemetry.Otlp.Value
import Telemetry.Span
import Telemetry.Log
import Telemetry.Metric

/-! Mapping export messages to records, in nesting order: resource, scope, item. -/
namespace Telemetry.Otlp

/-- Maps the items below each resource and scope, in order. -/
def eachItem {α β : Type} (item : Resource → Scope → α → Reported β) (resources : List (ResourceItems α)) :
    Reported (List β) := do
  let records ← Reported.each (fun (r : ResourceItems α) => do
    let res ← resource r.resource
    let records ← Reported.each (fun (s : ScopeItems α) => do
      let sc ← scope s.scope
      Reported.each (item res sc) s.items) r.scopes
    return records.flatten) resources
  return records.flatten

def spanEvent (e : EventMessage) : Reported SpanEvent := do
  let attributes ← attributes e.attributes
  return ⟨e.name, nanos e.time, attributes, e.droppedAttributesCount⟩

def spanLink (l : LinkMessage) : Reported SpanLink := do
  let attributes ← attributes l.attributes
  return ⟨Identity.hexId l.traceID, Identity.hexId l.spanID, l.traceState, attributes,
    l.droppedAttributesCount⟩

/-- The record of a span. A missing status is unset. -/
def span (resource : Resource) (scope : Scope) (s : SpanMessage) : Reported Span := do
  let attributes ← attributes s.attributes
  let events ← Reported.each spanEvent s.events
  let links ← Reported.each spanLink s.links
  return {
    traceID := Identity.hexId s.traceID
    traceState := s.traceState
    spanID := Identity.hexId s.spanID
    parentSpanID := Identity.hexId s.parentSpanID
    name := s.name
    kind := SpanKind.ofCode s.kind
    startTime := nanos s.startTime
    endTime := nanos s.endTime
    attributes := attributes
    events := events
    links := links
    resource := resource
    scope := scope
    droppedAttributesCount := s.droppedAttributesCount
    droppedEventsCount := s.droppedEventsCount
    droppedLinksCount := s.droppedLinksCount
    statusCode := match s.status with
      | some status => StatusCode.ofCode status.code
      | none => .unset
    statusMessage := match s.status with
      | some status => status.message
      | none => "" }

/-- The record of a log. -/
def log (resource : Resource) (scope : Scope) (l : LogMessage) : Reported Log := do
  let body ← body l.body
  let attributes ← attributes l.attributes
  return {
    timestamp := nanos l.time
    observedTimestamp := nanos l.observedTime
    traceID := Identity.hexId l.traceID
    spanID := Identity.hexId l.spanID
    severityText := l.severityText
    severityNumber := l.severityNumber
    body := body
    resource := resource
    scope := scope
    attributes := attributes
    droppedAttributesCount := l.droppedAttributesCount
    flags := l.flags
    eventName := l.eventName }

/-- How a number was recorded. -/
def NumberValue.type : NumberValue → ValueType
  | .absent => .empty
  | .int _ => .int
  | .double _ => .double

/-- A number as a double; an integer is rounded to the nearest one, an absent number is zero. -/
def NumberValue.toFloat : NumberValue → Float
  | .absent => Decimal.ofInt 0
  | .int n => Decimal.ofInt n.toInt
  | .double x => x

def exemplar (e : ExemplarMessage) : Reported Exemplar := do
  let attributes ← attributes e.attributes
  return ⟨nanos e.time, e.value.toFloat, Identity.hexId e.traceID, Identity.hexId e.spanID, attributes⟩

def gaugePoint (p : NumberPointMessage) : Reported MetricPoint := do
  let attributes ← attributes p.attributes
  let exemplars ← Reported.each exemplar p.exemplars
  return .gauge {
    timestamp := nanos p.time
    startTime := nanos p.startTime
    attributes := attributes
    flags := p.flags
    valueType := p.value.type
    value := p.value.toFloat
    exemplars := exemplars }

def sumPoint (temporality : Int32) (monotonic : Bool) (p : NumberPointMessage) : Reported MetricPoint := do
  let attributes ← attributes p.attributes
  let exemplars ← Reported.each exemplar p.exemplars
  return .sum {
    timestamp := nanos p.time
    startTime := nanos p.startTime
    attributes := attributes
    flags := p.flags
    valueType := p.value.type
    value := p.value.toFloat
    isMonotonic := monotonic
    aggregationTemporality := Temporality.ofCode temporality
    exemplars := exemplars }

def histogramPoint (temporality : Int32) (p : HistogramPointMessage) : Reported MetricPoint := do
  let attributes ← attributes p.attributes
  let exemplars ← Reported.each exemplar p.exemplars
  return .histogram {
    timestamp := nanos p.time
    startTime := nanos p.startTime
    attributes := attributes
    flags := p.flags
    count := p.count
    sum := p.sum
    min := p.min
    max := p.max
    bucketCounts := p.bucketCounts
    explicitBounds := p.explicitBounds
    aggregationTemporality := Temporality.ofCode temporality
    exemplars := exemplars }

/-- Buckets; missing ones are empty. -/
def buckets : Option BucketsMessage → Buckets
  | some b => ⟨b.offset, b.bucketCounts⟩
  | none => .empty

def exponentialPoint (temporality : Int32) (p : ExponentialPointMessage) : Reported MetricPoint := do
  let attributes ← attributes p.attributes
  let exemplars ← Reported.each exemplar p.exemplars
  return .exponentialHistogram {
    timestamp := nanos p.time
    startTime := nanos p.startTime
    attributes := attributes
    flags := p.flags
    count := p.count
    sum := p.sum
    min := p.min
    max := p.max
    scale := p.scale
    zeroCount := p.zeroCount
    zeroThreshold := p.zeroThreshold
    positive := buckets p.positive
    negative := buckets p.negative
    aggregationTemporality := Temporality.ofCode temporality
    exemplars := exemplars }

/-- A series of the given kind, each point mapped and then pushed. -/
def series {α : Type} (kind : MetricKind) (point : α → Reported MetricPoint) (points : List α) :
    Reported DataPoints := do
  let points ← Reported.each point points
  (DataPoints.empty kind).pushAll points

/-- The points of a metric. A metric without data has none, and neither has a summary; either is
reported. -/
def dataPoints (m : MetricMessage) : Reported (Option DataPoints) :=
  match m.data with
  | .gauge points => some <$> series .gauge gaugePoint points
  | .sum points temporality monotonic => some <$> series .sum (sumPoint temporality monotonic) points
  | .histogram points temporality => some <$> series .histogram (histogramPoint temporality) points
  | .exponentialHistogram points temporality =>
    some <$> series .exponentialHistogram (exponentialPoint temporality) points
  | .summary => do
    Reported.warn (.summaryMetric m.name)
    return none
  | .absent => do
    Reported.warn (.metricWithoutData m.name)
    return none

/-- The record of a metric that arrived at the given time; none if it has no points to keep. -/
def metric (received : Int64) (resource : Resource) (scope : Scope) (m : MetricMessage) :
    Reported (Option Metric) := do
  let points ← dataPoints m
  return points.map fun points =>
    { name := m.name
      description := m.description
      unit := m.unit
      dataPoints := points
      resource := resource
      scope := scope
      received := received }

/-- The spans of an export request. -/
def spans (resources : List (ResourceItems SpanMessage)) : Reported (List Span) := eachItem span resources

/-- The logs of an export request. -/
def logs (resources : List (ResourceItems LogMessage)) : Reported (List Log) := eachItem log resources

/-- The metrics of an export request that arrived at the given time. -/
def metrics (resources : List (ResourceItems MetricMessage)) (received : Int64) :
    Reported (List Metric) := do
  let records ← eachItem (metric received) resources
  return records.filterMap id

end Telemetry.Otlp
