import Telemetry.Span
import Telemetry.Log
import Telemetry.Metric

/-! The rows records are stored as. Attribute maps, events, links, bodies and points are kept as the JSON
text of their stored form, kinds and states as their names. -/
namespace Telemetry.Store

/-- Reads a value back from its JSON text. -/
def readText {α : Type} (decode : Json.Decoder α) (text : String) : Option α :=
  (Json.decodeText decode text).toOption

/-- The columns that say where a record comes from. -/
structure OriginColumns where
  resourceAttributes : String
  resourceDroppedAttributesCount : UInt32
  scopeName : String
  scopeVersion : String
  scopeAttributes : String
  scopeDroppedAttributesCount : UInt32
deriving DecidableEq

namespace OriginColumns

def ofRecords (resource : Resource) (scope : Scope) : OriginColumns where
  resourceAttributes := resource.attributes.toJson.text
  resourceDroppedAttributesCount := resource.droppedAttributesCount
  scopeName := scope.name
  scopeVersion := scope.version
  scopeAttributes := scope.attributes.toJson.text
  scopeDroppedAttributesCount := scope.droppedAttributesCount

def resource? (c : OriginColumns) : Option Resource := do
  return {
    attributes := ← readText Attributes.decode c.resourceAttributes
    droppedAttributesCount := c.resourceDroppedAttributesCount }

def scope? (c : OriginColumns) : Option Scope := do
  return {
    name := c.scopeName
    version := c.scopeVersion
    attributes := ← readText Attributes.decode c.scopeAttributes
    droppedAttributesCount := c.scopeDroppedAttributesCount }

end OriginColumns

structure SpanRow where
  traceID : String
  traceState : String
  spanID : String
  parentSpanID : String
  name : String
  kind : String
  startTime : Int64
  endTime : Int64
  attributes : String
  events : String
  links : String
  origin : OriginColumns
  droppedAttributesCount : UInt32
  droppedEventsCount : UInt32
  droppedLinksCount : UInt32
  statusCode : String
  statusMessage : String
deriving DecidableEq

namespace SpanRow

def ofSpan (s : Span) : SpanRow where
  traceID := s.traceID
  traceState := s.traceState
  spanID := s.spanID
  parentSpanID := s.parentSpanID
  name := s.name
  kind := s.kind.name
  startTime := s.startTime
  endTime := s.endTime
  attributes := s.attributes.toJson.text
  events := (Json.array (s.events.map SpanEvent.toJson)).text
  links := (Json.array (s.links.map SpanLink.toJson)).text
  origin := .ofRecords s.resource s.scope
  droppedAttributesCount := s.droppedAttributesCount
  droppedEventsCount := s.droppedEventsCount
  droppedLinksCount := s.droppedLinksCount
  statusCode := s.statusCode.name
  statusMessage := s.statusMessage

def toSpan? (r : SpanRow) : Option Span := do
  return {
    traceID := r.traceID
    traceState := r.traceState
    spanID := r.spanID
    parentSpanID := r.parentSpanID
    name := r.name
    kind := SpanKind.ofName r.kind
    startTime := r.startTime
    endTime := r.endTime
    attributes := ← readText Attributes.decode r.attributes
    events := ← readText (Json.decodeList SpanEvent.decode) r.events
    links := ← readText (Json.decodeList SpanLink.decode) r.links
    resource := ← r.origin.resource?
    scope := ← r.origin.scope?
    droppedAttributesCount := r.droppedAttributesCount
    droppedEventsCount := r.droppedEventsCount
    droppedLinksCount := r.droppedLinksCount
    statusCode := StatusCode.ofName r.statusCode
    statusMessage := r.statusMessage }

end SpanRow

structure LogRow where
  /-- the content id of the record that was written -/
  id : String
  timestamp : Int64
  observedTimestamp : Int64
  traceID : String
  spanID : String
  severityText : String
  severityNumber : Int32
  body : Option String
  origin : OriginColumns
  attributes : String
  droppedAttributesCount : UInt32
  flags : UInt32
  eventName : String
deriving DecidableEq

namespace LogRow

def ofLog (l : Log) : LogRow where
  id := l.id
  timestamp := l.timestamp
  observedTimestamp := l.observedTimestamp
  traceID := l.traceID
  spanID := l.spanID
  severityText := l.severityText
  severityNumber := l.severityNumber
  body := l.body.map (·.toJson.text)
  origin := .ofRecords l.resource l.scope
  attributes := l.attributes.toJson.text
  droppedAttributesCount := l.droppedAttributesCount
  flags := l.flags
  eventName := l.eventName

/-- The body of a row that has one; a row without one has no body to read. -/
def body? (r : LogRow) : Option (Option Body) :=
  match r.body with
  | none => some none
  | some text => some <$> readText Body.decode text

def toLog? (r : LogRow) : Option Log := do
  return {
    timestamp := r.timestamp
    observedTimestamp := r.observedTimestamp
    traceID := r.traceID
    spanID := r.spanID
    severityText := r.severityText
    severityNumber := r.severityNumber
    body := ← r.body?
    resource := ← r.origin.resource?
    scope := ← r.origin.scope?
    attributes := ← readText Attributes.decode r.attributes
    droppedAttributesCount := r.droppedAttributesCount
    flags := r.flags
    eventName := r.eventName }

/-- The time rows are ordered by: their own, or the observed one if they have none. -/
def effectiveTimestamp (r : LogRow) : Int64 :=
  if r.timestamp = 0 then r.observedTimestamp else r.timestamp

end LogRow

structure MetricRow where
  /-- the content id of the record that was written -/
  id : String
  name : String
  description : String
  unit : String
  kind : String
  points : String
  origin : OriginColumns
  received : Int64
deriving DecidableEq

namespace MetricRow

def ofMetric (m : Metric) : MetricRow where
  id := m.id
  name := m.name
  description := m.description
  unit := m.unit
  kind := m.kind.name
  points := (Json.array (m.dataPoints.points.map MetricPoint.toJson)).text
  origin := .ofRecords m.resource m.scope
  received := m.received

/-- The record of a row. Its points are pushed one by one, so that points of a foreign kind are left out
with a warning. -/
def toMetric? (r : MetricRow) : Option (Reported Metric) := do
  let points ← readText (Json.decodeList MetricPoint.decode) r.points
  let resource ← r.origin.resource?
  let scope ← r.origin.scope?
  return do
    let dataPoints ← (DataPoints.empty (MetricKind.ofName r.kind)).pushAll points
    return {
      name := r.name
      description := r.description
      unit := r.unit
      dataPoints := dataPoints
      resource := resource
      scope := scope
      received := r.received }

end MetricRow
end Telemetry.Store
