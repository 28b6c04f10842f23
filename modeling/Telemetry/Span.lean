import Telemetry.Json.Word
import Telemetry.Identity
import Telemetry.Resource

/-! Spans: the timed operations a trace is made of. -/
namespace Telemetry

inductive SpanKind
  | unspecified | internal | server | client | producer | consumer
deriving DecidableEq, Repr

namespace SpanKind

def name : SpanKind → String
  | .unspecified => "Unspecified"
  | .internal => "Internal"
  | .server => "Server"
  | .client => "Client"
  | .producer => "Producer"
  | .consumer => "Consumer"

/-- The kind with a name, if there is one. -/
def ofName? : String → Option SpanKind
  | "Unspecified" => some .unspecified
  | "Internal" => some .internal
  | "Server" => some .server
  | "Client" => some .client
  | "Producer" => some .producer
  | "Consumer" => some .consumer
  | _ => none

/-- The kind with a name; an unknown name counts as unspecified. -/
def ofName (s : String) : SpanKind := (ofName? s).getD .unspecified

/-- The kind with a number in the export protocol; an unknown number counts as unspecified. -/
def ofCode (code : Int32) : SpanKind :=
  if code = 1 then .internal
  else if code = 2 then .server
  else if code = 3 then .client
  else if code = 4 then .producer
  else if code = 5 then .consumer
  else .unspecified

end SpanKind

inductive StatusCode
  | unset | ok | error
deriving DecidableEq, Repr

namespace StatusCode

def name : StatusCode → String
  | .unset => "Unset"
  | .ok => "Ok"
  | .error => "Error"

/-- The status with a name, if there is one. -/
def ofName? : String → Option StatusCode
  | "Unset" => some .unset
  | "Ok" => some .ok
  | "Error" => some .error
  | _ => none

/-- The status with a name; an unknown name counts as unset. -/
def ofName (s : String) : StatusCode := (ofName? s).getD .unset

/-- The status with a number in the export protocol; an unknown number counts as unset. -/
def ofCode (code : Int32) : StatusCode :=
  if code = 1 then .ok else if code = 2 then .error else .unset

end StatusCode

/-- Something that happened at one moment within a span. -/
structure SpanEvent where
  name : String
  timestamp : Int64
  attributes : Attributes
  droppedAttributesCount : UInt32
deriving DecidableEq

namespace SpanEvent

def empty : SpanEvent := ⟨"", 0, .empty, 0⟩

def toJson (e : SpanEvent) : Json :=
  .object [("attributes", e.attributes.toJson),
    ("droppedAttributesCount", .ofUInt64 e.droppedAttributesCount.toUInt64),
    ("name", .string e.name), ("timestamp", .ofInt64Text e.timestamp)]

/-- The fields of the JSON form, in the order of its positional form. -/
def record : Json.Record SpanEvent :=
  SpanEvent.mk
    <$> Json.Record.field "name" Json.decodeString
    <*> Json.Record.field "timestamp" Json.decodeInt64Text
    <*> Json.Record.field "attributes" Attributes.decode
    <*> Json.Record.field "droppedAttributesCount" Json.decodeUInt32

def decode : Json.Decoder SpanEvent := record.decode

end SpanEvent

/-- A reference from a span to a span of this or another trace. -/
structure SpanLink where
  traceID : String
  spanID : String
  traceState : String
  attributes : Attributes
  droppedAttributesCount : UInt32
deriving DecidableEq

namespace SpanLink

def empty : SpanLink := ⟨"", "", "", .empty, 0⟩

def toJson (l : SpanLink) : Json :=
  .object [("attributes", l.attributes.toJson),
    ("droppedAttributesCount", .ofUInt64 l.droppedAttributesCount.toUInt64),
    ("spanID", .string l.spanID), ("traceID", .string l.traceID),
    ("traceState", .string l.traceState)]

/-- The fields of the JSON form, in the order of its positional form. -/
def record : Json.Record SpanLink :=
  SpanLink.mk
    <$> Json.Record.field "traceID" Json.decodeString
    <*> Json.Record.field "spanID" Json.decodeString
    <*> Json.Record.field "traceState" Json.decodeString
    <*> Json.Record.field "attributes" Attributes.decode
    <*> Json.Record.field "droppedAttributesCount" Json.decodeUInt32

def decode : Json.Decoder SpanLink := record.decode

end SpanLink

/-- One timed operation. A root span has an empty parent id. -/
structure Span where
  traceID : String
  traceState : String
  spanID : String
  parentSpanID : String
  name : String
  kind : SpanKind
  startTime : Int64
  endTime : Int64
  attributes : Attributes
  events : List SpanEvent
  links : List SpanLink
  resource : Resource
  scope : Scope
  droppedAttributesCount : UInt32
  droppedEventsCount : UInt32
  droppedLinksCount : UInt32
  statusCode : StatusCode
  statusMessage : String
deriving DecidableEq

namespace Span

def empty : Span where
  traceID := ""
  traceState := ""
  spanID := ""
  parentSpanID := ""
  name := ""
  kind := .unspecified
  startTime := 0
  endTime := 0
  attributes := .empty
  events := []
  links := []
  resource := .empty
  scope := .empty
  droppedAttributesCount := 0
  droppedEventsCount := 0
  droppedLinksCount := 0
  statusCode := .unset
  statusMessage := ""

/-- The content id: trace, span and start. -/
def id (s : Span) : String :=
  Identity.contentId [s.traceID, s.spanID, toString s.startTime.toInt]

def isRoot (s : Span) : Bool := s.parentSpanID.isEmpty

/-- The time from start to end, never negative and never beyond the largest signed word. -/
def duration (s : Span) : Int64 :=
  Int64.ofInt (max 0 (min (s.endTime.toInt - s.startTime.toInt) (2 ^ 63 - 1)))

def toJson (s : Span) : Json :=
  .object [("attributes", s.attributes.toJson),
    ("droppedAttributesCount", .ofUInt64 s.droppedAttributesCount.toUInt64),
    ("droppedEventsCount", .ofUInt64 s.droppedEventsCount.toUInt64),
    ("droppedLinksCount", .ofUInt64 s.droppedLinksCount.toUInt64),
    ("endTime", .ofInt64Text s.endTime),
    ("events", .array (s.events.map SpanEvent.toJson)),
    ("kind", .string s.kind.name),
    ("links", .array (s.links.map SpanLink.toJson)),
    ("name", .string s.name),
    ("parentSpanID", .string s.parentSpanID),
    ("resource", s.resource.toJson),
    ("scope", s.scope.toJson),
    ("spanID", .string s.spanID),
    ("startTime", .ofInt64Text s.startTime),
    ("statusCode", .string s.statusCode.name),
    ("statusMessage", .string s.statusMessage),
    ("traceID", .string s.traceID),
    ("traceState", .string s.traceState)]

def decodeKind : Json.Decoder SpanKind := fun v => do
  Json.require (SpanKind.ofName? (← Json.decodeUnitVariant v))

def decodeStatus : Json.Decoder StatusCode := fun v => do
  Json.require (StatusCode.ofName? (← Json.decodeUnitVariant v))

/-- The fields of the JSON form, in the order of its positional form. -/
def record : Json.Record Span :=
  Span.mk
    <$> Json.Record.field "traceID" Json.decodeString
    <*> Json.Record.field "traceState" Json.decodeString
    <*> Json.Record.field "spanID" Json.decodeString
    <*> Json.Record.field "parentSpanID" Json.decodeString
    <*> Json.Record.field "name" Json.decodeString
    <*> Json.Record.field "kind" decodeKind
    <*> Json.Record.field "startTime" Json.decodeInt64Text
    <*> Json.Record.field "endTime" Json.decodeInt64Text
    <*> Json.Record.field "attributes" Attributes.decode
    <*> Json.Record.field "events" (Json.decodeList SpanEvent.decode)
    <*> Json.Record.field "links" (Json.decodeList SpanLink.decode)
    <*> Json.Record.field "resource" Resource.decode
    <*> Json.Record.field "scope" Scope.decode
    <*> Json.Record.field "droppedAttributesCount" Json.decodeUInt32
    <*> Json.Record.field "droppedEventsCount" Json.decodeUInt32
    <*> Json.Record.field "droppedLinksCount" Json.decodeUInt32
    <*> Json.Record.field "statusCode" decodeStatus
    <*> Json.Record.field "statusMessage" Json.decodeString

def decode : Json.Decoder Span := record.decode

end Span
end Telemetry
