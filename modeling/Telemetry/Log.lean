import Telemetry.Body
import Telemetry.Json.Word
import Telemetry.Identity
import Telemetry.Resource

/-! Log records. -/
namespace Telemetry

/-- One log record. A timestamp of zero means that the producer set none. -/
structure Log where
  timestamp : Int64
  observedTimestamp : Int64
  traceID : String
  spanID : String
  severityText : String
  severityNumber : Int32
  body : Option Body
  resource : Resource
  scope : Scope
  attributes : Attributes
  droppedAttributesCount : UInt32
  flags : UInt32
  eventName : String
deriving DecidableEq

namespace Log

def empty : Log where
  timestamp := 0
  observedTimestamp := 0
  traceID := ""
  spanID := ""
  severityText := ""
  severityNumber := 0
  body := none
  resource := .empty
  scope := .empty
  attributes := .empty
  droppedAttributesCount := 0
  flags := 0
  eventName := ""

/-- The time a record is ordered by: its own, or the observed one if it has none. -/
def effectiveTimestamp (l : Log) : Int64 :=
  if l.timestamp = 0 then l.observedTimestamp else l.timestamp

/-- The text of the body, empty if there is none. -/
def bodyText (l : Log) : String :=
  match l.body with
  | some b => b.display
  | none => ""

/-- The content id: effective time, service, body and event. -/
def id (l : Log) : String :=
  Identity.contentId
    [toString l.effectiveTimestamp.toInt, l.resource.serviceName, l.bodyText, l.eventName]

def toJson (l : Log) : Json :=
  .object [("attributes", l.attributes.toJson),
    ("body", (l.body.map Body.toJson).getD .null),
    ("droppedAttributesCount", .ofUInt64 l.droppedAttributesCount.toUInt64),
    ("eventName", .string l.eventName),
    ("flags", .ofUInt64 l.flags.toUInt64),
    ("observedTimestamp", .ofInt64Text l.observedTimestamp),
    ("resource", l.resource.toJson),
    ("scope", l.scope.toJson),
    ("severityNumber", .ofInt64 l.severityNumber.toInt64),
    ("severityText", .string l.severityText),
    ("spanID", .string l.spanID),
    ("timestamp", .ofInt64Text l.timestamp),
    ("traceID", .string l.traceID)]

/-- The fields of the JSON form, in the order of its positional form. -/
def record : Json.Record Log :=
  Log.mk
    <$> Json.Record.field "timestamp" Json.decodeInt64Text
    <*> Json.Record.field "observedTimestamp" Json.decodeInt64Text
    <*> Json.Record.field "traceID" Json.decodeString
    <*> Json.Record.field "spanID" Json.decodeString
    <*> Json.Record.field "severityText" Json.decodeString
    <*> Json.Record.field "severityNumber" Json.decodeInt32
    <*> Json.Record.optional "body" Body.decode
    <*> Json.Record.field "resource" Resource.decode
    <*> Json.Record.field "scope" Scope.decode
    <*> Json.Record.field "attributes" Attributes.decode
    <*> Json.Record.field "droppedAttributesCount" Json.decodeUInt32
    <*> Json.Record.field "flags" Json.decodeUInt32
    <*> Json.Record.field "eventName" Json.decodeString

def decode : Json.Decoder Log := record.decode

end Log
end Telemetry
