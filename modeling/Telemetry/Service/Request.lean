import Telemetry.Json.Record
import Telemetry.Json.Tagged

/-! The requests of clients. -/
namespace Telemetry

inductive Request
  | getTraceSummaries
  | getTrace (traceID : String)
  | clearTraces
  | getLogs
  | getLog (id : String)
  /-- the logs of a trace, or of one span of it -/
  | getLogsOfTrace (traceID : String) (spanID : Option String)
  | clearLogs
  | getMetrics
  | getMetric (id : String)
  | clearMetrics
  | getSampleData
  | loadSampleData
  | findSampleData
  | clearSampleData
  | deleteSpansOfTraces (traceIDs : List String)
  | deleteSpans (spanIDs : List String)
  | deleteLogs (ids : List String)
  | deleteMetrics (ids : List String)
deriving DecidableEq, Repr

namespace Request

/-- The wire name of a request, for diagnostics. -/
def method : Request → String
  | .getTraceSummaries => "getTraceSummaries"
  | .getTrace _ => "getTraceByID"
  | .clearTraces => "clearTraces"
  | .getLogs => "getLogs"
  | .getLog _ => "getLogByID"
  | .getLogsOfTrace .. => "getLogsByTraceID"
  | .clearLogs => "clearLogs"
  | .getMetrics => "getMetrics"
  | .getMetric _ => "getMetricByID"
  | .clearMetrics => "clearMetrics"
  | .getSampleData => "getSampleData"
  | .loadSampleData => "loadSampleData"
  | .findSampleData => "checkSampleDataExists"
  | .clearSampleData => "clearSampleData"
  | .deleteSpansOfTraces _ => "deleteSpansByTraceID"
  | .deleteSpans _ => "deleteSpanByID"
  | .deleteLogs _ => "deleteLogByID"
  | .deleteMetrics _ => "deleteMetricByID"

/-- The name that a request is written under. -/
def tag : Request → String
  | .getTraceSummaries => "getTraceSummaries"
  | .getTrace _ => "getTraceByID"
  | .clearTraces => "clearTraces"
  | .getLogs => "getLogs"
  | .getLog _ => "getLogByID"
  | .getLogsOfTrace .. => "getLogsByTraceID"
  | .clearLogs => "clearLogs"
  | .getMetrics => "getMetrics"
  | .getMetric _ => "getMetricByID"
  | .clearMetrics => "clearMetrics"
  | .getSampleData => "getSampleData"
  | .loadSampleData => "loadSampleData"
  | .findSampleData => "checkSampleDataExists"
  | .clearSampleData => "clearSampleData"
  | .deleteSpansOfTraces _ => "deleteSpansByTraceID"
  | .deleteSpans _ => "deleteSpanByID"
  | .deleteLogs _ => "deleteLogByID"
  | .deleteMetrics _ => "deleteMetricByID"

/-- The parameters of a request; a span that is not asked for is left out. -/
def params : Request → Option Json
  | .getTrace traceID => some (.object [("traceID", .string traceID)])
  | .getLog id => some (.object [("id", .string id)])
  | .getLogsOfTrace traceID none => some (.object [("traceID", .string traceID)])
  | .getLogsOfTrace traceID (some spanID) =>
    some (.object [("spanID", .string spanID), ("traceID", .string traceID)])
  | .getMetric id => some (.object [("id", .string id)])
  | .deleteSpansOfTraces ids => some (.object [("ids", .array (ids.map .string))])
  | .deleteSpans ids => some (.object [("ids", .array (ids.map .string))])
  | .deleteLogs ids => some (.object [("ids", .array (ids.map .string))])
  | .deleteMetrics ids => some (.object [("ids", .array (ids.map .string))])
  | _ => none

def toJson (r : Request) : Json :=
  match r.params with
  | none => .object [("method", .string r.tag)]
  | some params => .object [("method", .string r.tag), ("params", params)]

/-- Parameters with one field. -/
def decodeParam {α : Type} (key : String) (item : Json.Decoder α) : Json.Decoder α :=
  (Json.Record.field key item).decode

def decodeIDs : Json.Decoder (List String) := decodeParam "ids" (Json.decodeList Json.decodeString)

/-- A trace id and perhaps a span id. -/
def traceAndSpan : Json.Record Request :=
  getLogsOfTrace
    <$> Json.Record.field "traceID" Json.decodeString
    <*> Json.Record.omittable "spanID" Json.decodeString

/-- Reads the request with the given method. -/
def decodeMethod (method : String) (params : Option Json.Draft) : Except Json.DecodeError Request :=
  match method with
  | "getTraceSummaries" => Json.decodeNothing .getTraceSummaries params
  | "getTraceByID" => .getTrace <$> Json.decodeContent (decodeParam "traceID" Json.decodeString) params
  | "clearTraces" => Json.decodeNothing .clearTraces params
  | "getLogs" => Json.decodeNothing .getLogs params
  | "getLogByID" => .getLog <$> Json.decodeContent (decodeParam "id" Json.decodeString) params
  | "getLogsByTraceID" => Json.decodeContent traceAndSpan.decode params
  | "clearLogs" => Json.decodeNothing .clearLogs params
  | "getMetrics" => Json.decodeNothing .getMetrics params
  | "getMetricByID" => .getMetric <$> Json.decodeContent (decodeParam "id" Json.decodeString) params
  | "clearMetrics" => Json.decodeNothing .clearMetrics params
  | "getSampleData" => Json.decodeNothing .getSampleData params
  | "loadSampleData" => Json.decodeNothing .loadSampleData params
  | "checkSampleDataExists" => Json.decodeNothing .findSampleData params
  | "clearSampleData" => Json.decodeNothing .clearSampleData params
  | "deleteSpansByTraceID" => .deleteSpansOfTraces <$> Json.decodeContent decodeIDs params
  | "deleteSpanByID" => .deleteSpans <$> Json.decodeContent decodeIDs params
  | "deleteLogByID" => .deleteLogs <$> Json.decodeContent decodeIDs params
  | "deleteMetricByID" => .deleteMetrics <$> Json.decodeContent decodeIDs params
  | _ => .error .mismatch

def decode : Json.Decoder Request := Json.decodeTagged "method" "params" decodeMethod

end Request
end Telemetry
