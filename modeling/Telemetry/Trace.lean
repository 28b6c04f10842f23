import Telemetry.Span

/-! Traces as they are shown: the spans of one trace by depth, and one-line summaries. -/
namespace Telemetry

/-- A span at its depth in the trace; a root has depth zero. -/
structure SpanNode where
  span : Span
  depth : UInt64
deriving DecidableEq

namespace SpanNode

def toJson (n : SpanNode) : Json :=
  .object [("depth", .ofUInt64 n.depth), ("span", n.span.toJson)]

/-- The fields of the JSON form, in the order of its positional form. -/
def record : Json.Record SpanNode :=
  SpanNode.mk
    <$> Json.Record.field "span" Span.decode
    <*> Json.Record.field "depth" Json.decodeUInt64

def decode : Json.Decoder SpanNode := record.decode

end SpanNode

/-- All spans of one trace. -/
structure Trace where
  traceID : String
  spans : List SpanNode
deriving DecidableEq

namespace Trace

def spanIDs (t : Trace) : List String := t.spans.map (·.span.spanID)

def toJson (t : Trace) : Json :=
  .object [("spans", .array (t.spans.map SpanNode.toJson)), ("traceID", .string t.traceID)]

/-- The fields of the JSON form, in the order of its positional form. -/
def record : Json.Record Trace :=
  Trace.mk
    <$> Json.Record.field "traceID" Json.decodeString
    <*> Json.Record.field "spans" (Json.decodeList SpanNode.decode)

def decode : Json.Decoder Trace := record.decode

end Trace

/-- The root of a trace in its summary. -/
structure RootSpan where
  serviceName : String
  name : String
  startTime : Int64
  endTime : Int64
deriving DecidableEq

namespace RootSpan

def toJson (r : RootSpan) : Json :=
  .object [("endTime", .ofInt64Text r.endTime), ("name", .string r.name),
    ("serviceName", .string r.serviceName), ("startTime", .ofInt64Text r.startTime)]

/-- The fields of the JSON form, in the order of its positional form. -/
def record : Json.Record RootSpan :=
  RootSpan.mk
    <$> Json.Record.field "serviceName" Json.decodeString
    <*> Json.Record.field "name" Json.decodeString
    <*> Json.Record.field "startTime" Json.decodeInt64Text
    <*> Json.Record.field "endTime" Json.decodeInt64Text

def decode : Json.Decoder RootSpan := record.decode

end RootSpan

/-- One line of the trace list. There is no root if every span of the trace has a parent id. -/
structure TraceSummary where
  traceID : String
  rootSpan : Option RootSpan
  spanCount : UInt64
deriving DecidableEq

namespace TraceSummary

def toJson (s : TraceSummary) : Json :=
  .object [("rootSpan", (s.rootSpan.map RootSpan.toJson).getD .null),
    ("spanCount", .ofUInt64 s.spanCount), ("traceID", .string s.traceID)]

/-- The fields of the JSON form, in the order of its positional form. -/
def record : Json.Record TraceSummary :=
  TraceSummary.mk
    <$> Json.Record.field "traceID" Json.decodeString
    <*> Json.Record.optional "rootSpan" RootSpan.decode
    <*> Json.Record.field "spanCount" Json.decodeUInt64

def decode : Json.Decoder TraceSummary := record.decode

end TraceSummary
end Telemetry
