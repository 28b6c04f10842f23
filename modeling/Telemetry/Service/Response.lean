import Telemetry.Failure
import Telemetry.Json.Tagged
import Telemetry.Sample.Data
import Telemetry.Trace

/-! The answers to requests. -/
namespace Telemetry

/-- The codes of failed requests. -/
inductive ErrorCode
  | traceNotFound
  | logNotFound
  | metricNotFound
  | connectionClosed
  | cancelled
  | invalidParams
  | internal
deriving DecidableEq, Repr

/-- The number of a code on the wire. -/
def ErrorCode.number : ErrorCode → Int32
  | .traceNotFound => -32001
  | .logNotFound => -32002
  | .metricNotFound => -32003
  | .connectionClosed => -32010
  | .cancelled => -32011
  | .invalidParams => -32602
  | .internal => -32603

/-- A failure as clients see it. -/
structure ServiceError where
  code : Int32
  message : String
deriving DecidableEq, Repr

namespace ServiceError

/-- The failure of a request. What the request looks for decides the number of a missing thing. -/
def ofFailure (failure : Failure) (notFound : Int32) : ServiceError where
  code := match failure with
    | .notFound _ => notFound
    | .connectionClosed _ => ErrorCode.connectionClosed.number
    | .cancelled _ => ErrorCode.cancelled.number
    | .invalidArgument _ | .parse _ => ErrorCode.invalidParams.number
    | .config _ | .storage _ | .internal _ => ErrorCode.internal.number
  message := failure.message

def toJson (e : ServiceError) : Json :=
  .object [("code", .ofInt64 e.code.toInt64), ("message", .string e.message)]

/-- The fields of the JSON form, in the order of its positional form. -/
def record : Json.Record ServiceError :=
  ServiceError.mk
    <$> Json.Record.field "code" Json.decodeInt32
    <*> Json.Record.field "message" Json.decodeString

def decode : Json.Decoder ServiceError := record.decode

end ServiceError

inductive Response
  | traceSummaries (summaries : List TraceSummary)
  | trace (trace : Trace)
  | logs (logs : List Log)
  | log (log : Log)
  | metrics (metrics : List Metric)
  | metric (metric : Metric)
  | sampleData (data : SampleData)
  | sampleDataExists (answer : Bool)
  /-- the number of rows removed -/
  | deleted (count : UInt64)
  | ack
  | error (error : ServiceError)
deriving DecidableEq

namespace Response

/-- The name of a kind of answer on the wire. -/
def kind : Response → String
  | .traceSummaries _ => "traceSummaries"
  | .trace _ => "trace"
  | .logs _ => "logs"
  | .log _ => "log"
  | .metrics _ => "metrics"
  | .metric _ => "metric"
  | .sampleData _ => "sampleData"
  | .sampleDataExists _ => "sampleDataExists"
  | .deleted _ => "deleted"
  | .ack => "ack"
  | .error _ => "error"

def data : Response → Option Json
  | .traceSummaries summaries => some (.array (summaries.map TraceSummary.toJson))
  | .trace t => some t.toJson
  | .logs ls => some (.array (ls.map Log.toJson))
  | .log l => some l.toJson
  | .metrics ms => some (.array (ms.map Metric.toJson))
  | .metric m => some m.toJson
  | .sampleData d => some d.toJson
  | .sampleDataExists answer => some (.bool answer)
  | .deleted count => some (.ofUInt64 count)
  | .ack => none
  | .error e => some e.toJson

def toJson (r : Response) : Json :=
  match r.data with
  | none => .object [("kind", .string r.kind)]
  | some data => .object [("data", data), ("kind", .string r.kind)]

/-- Reads the answer of the given kind. -/
def decodeKind (kind : String) (data : Option Json.Draft) : Except Json.DecodeError Response :=
  match kind with
  | "traceSummaries" =>
    .traceSummaries <$> Json.decodeContent (Json.decodeList TraceSummary.decode) data
  | "trace" => .trace <$> Json.decodeContent Trace.decode data
  | "logs" => .logs <$> Json.decodeContent (Json.decodeList Log.decode) data
  | "log" => .log <$> Json.decodeContent Log.decode data
  | "metrics" => .metrics <$> Json.decodeContent (Json.decodeList Metric.decode) data
  | "metric" => .metric <$> Json.decodeContent Metric.decode data
  | "sampleData" => .sampleData <$> Json.decodeContent SampleData.decode data
  | "sampleDataExists" => .sampleDataExists <$> Json.decodeContent Json.decodeBool data
  | "deleted" => .deleted <$> Json.decodeContent Json.decodeUInt64 data
  | "ack" => Json.decodeNothing .ack data
  | "error" => .error <$> Json.decodeContent ServiceError.decode data
  | _ => .error .mismatch

def decode : Json.Decoder Response := Json.decodeTagged "kind" "data" decodeKind

/-- The failure an answer reports. -/
def error? : Response → Option ServiceError
  | .error e => some e
  | _ => none

end Response
end Telemetry
