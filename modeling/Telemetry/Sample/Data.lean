import Telemetry.Otlp.Record
import Telemetry.Sample.Log
import Telemetry.Sample.Metric
import Telemetry.Sample.Span

/-! The demo telemetry as records. It is built as export messages and mapped like any other export. -/
namespace Telemetry

structure SampleData where
  spans : List Span
  logs : List Log
  metrics : List Metric
deriving DecidableEq

namespace SampleData

def isEmpty (d : SampleData) : Bool := d.spans.isEmpty && d.logs.isEmpty && d.metrics.isEmpty

def toJson (d : SampleData) : Json :=
  .object [("logs", .array (d.logs.map Log.toJson)), ("metrics", .array (d.metrics.map Metric.toJson)),
    ("spans", .array (d.spans.map Span.toJson))]

/-- The fields of the JSON form, in the order of its positional form. -/
def record : Json.Record SampleData :=
  SampleData.mk
    <$> Json.Record.field "spans" (Json.decodeList Span.decode)
    <*> Json.Record.field "logs" (Json.decodeList Log.decode)
    <*> Json.Record.field "metrics" (Json.decodeList Metric.decode)

def decode : Json.Decoder SampleData := record.decode

/-- The demo telemetry as of the given time, at which its metrics count as received. -/
def generate (now : Int64) : Reported SampleData := do
  let spans ← Otlp.spans Sample.spans
  let logs ← Otlp.logs Sample.logs
  let metrics ← Otlp.metrics Sample.metrics now
  return ⟨spans, logs, metrics⟩

end SampleData
end Telemetry
