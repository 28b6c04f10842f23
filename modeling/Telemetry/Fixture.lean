import Telemetry.Log
import Telemetry.Metric
import Telemetry.Span

/-! Small records to fill a store with when it is tried out. -/
namespace Telemetry.Fixture

/-- Midnight of the first of February 2026, in nanoseconds since 1970. -/
def base : Int64 := 1769904000000000000

/-- Nanoseconds in a millisecond. -/
def milli : Int64 := 1000000

def resource (service : String) : Resource :=
  ⟨Attributes.empty.set serviceNameKey (.string service), 0⟩

/-- A resource that is marked as demo data. -/
def sampleResource (service : String) : Resource :=
  ⟨(resource service).attributes.set sampleKey (.bool true), 0⟩

def scope (name : String) : Scope := { Scope.empty with name := name, version := "1.0.0" }

/-- A span of five milliseconds. -/
def span (traceID spanID parentSpanID : String) (startTime : Int64) : Span :=
  { Span.empty with
    traceID := traceID
    spanID := spanID
    parentSpanID := parentSpanID
    name := "op " ++ spanID
    kind := .internal
    startTime := startTime
    endTime := startTime + 5 * milli
    resource := resource "api"
    scope := scope "testkit" }

def log (traceID spanID : String) (timestamp : Int64) (body : String) : Log :=
  { Log.empty with
    timestamp := timestamp
    observedTimestamp := timestamp
    traceID := traceID
    spanID := spanID
    severityText := "INFO"
    severityNumber := 9
    body := some (.string body)
    resource := resource "api"
    scope := scope "testkit" }

/-- A failed request with a failed call below it, and two logs of that call. -/
def sampleTrace (traceID : String) : List Span × List Log :=
  let root :=
    { span traceID "root" "" base with
      name := "GET /v1/orders"
      kind := .server
      endTime := base + 1800 * milli
      statusCode := .error }
  let child :=
    { span traceID "child" "root" (base + 900 * milli) with
      name := "cache.get redis"
      kind := .client
      endTime := base + 1600 * milli
      statusCode := .error
      statusMessage := "context deadline exceeded"
      attributes := Attributes.empty.set "peer" (.string "redis:6379") }
  ([root, child],
    [log traceID "child" (base + 950 * milli) "retrying attempt=2",
      log traceID "child" (base + 1200 * milli) "context deadline exceeded"])

/-- A trace of the given number of spans, one nanosecond apart, all but the first below the first. -/
def flatTrace (traceID : String) (count : Nat) : List Span :=
  (List.range count).map fun i =>
    span traceID ("s" ++ toString i) (if i = 0 then "" else "s0") (base + Int64.ofNat i)

/-- A gauge with one point for each value. -/
def gaugeMetric (name : String) (received : Int64) (values : List Float) : Reported Metric := do
  let dataPoints ← DataPoints.ofPoints (values.map fun x =>
    .gauge { GaugePoint.empty with
      timestamp := received
      startTime := received
      valueType := .double
      value := x })
  return {
    name := name
    description := name ++ " gauge"
    unit := "1"
    dataPoints := dataPoints
    resource := resource "api"
    scope := scope "testkit"
    received := received }

end Telemetry.Fixture
