import Telemetry.Store.Basic
import Telemetry.Waterfall

/-! Reading from a store. -/
namespace Telemetry.Store

/-- The records of rows; a row that cannot be read fails the operation. -/
def readAll {ρ α : Type} (operation : Operation) (read : ρ → Option α) (rows : List ρ) :
    Except Failure (List α) :=
  match rows.mapM read with
  | some records => .ok records
  | none => .error (.storage operation.text)

/-- A row that has to be there. -/
def found {ρ : Type} (what : String) : Option ρ → Except Failure ρ
  | some row => .ok row
  | none => .error (.notFound what)

/-- The spans of a trace in waterfall order. -/
def trace (store : Store) (cancelled : Bool) (traceID : String) : Except Failure Trace := do
  store.check cancelled (.getTrace traceID)
  let rows := store.tables.spans.filter (·.traceID == traceID)
  let spans ← readAll (.getTrace traceID) SpanRow.toSpan? rows
  if spans.isEmpty then throw (.notFound ("trace " ++ traceID))
  return Waterfall.trace traceID spans

def SpanRow.isRoot (r : SpanRow) : Bool := r.parentSpanID.isEmpty

/-- The order in which the rows of a trace stand for it: a root before any other, then the earlier start,
then the smaller span id. -/
def SpanRow.leads (a b : SpanRow) : Bool :=
  if a.isRoot != b.isRoot then a.isRoot
  else if a.startTime ≠ b.startTime then a.startTime < b.startTime
  else a.spanID ≤ b.spanID

/-- A line of the trace list and the time it is listed by. -/
structure Listing where
  time : Int64
  summary : TraceSummary

/-- The line of the trace whose rows are given; none if there are no rows or the leading one cannot be
read. -/
def listing? (rows : List SpanRow) : Option Listing := do
  let leader ← (rows.mergeSort SpanRow.leads).head?
  let earliest ← (rows.map (·.startTime)).min?
  if leader.isRoot then
    let resource ← leader.origin.resource?
    return {
      time := leader.startTime
      summary := {
        traceID := leader.traceID
        rootSpan := some {
          serviceName := resource.serviceName
          name := leader.name
          startTime := leader.startTime
          endTime := leader.endTime }
        spanCount := UInt64.ofNat rows.length } }
  return {
    time := earliest
    summary := {
      traceID := leader.traceID
      rootSpan := none
      spanCount := UInt64.ofNat rows.length } }

/-- Later time first; of equal times the smaller trace id. -/
def Listing.precedes (a b : Listing) : Bool :=
  b.time < a.time || (a.time == b.time && a.summary.traceID ≤ b.summary.traceID)

/-- One line for each trace that has a span, the latest first. -/
def traceSummaries (store : Store) (cancelled : Bool) : Except Failure (List TraceSummary) := do
  store.check cancelled .getTraceSummaries
  let rows := store.tables.spans
  let traceIDs := (rows.map (·.traceID)).eraseDups
  let listings ← readAll .getTraceSummaries (fun id => listing? (rows.filter (·.traceID == id))) traceIDs
  return (listings.mergeSort Listing.precedes).map (·.summary)

/-- Later effective time first; of equal times the smaller stored id. -/
def LogRow.precedes (a b : LogRow) : Bool :=
  b.effectiveTimestamp < a.effectiveTimestamp ||
    (a.effectiveTimestamp == b.effectiveTimestamp && a.id ≤ b.id)

/-- The logs whose rows pass a test, latest first. -/
def logsWhere (store : Store) (cancelled : Bool) (operation : Operation) (keep : LogRow → Bool) :
    Except Failure (List Log) := do
  store.check cancelled operation
  readAll operation LogRow.toLog? ((store.tables.logs.filter keep).mergeSort LogRow.precedes)

def logs (store : Store) (cancelled : Bool) : Except Failure (List Log) :=
  store.logsWhere cancelled .getLogs fun _ => true

def logsOfTrace (store : Store) (cancelled : Bool) (traceID : String) : Except Failure (List Log) :=
  store.logsWhere cancelled (.getLogsOfTrace traceID) (·.traceID == traceID)

def logsOfSpan (store : Store) (cancelled : Bool) (traceID spanID : String) : Except Failure (List Log) :=
  store.logsWhere cancelled (.getLogsOfSpan traceID spanID) fun r =>
    r.traceID == traceID && r.spanID == spanID

/-- The log that was written first under an id. -/
def log (store : Store) (cancelled : Bool) (id : String) : Except Failure Log := do
  store.check cancelled (.getLog id)
  let row := store.tables.logs.find? (·.id == id)
  let logs ← readAll (.getLog id) LogRow.toLog? row.toList
  found ("log " ++ id) logs.head?

/-- Later arrival first; of equal times the smaller stored id. -/
def MetricRow.precedes (a b : MetricRow) : Bool :=
  b.received < a.received || (a.received == b.received && a.id ≤ b.id)

/-- The metrics, latest first. Points that a metric cannot hold are reported each time. -/
def metrics (store : Store) (cancelled : Bool) : Except Failure (Reported (List Metric)) := do
  store.check cancelled .getMetrics
  let records ← readAll .getMetrics MetricRow.toMetric? (store.tables.metrics.mergeSort MetricRow.precedes)
  return Reported.each id records

/-- The metric that was written first under an id. -/
def metric (store : Store) (cancelled : Bool) (id : String) : Except Failure (Reported Metric) := do
  store.check cancelled (.getMetric id)
  let row := store.tables.metrics.find? (·.id == id)
  let metrics ← readAll (.getMetric id) MetricRow.toMetric? row.toList
  found ("metric " ++ id) metrics.head?

end Telemetry.Store
