import Telemetry.Store.Appender
import Telemetry.Store.Basic

/-! Writing to a store: adding, clearing and deleting rows, and the bookkeeping of demo data. A failed write
leaves the store as it was. -/
namespace Telemetry.Store

/-- Appends spans in the given order. -/
def addSpans (store : Store) (cancelled : Bool) (spans : List Span) : Except Failure Store := do
  store.check cancelled .addSpans
  let rows := appendBatch store.flushEvery SpanRow.ofSpan store.tables.spans spans
  return { store with tables := { store.tables with spans := rows } }

/-- Appends logs in the given order. -/
def addLogs (store : Store) (cancelled : Bool) (logs : List Log) : Except Failure Store := do
  store.check cancelled .addLogs
  let rows := appendBatch store.flushEvery LogRow.ofLog store.tables.logs logs
  return { store with tables := { store.tables with logs := rows } }

/-- Appends metrics in the given order. -/
def addMetrics (store : Store) (cancelled : Bool) (metrics : List Metric) : Except Failure Store := do
  store.check cancelled .addMetrics
  let rows := appendBatch store.flushEvery MetricRow.ofMetric store.tables.metrics metrics
  return { store with tables := { store.tables with metrics := rows } }

def clearTraces (store : Store) (cancelled : Bool) : Except Failure Store := do
  store.check cancelled .clearTraces
  return { store with tables := { store.tables with spans := [] } }

def clearLogs (store : Store) (cancelled : Bool) : Except Failure Store := do
  store.check cancelled .clearLogs
  return { store with tables := { store.tables with logs := [] } }

def clearMetrics (store : Store) (cancelled : Bool) : Except Failure Store := do
  store.check cancelled .clearMetrics
  return { store with tables := { store.tables with metrics := [] } }

/-- Removes the rows that pass the test from all tables, which keep their order. Gives the number of rows
removed. -/
def removeWhere (store : Store) (span : SpanRow → Bool) (log : LogRow → Bool) (metric : MetricRow → Bool) :
    Nat × Store :=
  (store.tables.spans.countP span + store.tables.logs.countP log + store.tables.metrics.countP metric,
    { store with tables := {
        spans := store.tables.spans.filter (!span ·)
        logs := store.tables.logs.filter (!log ·)
        metrics := store.tables.metrics.filter (!metric ·) } })

/-- Removes the spans of the given traces. -/
def deleteSpansOfTraces (store : Store) (cancelled : Bool) (traceIDs : List String) :
    Except Failure (Nat × Store) := do
  store.check cancelled .deleteSpansOfTraces
  return store.removeWhere (traceIDs.contains ·.traceID) (fun _ => false) (fun _ => false)

/-- Removes the spans with the given span ids, in whichever trace they are. -/
def deleteSpans (store : Store) (cancelled : Bool) (spanIDs : List String) :
    Except Failure (Nat × Store) := do
  store.check cancelled .deleteSpans
  return store.removeWhere (spanIDs.contains ·.spanID) (fun _ => false) (fun _ => false)

/-- Removes the logs that were written under the given ids. -/
def deleteLogs (store : Store) (cancelled : Bool) (ids : List String) : Except Failure (Nat × Store) := do
  store.check cancelled .deleteLogs
  return store.removeWhere (fun _ => false) (ids.contains ·.id) (fun _ => false)

/-- Removes the metrics that were written under the given ids. -/
def deleteMetrics (store : Store) (cancelled : Bool) (ids : List String) : Except Failure (Nat × Store) := do
  store.check cancelled .deleteMetrics
  return store.removeWhere (fun _ => false) (fun _ => false) (ids.contains ·.id)

/-- The text that marks the stored attributes of a demo resource. -/
def sampleMark : List Char :=
  Json.renderString sampleKey ++ ':' :: (AttributeValue.bool true).toJson.render

/-- Whether the columns hold the mark of demo data anywhere in the resource's attributes. -/
def OriginColumns.isMarked (c : OriginColumns) : Bool :=
  decide (sampleMark <:+: c.resourceAttributes.toList)

/-- Whether any table holds a marked row. -/
def sampleDataExists (store : Store) (cancelled : Bool) : Except Failure Bool := do
  store.check cancelled .findSampleData
  return store.tables.spans.any (·.origin.isMarked) || store.tables.logs.any (·.origin.isMarked) ||
    store.tables.metrics.any (·.origin.isMarked)

/-- Removes the marked rows. -/
def clearSampleData (store : Store) (cancelled : Bool) : Except Failure (Nat × Store) := do
  store.check cancelled .clearSampleData
  return store.removeWhere (·.origin.isMarked) (·.origin.isMarked) (·.origin.isMarked)

end Telemetry.Store
