import Telemetry.Store.Query
import Telemetry.Store.Write
import Telemetry.Proofs.Storage.Row

/-! What a store is meant to do, on records instead of rows: three lists of the records as they were written,
in the order they were written. -/
namespace Telemetry

namespace Store

/-- What is asked of a store by a caller that does not cancel. -/
inductive Command
  | addSpans (spans : List Span)
  | addLogs (logs : List Log)
  | addMetrics (metrics : List Metric)
  | clearTraces
  | clearLogs
  | clearMetrics
  | deleteSpansOfTraces (traceIDs : List String)
  | deleteSpans (spanIDs : List String)
  | deleteLogs (ids : List String)
  | deleteMetrics (ids : List String)
  | trace (traceID : String)
  | traceSummaries
  | logs
  | logsOfTrace (traceID : String)
  | logsOfSpan (traceID spanID : String)
  | log (id : String)
  | metrics
  | metric (id : String)

/-- What comes back from a command. -/
inductive Answer
  | done
  | removed (count : Nat)
  | trace (trace : Trace)
  | summaries (summaries : List TraceSummary)
  | logs (logs : List Log)
  | log (log : Log)
  | metrics (metrics : Reported (List Metric))
  | metric (metric : Reported Metric)
  | failed (failure : Failure)

/-- The answer to a read. -/
def answered {α : Type} (answer : α → Answer) : Except Failure α → Answer
  | .ok x => answer x
  | .error e => .failed e

/-- The answer to a write, which leaves the store as it was if it fails. -/
def changed (store : Store) : Except Failure Store → Answer × Store
  | .ok next => (.done, next)
  | .error e => (.failed e, store)

/-- The answer to a targeted delete, which leaves the store as it was if it fails. -/
def deleted (store : Store) : Except Failure (Nat × Store) → Answer × Store
  | .ok (count, next) => (.removed count, next)
  | .error e => (.failed e, store)

/-- One command on a store: its answer and the store after it. -/
def perform (store : Store) : Command → Answer × Store
  | .addSpans spans => store.changed (store.addSpans false spans)
  | .addLogs logs => store.changed (store.addLogs false logs)
  | .addMetrics metrics => store.changed (store.addMetrics false metrics)
  | .clearTraces => store.changed (store.clearTraces false)
  | .clearLogs => store.changed (store.clearLogs false)
  | .clearMetrics => store.changed (store.clearMetrics false)
  | .deleteSpansOfTraces traceIDs => store.deleted (store.deleteSpansOfTraces false traceIDs)
  | .deleteSpans spanIDs => store.deleted (store.deleteSpans false spanIDs)
  | .deleteLogs ids => store.deleted (store.deleteLogs false ids)
  | .deleteMetrics ids => store.deleted (store.deleteMetrics false ids)
  | .trace traceID => (answered .trace (store.trace false traceID), store)
  | .traceSummaries => (answered .summaries (store.traceSummaries false), store)
  | .logs => (answered .logs (store.logs false), store)
  | .logsOfTrace traceID => (answered .logs (store.logsOfTrace false traceID), store)
  | .logsOfSpan traceID spanID => (answered .logs (store.logsOfSpan false traceID spanID), store)
  | .log id => (answered .log (store.log false id), store)
  | .metrics => (answered .metrics (store.metrics false), store)
  | .metric id => (answered .metric (store.metric false id), store)

/-- The answers to commands that are performed one after the other. -/
def answers (store : Store) : List Command → List Answer
  | [] => []
  | c :: rest => (store.perform c).1 :: (store.perform c).2.answers rest

end Store

/-- The order in which the spans of a trace stand for it: a root before any other, then the earlier start,
then the smaller span id. -/
def Span.leads (a b : Span) : Bool :=
  if a.isRoot != b.isRoot then a.isRoot
  else if a.startTime ≠ b.startTime then a.startTime < b.startTime
  else a.spanID ≤ b.spanID

/-- Later effective time first; of equal times the smaller content id. -/
def Log.precedes (a b : Log) : Bool :=
  b.effectiveTimestamp < a.effectiveTimestamp ||
    (a.effectiveTimestamp == b.effectiveTimestamp && a.id ≤ b.id)

/-- Later arrival first; of equal times the smaller content id. -/
def Metric.precedes (a b : Metric) : Bool :=
  b.received < a.received || (a.received == b.received && a.id ≤ b.id)

/-- How written records come back when they are read. -/
structure Readback where
  span : Span → Span
  log : Log → Log
  metric : Metric → Reported Metric

namespace Readback

/-- Every record comes back as it was written. -/
def exact : Readback := ⟨id, id, pure⟩

/-- Every record comes back through the text it is stored as. -/
def restored : Readback := ⟨Span.restored, Log.restored, fun m => ⟨m.restored, m.mismatches⟩⟩

end Readback

/-- The records in a store, in the order they were written. -/
structure Records where
  spans : List Span
  logs : List Log
  metrics : List Metric

namespace Records

open Store (Answer Command Listing)

def empty : Records := ⟨[], [], []⟩

/-- The line that lists a trace with the given spans; none if there are no spans. -/
def line? (back : Readback) (spans : List Span) : Option Listing := do
  let leader ← (spans.mergeSort Span.leads).head?
  let earliest ← (spans.map (·.startTime)).min?
  return {
    time := if leader.isRoot then leader.startTime else earliest
    summary := {
      traceID := leader.traceID
      rootSpan :=
        if leader.isRoot then some {
          serviceName := (back.span leader).resource.serviceName
          name := leader.name
          startTime := leader.startTime
          endTime := leader.endTime }
        else none
      spanCount := UInt64.ofNat spans.length } }

/-- One line for each trace that has a span, the latest first. -/
def summaries (back : Readback) (spans : List Span) : List TraceSummary :=
  let traceIDs := (spans.map (·.traceID)).eraseDups
  let lines := traceIDs.filterMap fun id => line? back (spans.filter (·.traceID == id))
  (lines.mergeSort Listing.precedes).map (·.summary)

/-- The logs that pass a test, latest first. -/
def logsWhere (back : Readback) (logs : List Log) (keep : Log → Bool) : Answer :=
  .logs (((logs.filter keep).mergeSort Log.precedes).map back.log)

/-- The first record that passes a test, or the failure to find it. -/
def first {α β : Type} (what : String) (answer : β → Answer) (read : α → β) (records : List α)
    (test : α → Bool) : Answer :=
  match records.find? test with
  | some x => answer (read x)
  | none => .failed (.notFound what)

/-- The spans of a trace in waterfall order, or the failure to find one. -/
def trace (back : Readback) (spans : List Span) (traceID : String) : Answer :=
  let found := spans.filter (·.traceID == traceID)
  if found.isEmpty then .failed (.notFound ("trace " ++ traceID))
  else .trace (Waterfall.trace traceID (found.map back.span))

/-- One command on the records: its answer and the records after it. -/
def perform (back : Readback) (r : Records) : Command → Answer × Records
  | .addSpans spans => (.done, { r with spans := r.spans ++ spans })
  | .addLogs logs => (.done, { r with logs := r.logs ++ logs })
  | .addMetrics metrics => (.done, { r with metrics := r.metrics ++ metrics })
  | .clearTraces => (.done, { r with spans := [] })
  | .clearLogs => (.done, { r with logs := [] })
  | .clearMetrics => (.done, { r with metrics := [] })
  | .deleteSpansOfTraces traceIDs =>
    (.removed (r.spans.countP (traceIDs.contains ·.traceID)),
      { r with spans := r.spans.filter (!traceIDs.contains ·.traceID) })
  | .deleteSpans spanIDs =>
    (.removed (r.spans.countP (spanIDs.contains ·.spanID)),
      { r with spans := r.spans.filter (!spanIDs.contains ·.spanID) })
  | .deleteLogs ids =>
    (.removed (r.logs.countP (ids.contains ·.id)), { r with logs := r.logs.filter (!ids.contains ·.id) })
  | .deleteMetrics ids =>
    (.removed (r.metrics.countP (ids.contains ·.id)),
      { r with metrics := r.metrics.filter (!ids.contains ·.id) })
  | .trace traceID => (trace back r.spans traceID, r)
  | .traceSummaries => (.summaries (summaries back r.spans), r)
  | .logs => (logsWhere back r.logs fun _ => true, r)
  | .logsOfTrace traceID => (logsWhere back r.logs (·.traceID == traceID), r)
  | .logsOfSpan traceID spanID =>
    (logsWhere back r.logs fun l => l.traceID == traceID && l.spanID == spanID, r)
  | .log id => (first ("log " ++ id) .log back.log r.logs (·.id == id), r)
  | .metrics => (.metrics (Reported.each back.metric (r.metrics.mergeSort Metric.precedes)), r)
  | .metric id => (first ("metric " ++ id) .metric back.metric r.metrics (·.id == id), r)

/-- The answers to commands that are performed one after the other. -/
def answers (back : Readback) (r : Records) : List Command → List Answer
  | [] => []
  | c :: rest => (r.perform back c).1 :: (r.perform back c).2.answers back rest

end Records
end Telemetry
