import Telemetry.Service.Request
import Telemetry.Service.Response
import Telemetry.Store.Query
import Telemetry.Store.Write
import Telemetry.Text.Blank

/-! Answering requests from a store. -/
namespace Telemetry.Service

/-- What a caller's cancellation looks like to a call: whether it has happened when the call checks for the
first, second, … time, counted from zero. -/
abbrev Token := Nat → Bool

namespace Token

/-- A caller that never cancels. -/
def live : Token := fun _ => false

/-- A caller that cancelled before the call. -/
def cancelled : Token := fun _ => true

end Token

/-- The number a request's error has if the thing it asks for is missing. -/
def notFoundCode : Request → Int32
  | .getLog _ => ErrorCode.logNotFound.number
  | .getMetric _ => ErrorCode.metricNotFound.number
  | _ => ErrorCode.traceNotFound.number

/-- An id must have a character that is not blank. -/
def requireID (name id : String) : Except Failure Unit :=
  if Text.isBlankText id then .error (.invalidArgument (name ++ " must not be empty")) else .ok ()

/-- A load that was broken off. -/
structure Interrupted where
  failure : Failure
  /-- the store with the batches written so far -/
  store : Store
  /-- how often the call has checked for cancellation -/
  checks : Nat

/-- Writes the demo telemetry, after one check of the call. -/
def writeSampleData (store : Store) (token : Token) (data : SampleData) : Except Interrupted Store := do
  let withSpans ← (store.addSpans (token 1) data.spans).mapError fun e => ⟨e, store, 2⟩
  let withLogs ← (withSpans.addLogs (token 2) data.logs).mapError fun e => ⟨e, withSpans, 3⟩
  (withLogs.addMetrics (token 3) data.metrics).mapError fun e => ⟨e, withLogs, 4⟩

/-- Removes the demo rows after a load that was broken off. -/
def rollBack (interrupted : Interrupted) (token : Token) : Reported Store :=
  match interrupted.store.clearSampleData (token interrupted.checks) with
  | .ok (removed, store) => do
    Reported.warn (.loadRolledBack interrupted.failure removed)
    return store
  | .error cleanup => do
    Reported.warn (.rollbackFailed interrupted.failure cleanup)
    return interrupted.store

/-- Writes the demo telemetry unless some is there. Says whether it was written, and gives the store as it is
then. -/
def loadSampleData (store : Store) (token : Token) (now : Int64) : Reported (Except Failure Bool × Store) :=
  match store.sampleDataExists (token 0) with
  | .error failure => return (.error failure, store)
  | .ok true => return (.ok false, store)
  | .ok false => do
    let data ← SampleData.generate now
    match writeSampleData store token data with
    | .ok store => return (.ok true, store)
    | .error interrupted =>
      let store ← rollBack interrupted token
      return (.error interrupted.failure, store)

/-- The outcome of a call that leaves the store alone. -/
def reading (store : Store) (result : Except Failure Response) : Reported (Except Failure Response × Store) :=
  return (result, store)

/-- The outcome of a call that reports what it leaves out, and leaves the store alone. -/
def reporting (store : Store) (result : Except Failure (Reported Response)) :
    Reported (Except Failure Response × Store) :=
  match result with
  | .ok response => do return (.ok (← response), store)
  | .error failure => return (.error failure, store)

/-- The outcome of a call that changes the store unless it fails. -/
def writing (store : Store) (result : Except Failure (Response × Store)) :
    Reported (Except Failure Response × Store) :=
  match result with
  | .ok (response, changed) => return (.ok response, changed)
  | .error failure => return (.error failure, store)

/-- The answer that a table was cleared. -/
def cleared (store : Store) : Response × Store := (.ack, store)

/-- The answer that rows were removed. -/
def deleted (result : Nat × Store) : Response × Store := (.deleted (UInt64.ofNat result.1), result.2)

/-- The outcome of a request, and the store after it. -/
def dispatch (store : Store) (token : Token) (now : Int64) (request : Request) :
    Reported (Except Failure Response × Store) :=
  let cancelled := token 0
  match request with
  | .getTraceSummaries => reading store (.traceSummaries <$> store.traceSummaries cancelled)
  | .getTrace traceID => reading store do
    requireID "traceID" traceID
    .trace <$> store.trace cancelled traceID
  | .clearTraces => writing store (cleared <$> store.clearTraces cancelled)
  | .getLogs => reading store (.logs <$> store.logs cancelled)
  | .getLog id => reading store do
    requireID "id" id
    .log <$> store.log cancelled id
  | .getLogsOfTrace traceID spanID => reading store do
    requireID "traceID" traceID
    let spanID := spanID.getD ""
    if spanID = "" then .logs <$> store.logsOfTrace cancelled traceID
    else .logs <$> store.logsOfSpan cancelled traceID spanID
  | .clearLogs => writing store (cleared <$> store.clearLogs cancelled)
  | .getMetrics => reporting store ((.metrics <$> ·) <$> store.metrics cancelled)
  | .getMetric id => reporting store do
    requireID "id" id
    (.metric <$> ·) <$> store.metric cancelled id
  | .clearMetrics => writing store (cleared <$> store.clearMetrics cancelled)
  | .getSampleData => reporting store (.ok (.sampleData <$> SampleData.generate now))
  | .loadSampleData => do
    let (result, store) ← loadSampleData store token now
    return ((fun _ => .ack) <$> result, store)
  | .findSampleData => reading store (.sampleDataExists <$> store.sampleDataExists cancelled)
  | .clearSampleData => writing store (deleted <$> store.clearSampleData cancelled)
  | .deleteSpansOfTraces traceIDs => writing store (deleted <$> store.deleteSpansOfTraces cancelled traceIDs)
  | .deleteSpans spanIDs => writing store (deleted <$> store.deleteSpans cancelled spanIDs)
  | .deleteLogs ids => writing store (deleted <$> store.deleteLogs cancelled ids)
  | .deleteMetrics ids => writing store (deleted <$> store.deleteMetrics cancelled ids)

/-- The answer to a request, and the store after it. A failure is an answer too, and is reported. -/
def handle (store : Store) (token : Token) (now : Int64) (request : Request) :
    Reported (Response × Store) := do
  let (result, store) ← dispatch store token now request
  match result with
  | .ok response => return (response, store)
  | .error failure =>
    let error := ServiceError.ofFailure failure (notFoundCode request)
    Reported.warn (.requestFailed request.method error.code.toInt failure)
    return (.error error, store)

/-- Maps and stores the spans of an export request. Gives their number. -/
def ingestTraces (store : Store) (token : Token) (resources : List (Otlp.ResourceItems Otlp.SpanMessage)) :
    Reported (Except Failure (Nat × Store)) := do
  let spans ← Otlp.spans resources
  return (spans.length, ·) <$> store.addSpans (token 0) spans

/-- Maps and stores the logs of an export request. Gives their number. -/
def ingestLogs (store : Store) (token : Token) (resources : List (Otlp.ResourceItems Otlp.LogMessage)) :
    Reported (Except Failure (Nat × Store)) := do
  let logs ← Otlp.logs resources
  return (logs.length, ·) <$> store.addLogs (token 0) logs

/-- Maps and stores the metrics of an export request that arrives at the given time. Gives their number. -/
def ingestMetrics (store : Store) (token : Token) (now : Int64)
    (resources : List (Otlp.ResourceItems Otlp.MetricMessage)) : Reported (Except Failure (Nat × Store)) := do
  let metrics ← Otlp.metrics resources now
  return (metrics.length, ·) <$> store.addMetrics (token 0) metrics

end Telemetry.Service
