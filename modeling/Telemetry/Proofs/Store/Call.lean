import Telemetry.Proofs.Store.Reachable

/-! The calls on a store. Each is checked before it does anything, so that all of them are refused alike on a closed
store and for a caller that has cancelled, and change nothing then. -/
namespace Telemetry.Store

/-- What is asked of a store: a command, or something about demo data. -/
inductive Call
  | command (c : Command)
  | findSampleData
  | clearSampleData

/-- What comes back from a call. -/
inductive Reply
  | answer (a : Answer)
  | sampleDataExists (found : Bool)

namespace Reply

def failed (e : Failure) : Reply := .answer (.failed e)

end Reply

/-- How the failures of a command name it. -/
def Command.operation : Command → Operation
  | .addSpans _ => .addSpans
  | .addLogs _ => .addLogs
  | .addMetrics _ => .addMetrics
  | .clearTraces => .clearTraces
  | .clearLogs => .clearLogs
  | .clearMetrics => .clearMetrics
  | .deleteSpansOfTraces _ => .deleteSpansOfTraces
  | .deleteSpans _ => .deleteSpans
  | .deleteLogs _ => .deleteLogs
  | .deleteMetrics _ => .deleteMetrics
  | .trace traceID => .getTrace traceID
  | .traceSummaries => .getTraceSummaries
  | .logs => .getLogs
  | .logsOfTrace traceID => .getLogsOfTrace traceID
  | .logsOfSpan traceID spanID => .getLogsOfSpan traceID spanID
  | .log id => .getLog id
  | .metrics => .getMetrics
  | .metric id => .getMetric id

namespace Call

def operation : Call → Operation
  | .command c => c.operation
  | .findSampleData => .findSampleData
  | .clearSampleData => .clearSampleData

/-- The records a call gives a store to keep. -/
def written : Call → List Written
  | .command c => c.written
  | .findSampleData | .clearSampleData => []

/-- The calls that only look. -/
def IsRead : Call → Prop
  | .command (.trace _) | .command .traceSummaries | .command .logs | .command (.logsOfTrace _)
  | .command (.logsOfSpan _ _) | .command (.log _) | .command .metrics | .command (.metric _)
  | .findSampleData => True
  | _ => False

end Call

/-- One command of a caller that may have cancelled: its answer and the store after it. -/
def performFor (store : Store) (cancelled : Bool) : Command → Answer × Store
  | .addSpans spans => store.changed (store.addSpans cancelled spans)
  | .addLogs logs => store.changed (store.addLogs cancelled logs)
  | .addMetrics metrics => store.changed (store.addMetrics cancelled metrics)
  | .clearTraces => store.changed (store.clearTraces cancelled)
  | .clearLogs => store.changed (store.clearLogs cancelled)
  | .clearMetrics => store.changed (store.clearMetrics cancelled)
  | .deleteSpansOfTraces traceIDs => store.deleted (store.deleteSpansOfTraces cancelled traceIDs)
  | .deleteSpans spanIDs => store.deleted (store.deleteSpans cancelled spanIDs)
  | .deleteLogs ids => store.deleted (store.deleteLogs cancelled ids)
  | .deleteMetrics ids => store.deleted (store.deleteMetrics cancelled ids)
  | .trace traceID => (answered .trace (store.trace cancelled traceID), store)
  | .traceSummaries => (answered .summaries (store.traceSummaries cancelled), store)
  | .logs => (answered .logs (store.logs cancelled), store)
  | .logsOfTrace traceID => (answered .logs (store.logsOfTrace cancelled traceID), store)
  | .logsOfSpan traceID spanID => (answered .logs (store.logsOfSpan cancelled traceID spanID), store)
  | .log id => (answered .log (store.log cancelled id), store)
  | .metrics => (answered .metrics (store.metrics cancelled), store)
  | .metric id => (answered .metric (store.metric cancelled id), store)

theorem performFor_live (store : Store) (c : Command) : store.performFor false c = store.perform c := by
  cases c <;> rfl

/-- The reply to the question for demo data. -/
def foundReply : Except Failure Bool → Reply
  | .ok found => .sampleDataExists found
  | .error e => .failed e

/-- One call of a caller that may have cancelled: its reply and the store after it. -/
def call (store : Store) (cancelled : Bool) : Call → Reply × Store
  | .command c => (.answer (store.performFor cancelled c).1, (store.performFor cancelled c).2)
  | .findSampleData => (foundReply (store.sampleDataExists cancelled), store)
  | .clearSampleData =>
    (.answer (store.deleted (store.clearSampleData cancelled)).1,
      (store.deleted (store.clearSampleData cancelled)).2)

variable {store : Store} {W : Written → Prop}

private theorem performFor_of_check {cancelled : Bool} {c : Command} {e : Failure}
    (h : store.check cancelled c.operation = .error e) : store.performFor cancelled c = (.failed e, store) := by
  cases c with
  | addSpans | addLogs | addMetrics =>
    simp only [Command.operation] at h
    simp only [performFor, addSpans, addLogs, addMetrics, h]
    rfl
  | clearTraces | clearLogs | clearMetrics =>
    simp only [Command.operation] at h
    simp only [performFor, clearTraces, clearLogs, clearMetrics, h]
    rfl
  | deleteSpansOfTraces | deleteSpans | deleteLogs | deleteMetrics =>
    simp only [Command.operation] at h
    simp only [performFor, deleteSpansOfTraces, deleteSpans, deleteLogs, deleteMetrics, h]
    rfl
  | trace | traceSummaries =>
    simp only [Command.operation] at h
    simp only [performFor, trace, traceSummaries, h]
    rfl
  | logs | logsOfTrace | logsOfSpan | log =>
    simp only [Command.operation] at h
    simp only [performFor, logs, logsOfTrace, logsOfSpan, logsWhere, log, h]
    rfl
  | metrics | metric =>
    simp only [Command.operation] at h
    simp only [performFor, metrics, metric, h]
    rfl

/-- A call whose check fails replies with that failure and leaves the store alone. -/
theorem call_of_check {cancelled : Bool} {c : Call} {e : Failure}
    (h : store.check cancelled c.operation = .error e) : store.call cancelled c = (.failed e, store) := by
  cases c with
  | command c =>
    rw [call, performFor_of_check h]
    rfl
  | findSampleData | clearSampleData =>
    simp only [Call.operation] at h
    simp only [call, sampleDataExists, clearSampleData, h]
    rfl

theorem call_closed (h : store.isOpen = false) (cancelled : Bool) (c : Call) :
    store.call cancelled c = (.failed (.connectionClosed c.operation.text), store) :=
  call_of_check (check_closed h cancelled c.operation)

theorem call_cancelled (h : store.isOpen = true) (c : Call) :
    store.call true c = (.failed (.cancelled c.operation.text), store) := by
  refine call_of_check ?_
  simp [check, h]

theorem call_live (store : Store) (c : Command) :
    store.call false (.command c) = (.answer (store.perform c).1, (store.perform c).2) := by
  rw [call, performFor_live]

/-- Reads see the tables, and whether the store is open, and nothing else of it. -/
theorem call_read_congr {other : Store} (hopen : store.isOpen = other.isOpen)
    (htables : store.tables = other.tables) {c : Call} (hc : c.IsRead) (cancelled : Bool) :
    (store.call cancelled c).1 = (other.call cancelled c).1 := by
  obtain ⟨path, flushEvery, hpos, isOpen, tables⟩ := store
  obtain ⟨path', flushEvery', hpos', isOpen', tables'⟩ := other
  obtain rfl : isOpen = isOpen' := hopen
  obtain rfl : tables = tables' := htables
  cases c with
  | command c =>
    cases c with
    | trace | traceSummaries | logs | logsOfTrace | logsOfSpan | log | metrics | metric => rfl
    | _ => exact hc.elim
  | findSampleData => rfl
  | clearSampleData => exact hc.elim

theorem call_read {c : Call} (hc : c.IsRead) (cancelled : Bool) : (store.call cancelled c).2 = store := by
  cases c with
  | command c =>
    cases c with
    | trace | traceSummaries | logs | logsOfTrace | logsOfSpan | log | metrics | metric => rfl
    | _ => exact hc.elim
  | findSampleData => rfl
  | clearSampleData => exact hc.elim

/-- Calls lead from stores that can come about to others, whether the caller has cancelled or not. -/
theorem Reachable.call (h : Reachable W store) (cancelled : Bool) {c : Call} (hc : ∀ w ∈ c.written, W w) :
    Reachable W (store.call cancelled c).2 := by
  cases hopen : store.isOpen with
  | false => rwa [call_closed hopen]
  | true =>
    cases cancelled with
    | true => rwa [call_cancelled hopen]
    | false =>
      cases c with
      | command c =>
        rw [call_live]
        exact h.perform c hc
      | findSampleData => exact h
      | clearSampleData =>
        have hclear := clearSampleData_open hopen
        rw [Store.call, hclear]
        exact h.clearSampleData hclear

end Telemetry.Store
