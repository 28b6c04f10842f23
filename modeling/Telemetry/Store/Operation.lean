/-! What can be asked of a store, as failures name it. -/
namespace Telemetry.Store

inductive Operation
  | addSpans
  | addLogs
  | addMetrics
  | getTrace (traceID : String)
  | getTraceSummaries
  | getLogs
  | getLog (id : String)
  | getLogsOfTrace (traceID : String)
  | getLogsOfSpan (traceID spanID : String)
  | getMetrics
  | getMetric (id : String)
  | clearTraces
  | clearLogs
  | clearMetrics
  | deleteSpansOfTraces
  | deleteSpans
  | deleteLogs
  | deleteMetrics
  | findSampleData
  | clearSampleData
deriving DecidableEq, Repr

/-- The wording of a failed operation. -/
def Operation.text : Operation → String
  | .addSpans => "failed to add spans"
  | .addLogs => "failed to add logs"
  | .addMetrics => "failed to add metrics"
  | .getTrace traceID => "failed to get trace " ++ traceID
  | .getTraceSummaries => "failed to get trace summaries"
  | .getLogs => "failed to get logs"
  | .getLog id => "failed to get log " ++ id
  | .getLogsOfTrace traceID => "failed to get logs for trace " ++ traceID
  | .getLogsOfSpan traceID spanID => "failed to get logs for trace " ++ traceID ++ " span " ++ spanID
  | .getMetrics => "failed to get metrics"
  | .getMetric id => "failed to get metric " ++ id
  | .clearTraces => "failed to clear traces"
  | .clearLogs => "failed to clear logs"
  | .clearMetrics => "failed to clear metrics"
  | .deleteSpansOfTraces => "failed to delete spans by trace id"
  | .deleteSpans => "failed to delete spans by id"
  | .deleteLogs => "failed to delete logs by id"
  | .deleteMetrics => "failed to delete metrics by id"
  | .findSampleData => "failed to check for sample data"
  | .clearSampleData => "failed to clear sample data"

end Telemetry.Store
