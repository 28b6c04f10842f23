import Telemetry.Proofs.Sample.Loading
import Telemetry.Proofs.Store.Call

/-! What requests come to: a check of the id some of them need, and then one call on the store. Only the demo data that
is made up without a store, and the loading of it, are no single call. -/
namespace Telemetry

open Store (Call Reply)

/-- What a request gives that is one call. -/
def Store.Reply.result : Reply → Except Failure Response
  | .answer .done => .ok .ack
  | .answer (.removed count) => .ok (.deleted (.ofNat count))
  | .answer (.trace trace) => .ok (.trace trace)
  | .answer (.summaries summaries) => .ok (.traceSummaries summaries)
  | .answer (.logs logs) => .ok (.logs logs)
  | .answer (.log log) => .ok (.log log)
  | .answer (.metrics metrics) => .ok (.metrics metrics.value)
  | .answer (.metric metric) => .ok (.metric metric.value)
  | .answer (.failed e) => .error e
  | .sampleDataExists found => .ok (.sampleDataExists found)

/-- A text is blank exactly if trimming leaves nothing of it. -/
theorem Text.isBlankText_eq_decide (s : String) : isBlankText s = decide (trimChars s.toList = []) := by
  rw [isBlankText, trimChars, Bool.eq_iff_iff, decide_eq_true_eq]
  simp only [List.reverse_eq_nil_iff, List.dropWhile_eq_nil_iff, List.mem_reverse, List.all_eq_true]
  constructor
  · intro h c hc
    exact h c (List.dropWhile_sublist _ |>.subset hc)
  · intro h
    have hnil : s.toList.dropWhile isBlank = [] := by
      by_contra hne
      have hhead := List.head_dropWhile_not isBlank hne
      exact absurd (h _ (List.head_mem hne)) (by simpa using hhead)
    exact List.dropWhile_eq_nil_iff.1 hnil

namespace Request

/-- The id a request must not leave blank, after its name. -/
def requiredID? : Request → Option (String × String)
  | .getTrace traceID | .getLogsOfTrace traceID _ => some ("traceID", traceID)
  | .getLog id | .getMetric id => some ("id", id)
  | _ => none

/-- The name of the id that a request needs and leaves blank. -/
def blankID? (request : Request) : Option String :=
  match request.requiredID? with
  | some (name, id) => if Text.trimChars id.toList = [] then some name else none
  | none => none

/-- The call a request is, if it is a single one. -/
def call? : Request → Option Call
  | .getTraceSummaries => some (.command .traceSummaries)
  | .getTrace traceID => some (.command (.trace traceID))
  | .clearTraces => some (.command .clearTraces)
  | .getLogs => some (.command .logs)
  | .getLog id => some (.command (.log id))
  | .getLogsOfTrace traceID spanID =>
    some (.command (if spanID.getD "" = "" then .logsOfTrace traceID else .logsOfSpan traceID (spanID.getD "")))
  | .clearLogs => some (.command .clearLogs)
  | .getMetrics => some (.command .metrics)
  | .getMetric id => some (.command (.metric id))
  | .clearMetrics => some (.command .clearMetrics)
  | .getSampleData | .loadSampleData => none
  | .findSampleData => some .findSampleData
  | .clearSampleData => some .clearSampleData
  | .deleteSpansOfTraces traceIDs => some (.command (.deleteSpansOfTraces traceIDs))
  | .deleteSpans spanIDs => some (.command (.deleteSpans spanIDs))
  | .deleteLogs ids => some (.command (.deleteLogs ids))
  | .deleteMetrics ids => some (.command (.deleteMetrics ids))

end Request

namespace Service

variable {store : Store} {token : Token} {now : Int64} {request : Request}

section Outcomes

open Store (Answer answered)

private theorem reading_answered {α : Type} {answer : α → Answer} {response : α → Response}
    (h : ∀ x, (Reply.answer (answer x)).result = .ok (response x)) (result : Except Failure α) :
    (reading store (response <$> result)).value = ((Reply.answer (answered answer result)).result, store) := by
  cases result with
  | ok x => exact congrArg (·, store) (h x).symm
  | error e => rfl

private theorem reporting_answered {α : Type} {answer : Reported α → Answer} {response : α → Response}
    (h : ∀ x, (Reply.answer (answer x)).result = .ok (response x.value)) (result : Except Failure (Reported α)) :
    (reporting store ((response <$> ·) <$> result)).value =
      ((Reply.answer (answered answer result)).result, store) := by
  cases result with
  | ok x => exact congrArg (·, store) (h x).symm
  | error e => rfl

private theorem writing_changed (result : Except Failure Store) :
    (writing store (cleared <$> result)).value =
      ((Reply.answer (store.changed result).1).result, (store.changed result).2) := by
  cases result <;> rfl

private theorem writing_deleted (result : Except Failure (Nat × Store)) :
    (writing store (deleted <$> result)).value =
      ((Reply.answer (store.deleted result).1).result, (store.deleted result).2) := by
  cases result <;> rfl

end Outcomes

/-- An id is refused if trimming leaves nothing of it. -/
theorem requireID_eq (name id : String) :
    requireID name id =
      if Text.trimChars id.toList = [] then .error (.invalidArgument (name ++ " must not be empty"))
      else .ok () := by
  rw [requireID, Text.isBlankText_eq_decide]
  simp only [decide_eq_true_eq]

/-- A request whose id is blank fails before anything else. -/
theorem dispatch_blank {name : String} (h : request.blankID? = some name) :
    (dispatch store token now request).value =
      (.error (.invalidArgument (name ++ " must not be empty")), store) := by
  cases request with
  | getTrace id | getLog id | getMetric id | getLogsOfTrace id =>
    simp only [Request.blankID?, Request.requiredID?, Option.ite_none_right_eq_some, Option.some.injEq] at h
    obtain ⟨hblank, rfl⟩ := h
    simp only [dispatch, requireID_eq, if_pos hblank]
    rfl
  | _ => cases h

/-- A request that is one call, and whose id is not blank, gives what the call replies. -/
theorem dispatch_call {c : Call} (hcall : request.call? = some c) (hid : request.blankID? = none) :
    (dispatch store token now request).value =
      ((store.call (token 0) c).1.result, (store.call (token 0) c).2) := by
  have hrequire : ∀ {name id}, request.requiredID? = some (name, id) → requireID name id = .ok () := by
    intro name id hrequired
    rw [requireID_eq, if_neg]
    simpa [Request.blankID?, hrequired] using hid
  cases request with
  | getSampleData | loadSampleData => cases hcall
  | getTraceSummaries | getLogs =>
    obtain rfl := Option.some.inj hcall
    exact reading_answered (fun _ => rfl) _
  | getTrace | getLog =>
    obtain rfl := Option.some.inj hcall
    simp only [dispatch, hrequire rfl]
    exact reading_answered (fun _ => rfl) _
  | getLogsOfTrace traceID spanID =>
    obtain rfl := Option.some.inj hcall
    simp only [dispatch, hrequire rfl]
    by_cases hspan : spanID.getD "" = ""
    · simp only [hspan, if_true]
      exact reading_answered (fun _ => rfl) _
    · simp only [hspan, if_false]
      exact reading_answered (fun _ => rfl) _
  | getMetrics =>
    obtain rfl := Option.some.inj hcall
    exact reporting_answered (fun _ => rfl) _
  | getMetric =>
    obtain rfl := Option.some.inj hcall
    simp only [dispatch, hrequire rfl]
    exact reporting_answered (fun _ => rfl) _
  | findSampleData =>
    obtain rfl := Option.some.inj hcall
    show (reading store (.sampleDataExists <$> store.sampleDataExists (token 0))).value = _
    rw [Store.call]
    cases store.sampleDataExists (token 0) <;> rfl
  | clearTraces | clearLogs | clearMetrics =>
    obtain rfl := Option.some.inj hcall
    exact writing_changed _
  | clearSampleData | deleteSpansOfTraces | deleteSpans | deleteLogs | deleteMetrics =>
    obtain rfl := Option.some.inj hcall
    exact writing_deleted _

/-- A request that fails is answered with its failure, as clients see it. -/
theorem value_handle :
    (handle store token now request).value =
      match (dispatch store token now request).value with
      | (.ok response, next) => (response, next)
      | (.error e, next) => (.error (.ofFailure e (notFoundCode request)), next) := by
  rw [handle]
  generalize dispatch store token now request = outcome
  obtain ⟨⟨result, next⟩, warnings⟩ := outcome
  cases result <;> rfl

end Service
end Telemetry
