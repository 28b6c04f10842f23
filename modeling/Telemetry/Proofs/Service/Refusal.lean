import Telemetry.Proofs.Service.Reachable

/-! Which requests a service refuses, and in which order it finds out: a blank id first, then a closed store, a caller
that has cancelled, and a record that is not there. Nothing else fails, and a request that is refused changes
nothing. -/
namespace Telemetry

open Store (Call Command Reply Tables)

namespace Request

/-- The requests that only look. -/
def IsRead : Request → Prop
  | .getTraceSummaries | .getTrace _ | .getLogs | .getLog _ | .getLogsOfTrace _ _ | .getMetrics | .getMetric _
  | .getSampleData | .findSampleData => True
  | _ => False

/-- The operation by which a request first comes to the store. Demo data is made up without it. -/
def operation? : Request → Option Store.Operation
  | .getSampleData => none
  | .loadSampleData => some .findSampleData
  | request => request.call?.map Call.operation

/-- The error for the one record that a request asks for, if no row has its id. -/
def missing? (tables : Tables) : Request → Option ServiceError
  | .getTrace traceID =>
    if tables.spans.any (·.traceID == traceID) then none
    else some ⟨ErrorCode.traceNotFound.number, "trace " ++ traceID ++ " not found"⟩
  | .getLog id =>
    if tables.logs.any (·.id == id) then none
    else some ⟨ErrorCode.logNotFound.number, "log " ++ id ++ " not found"⟩
  | .getMetric id =>
    if tables.metrics.any (·.id == id) then none
    else some ⟨ErrorCode.metricNotFound.number, "metric " ++ id ++ " not found"⟩
  | _ => none

/-- The error a request is refused with, by the first of the reasons that applies. -/
def refusal? (request : Request) (store : Store) (cancelled : Bool) : Option ServiceError :=
  match request.blankID?, request.operation? with
  | some name, _ => some ⟨ErrorCode.invalidParams.number, "invalid argument: " ++ (name ++ " must not be empty")⟩
  | none, none => none
  | none, some operation =>
    if store.isOpen = false then
      some ⟨ErrorCode.connectionClosed.number, operation.text ++ ": store connection is closed"⟩
    else if cancelled then some ⟨ErrorCode.cancelled.number, operation.text ++ ": operation cancelled"⟩
    else request.missing? store.tables

theorem isRead_of_missing? {request : Request} {tables : Tables} (h : (request.missing? tables).isSome) :
    request.IsRead := by
  cases request with
  | getTrace | getLog | getMetric => trivial
  | _ => cases h

theorem isRead_of_call? {request : Request} {c : Call} (hcall : request.call? = some c) (h : request.IsRead) :
    c.IsRead := by
  cases request with
  | getLogsOfTrace traceID spanID =>
    obtain rfl := Option.some.inj hcall
    split <;> trivial
  | getTraceSummaries | getTrace | getLogs | getLog | getMetrics | getMetric | findSampleData =>
    obtain rfl := Option.some.inj hcall
    trivial
  | getSampleData => cases hcall
  | _ => exact h.elim

theorem operation?_eq {request : Request} {c : Call} (hcall : request.call? = some c) :
    request.operation? = some c.operation := by
  cases request with
  | getSampleData | loadSampleData => cases hcall
  | _ =>
    obtain rfl := Option.some.inj hcall
    rfl

end Request

namespace Store

/-- The failure that a call replies with. -/
def Reply.failure? : Reply → Option Failure
  | .answer (.failed e) => some e
  | _ => none

/-- The one record that a call asks for, if no row has its id. -/
def Call.missing? (tables : Tables) : Call → Option String
  | .command (.trace traceID) => if tables.spans.any (·.traceID == traceID) then none else some ("trace " ++ traceID)
  | .command (.log id) => if tables.logs.any (·.id == id) then none else some ("log " ++ id)
  | .command (.metric id) => if tables.metrics.any (·.id == id) then none else some ("metric " ++ id)
  | _ => none

variable {store : Store} {r : Records}

/-- The search for the first record that passes a test fails if there is none. -/
private theorem failure?_first {α β ρ : Type} {what : String} {answer : β → Answer}
    (hanswer : ∀ x, (Reply.answer (answer x)).failure? = none) (read : α → β) (records : List α) (row : α → ρ)
    (test : ρ → Bool) :
    (Reply.answer (Records.first what answer read records fun x => test (row x))).failure? =
      (if (records.map row).any test then none else some what).map Failure.notFound := by
  rw [List.any_map, Records.first]
  cases hfind : records.find? fun x => test (row x) with
  | some x =>
    have hany : records.any (test ∘ row) = true :=
      List.any_eq_true.2 ⟨x, List.mem_of_find?_eq_some hfind, List.find?_some hfind⟩
    rw [hany]
    exact hanswer _
  | none =>
    have hany : records.any (test ∘ row) = false := List.any_eq_false.2 (List.find?_eq_none.1 hfind)
    rw [hany]
    rfl

private theorem failure?_trace (spans : List Span) (traceID : String) :
    (Reply.answer (Records.trace .restored spans traceID)).failure? =
      (if (spans.map SpanRow.ofSpan).any (·.traceID == traceID) then none else some ("trace " ++ traceID)).map
        Failure.notFound := by
  have hempty : (spans.filter (·.traceID == traceID)).isEmpty =
      !(spans.map SpanRow.ofSpan).any (·.traceID == traceID) := by
    rw [Bool.eq_iff_iff, List.isEmpty_iff, List.filter_eq_nil_iff, Bool.not_eq_true', List.any_map, List.any_eq_false]
    rfl
  rw [Records.trace, hempty]
  cases (spans.map SpanRow.ofSpan).any (·.traceID == traceID) <;> rfl

/-- On an open store that can come about, and for a caller that does not cancel, only the search for one record
fails, and only if it is not there. -/
theorem Reachable.failure?_call {W : Written → Prop} (h : Reachable W store) (hopen : store.isOpen = true) (c : Call) :
    (store.call false c).1.failure? = (c.missing? store.tables).map Failure.notFound := by
  cases c with
  | findSampleData =>
    rw [Store.call, sampleDataExists_open hopen]
    rfl
  | clearSampleData =>
    rw [Store.call, clearSampleData_open hopen]
    rfl
  | command c =>
    obtain ⟨r, hrep, -⟩ := h.exists_represents hopen
    rw [call_live, (perform_refines hrep c).1]
    cases c with
    | trace traceID =>
      rw [Call.missing?, hrep.spans]
      exact failure?_trace r.spans traceID
    | log id =>
      rw [Call.missing?, hrep.logs]
      exact failure?_first (fun _ => rfl) _ r.logs LogRow.ofLog (·.id == id)
    | metric id =>
      rw [Call.missing?, hrep.metrics]
      exact failure?_first (fun _ => rfl) _ r.metrics MetricRow.ofMetric (·.id == id)
    | _ => rfl

end Store

namespace Service

variable {store : Store} {token : Token} {now : Int64} {request : Request}

/-- A call's failure is what its request is answered with. -/
private theorem error?_result (reply : Reply) (notFound : Int32) :
    (match reply.result with
      | .ok response => response.error?
      | .error e => some (.ofFailure e notFound)) = reply.failure?.map (ServiceError.ofFailure · notFound) := by
  cases reply with
  | sampleDataExists => rfl
  | answer a => cases a <;> rfl

theorem error?_handle :
    (handle store token now request).value.1.error? =
      match (dispatch store token now request).value.1 with
      | .ok response => response.error?
      | .error e => some (.ofFailure e (notFoundCode request)) := by
  rw [value_handle]
  generalize (dispatch store token now request).value = outcome
  obtain ⟨result, next⟩ := outcome
  cases result <;> rfl

theorem dispatch_read (h : request.IsRead) : (dispatch store token now request).value.2 = store := by
  cases hblank : request.blankID? with
  | some name => rw [dispatch_blank hblank]
  | none =>
    cases hcall : request.call? with
    | some c =>
      rw [dispatch_call hcall hblank]
      exact Store.call_read (Request.isRead_of_call? hcall h) _
    | none =>
      cases request with
      | getSampleData => rfl
      | loadSampleData => exact h.elim
      | _ => cases hcall

/-- A request that is one call misses what the call misses. -/
private theorem missing?_eq {c : Call} (hcall : request.call? = some c) (tables : Tables) :
    request.missing? tables =
      (c.missing? tables).map fun what => .ofFailure (.notFound what) (notFoundCode request) := by
  cases request with
  | getSampleData | loadSampleData => cases hcall
  | getTrace | getLog | getMetric =>
    obtain rfl := Option.some.inj hcall
    simp only [Request.missing?, Call.missing?]
    split <;> rfl
  | getLogsOfTrace =>
    obtain rfl := Option.some.inj hcall
    split <;> rfl
  | _ =>
    obtain rfl := Option.some.inj hcall
    rfl

/-- An answer reports the reason for which its request is refused, if there is one. The store is then as before, as it
is after a read. -/
structure IsDue (request : Request) (store : Store) (cancelled : Bool) (outcome : Response × Store) : Prop where
  error : outcome.1.error? = request.refusal? store cancelled
  unchanged : outcome.1.error?.isSome ∨ request.IsRead → outcome.2 = store

private theorem isDue_of_unchanged {cancelled : Bool}
    (herror : (handle store (fun _ => cancelled) now request).value.1.error? = request.refusal? store cancelled)
    (hstore : (dispatch store (fun _ => cancelled) now request).value.2 = store) :
    IsDue request store cancelled (handle store (fun _ => cancelled) now request).value :=
  ⟨herror, fun _ => (store_handle ..).trans hstore⟩

private theorem isDue_blank {name : String} (hid : request.blankID? = some name) (cancelled : Bool) :
    IsDue request store cancelled (handle store (fun _ => cancelled) now request).value := by
  apply isDue_of_unchanged
  · rw [error?_handle, dispatch_blank hid, Request.refusal?, hid]
    rfl
  · rw [dispatch_blank hid]

/-- A request that is one call is refused when the call is, and for its reason. -/
private theorem isDue_call {c : Call} (h : Reachable store) (hcall : request.call? = some c)
    (hid : request.blankID? = none) (cancelled : Bool) :
    IsDue request store cancelled (handle store (fun _ => cancelled) now request).value := by
  have herror : (handle store (fun _ => cancelled) now request).value.1.error? =
      (store.call cancelled c).1.failure?.map (ServiceError.ofFailure · (notFoundCode request)) := by
    rw [error?_handle, dispatch_call hcall hid, error?_result]
  have hrefusal : request.refusal? store cancelled =
      if store.isOpen = false then
        some ⟨ErrorCode.connectionClosed.number, c.operation.text ++ ": store connection is closed"⟩
      else if cancelled then some ⟨ErrorCode.cancelled.number, c.operation.text ++ ": operation cancelled"⟩
      else request.missing? store.tables := by
    rw [Request.refusal?, hid, Request.operation?_eq hcall]
  cases hopen : store.isOpen with
  | false =>
    apply isDue_of_unchanged
    · rw [herror, hrefusal, Store.call_closed hopen, if_pos hopen]
      rfl
    · rw [dispatch_call hcall hid, Store.call_closed hopen]
  | true =>
    rw [hopen, if_neg (by decide)] at hrefusal
    cases cancelled with
    | true =>
      apply isDue_of_unchanged
      · rw [herror, hrefusal, Store.call_cancelled hopen]
        rfl
      · rw [dispatch_call hcall hid, Store.call_cancelled hopen]
    | false =>
      have hmissing : (handle store (fun _ => false) now request).value.1.error? = request.missing? store.tables := by
        rw [herror, h.onStore.failure?_call hopen, Option.map_map, missing?_eq hcall]
        rfl
      refine ⟨hmissing.trans hrefusal.symm, ?_⟩
      -- only searches for one record fail here, and they are reads
      intro hread
      rw [hmissing] at hread
      exact (store_handle ..).trans (dispatch_read (hread.elim Request.isRead_of_missing? id))

/-- Demo data is loaded, or found to be there, unless the store is closed or the caller has cancelled. -/
private theorem isDue_loadSampleData (cancelled : Bool) :
    IsDue .loadSampleData store cancelled (handle store (fun _ => cancelled) now .loadSampleData).value := by
  have hdispatch : (dispatch store (fun _ => cancelled) now .loadSampleData).value =
      ((fun _ => .ack) <$> (loadSampleData store (fun _ => cancelled) now).value.1,
        (loadSampleData store (fun _ => cancelled) now).value.2) := rfl
  cases hopen : store.isOpen with
  | false =>
    rw [loadSampleData_closed hopen] at hdispatch
    apply isDue_of_unchanged
    · rw [error?_handle, hdispatch, Request.refusal?, hopen]
      rfl
    · rw [hdispatch]
  | true =>
    cases cancelled with
    | true =>
      rw [loadSampleData_cancelled hopen rfl] at hdispatch
      apply isDue_of_unchanged
      · rw [error?_handle, hdispatch, Request.refusal?, hopen]
        rfl
      · rw [hdispatch]
    | false =>
      have hanswer : (handle store (fun _ => false) now .loadSampleData).value.1.error? = none := by
        rw [error?_handle, hdispatch]
        cases hmarked : store.origins.any (·.isMarked) with
        | true =>
          rw [loadSampleData_marked hopen hmarked rfl]
          rfl
        | false =>
          have hload : (loadSampleData store (fun _ => false) now).value = (.ok true, _) :=
            loadSampleData_live hopen hmarked now
          rw [hload]
          rfl
      constructor
      · rw [hanswer, Request.refusal?, hopen]
        rfl
      · rw [hanswer]
        rintro (hsome | hread)
        · cases hsome
        · exact hread.elim

/-- Every request is refused for exactly the reason that the order of the checks gives, whether its caller has cancelled
before or does not cancel at all, and changes nothing then. -/
theorem isDue_handle (h : Reachable store) (cancelled : Bool) (now : Int64) (request : Request) :
    IsDue request store cancelled (handle store (fun _ => cancelled) now request).value := by
  cases hid : request.blankID? with
  | some name => exact isDue_blank hid cancelled
  | none =>
    cases hcall : request.call? with
    | some c => exact isDue_call h hcall hid cancelled
    | none =>
      cases request with
      | getSampleData => exact ⟨rfl, fun _ => rfl⟩
      | loadSampleData => exact isDue_loadSampleData cancelled
      | _ => cases hcall

/-- A caller that has cancelled is told of a blank id even by a closed store, and of the closed store otherwise. -/
theorem isDue_handle_closed :
    Reachable Store.fresh.close ∧
      IsDue (.getTrace "\t ") Store.fresh.close true
        (handle Store.fresh.close (fun _ => true) 0 (.getTrace "\t ")).value ∧
      (handle Store.fresh.close (fun _ => true) 0 (.getTrace "\t ")).value.1.error? =
        some ⟨-32602, "invalid argument: traceID must not be empty"⟩ ∧
      (handle Store.fresh.close (fun _ => true) 0 .clearTraces).value.1.error? =
        some ⟨-32010, "failed to clear traces: store connection is closed"⟩ := by
  have hreachable : Reachable Store.fresh.close := reachable_fresh.close
  have hblank := isDue_handle hreachable true 0 (.getTrace "\t ")
  have hclosed := isDue_handle hreachable true 0 .clearTraces
  refine ⟨hreachable, hblank, hblank.error.trans ?_, hclosed.error.trans ?_⟩
  · decide
  · decide

end Service
end Telemetry
