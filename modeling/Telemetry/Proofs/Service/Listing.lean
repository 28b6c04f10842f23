import Telemetry.Proofs.Ingest.Traces
import Telemetry.Proofs.Service.Reachable
import Telemetry.Proofs.Store.TraceList

/-! Fetching the traces that are listed. The list has one line for each trace id that a span has, whatever the id is,
but a request for a trace must give an id that is not blank. -/
namespace Telemetry.Service

variable {store : Store} {r : Records} {token : Token} {now : Int64}

/-- A request for the trace of a line is answered with that trace. It has as many spans as the line says. -/
def Fetches (store : Store) (line : TraceSummary) : Prop :=
  ∀ now, ∃ t : Trace, (handle store .live now (.getTrace line.traceID)).value = (.trace t, store) ∧
    t.traceID = line.traceID ∧ line.spanCount = .ofNat t.spans.length

/-- The answer to a request for a trace that leaves the id blank. -/
def blankTraceID : ServiceError :=
  ⟨ErrorCode.invalidParams.number, "invalid argument: traceID must not be empty"⟩

theorem handle_traceSummaries (h : store.Represents r) :
    (handle store .live now .getTraceSummaries).value =
      (.traceSummaries ((Records.traces r.spans).map Trace.summary), store) := by
  have hdispatch : (dispatch store .live now .getTraceSummaries).value =
      (.traceSummaries <$> store.traceSummaries false, store) := rfl
  rw [value_handle, hdispatch, h.traceSummaries_eq]
  rfl

/-- A request that leaves the trace id blank is refused. -/
theorem handle_blankTrace {request : Request} (h : request.blankID? = some "traceID") :
    (handle store token now request).value = (.error blankTraceID, store) := by
  rw [value_handle, dispatch_blank h]
  rfl

theorem handle_getTrace {id : String} (h : store.Represents r) (hid : id ∈ r.spans.map (·.traceID))
    (hblank : Text.trimChars id.toList ≠ []) :
    (handle store .live now (.getTrace id)).value = (.trace (Records.traceOf r.spans id), store) := by
  have hdispatch : (dispatch store .live now (.getTrace id)).value =
      ((do requireID "traceID" id; .trace <$> store.trace false id), store) := rfl
  rw [value_handle, hdispatch, requireID_eq, if_neg hblank, h.trace_eq hid]
  rfl

/-- Every trace that is listed can be fetched by its id, unless the id is blank. A trace without an id is listed too,
but asking for it is asking for no trace. -/
theorem exists_lines_fetched (h : Reachable store) (hopen : store.isOpen = true) :
    ∃ lines : List TraceSummary,
      (∀ now, (handle store .live now .getTraceSummaries).value = (.traceSummaries lines, store)) ∧
        ∀ line ∈ lines,
          if Text.trimChars line.traceID.toList = [] then
            ∀ now, (handle store .live now (.getTrace line.traceID)).value = (.error blankTraceID, store)
          else Fetches store line := by
  obtain ⟨r, hrep, -⟩ := h.onStore.exists_represents hopen
  refine ⟨_, fun _ => handle_traceSummaries hrep, ?_⟩
  intro line hline
  obtain ⟨t, ht, rfl⟩ := List.mem_map.1 hline
  obtain ⟨id, hid, rfl⟩ := Records.mem_traces.1 ht
  split
  · intro now
    exact handle_blankTrace (if_pos ‹_›)
  · intro now
    exact ⟨_, handle_getTrace hrep hid ‹_›, rfl, rfl⟩

/-- An export request with one span of a trace and one span of none, whose trace id is all zero. -/
def partlyTraced : List (Otlp.ResourceItems Otlp.SpanMessage) :=
  [{ resource := none
     scopes := [{ scope := none, items := [[1], List.replicate 16 0].map fun traceID => {
        traceID := traceID, spanID := [2], parentSpanID := [], traceState := "", name := "s", kind := 1
        startTime := 1, endTime := 2
        attributes := [], events := [], links := [], status := none
        droppedAttributesCount := 0, droppedEventsCount := 0, droppedLinksCount := 0 } }] }]

/-- The store that has taken both spans. -/
def partlyTracedStore : Store := Store.fresh.withSpans (Otlp.spans partlyTraced).value

theorem reachable_partlyTraced : Reachable partlyTracedStore :=
  .ingestTraces reachable_fresh (ingestTraces_open rfl (rfl : Token.live 0 = false) partlyTraced)

theorem represents_partlyTraced : partlyTracedStore.Represents ⟨(Otlp.spans partlyTraced).value, [], []⟩ :=
  Store.represents_iff.2 ⟨rfl, rfl⟩

theorem exists_lines_fetched_partlyTraced :
    Reachable partlyTracedStore ∧ partlyTracedStore.isOpen = true ∧
      ∃ lines, (∀ now, (handle partlyTracedStore .live now .getTraceSummaries).value =
          (.traceSummaries lines, partlyTracedStore)) ∧
        ∃ line ∈ lines, line.traceID = "01" ∧ Fetches partlyTracedStore line := by
  obtain ⟨lines, hlines, hfetched⟩ := exists_lines_fetched reachable_partlyTraced rfl
  have hline : (Records.traceOf (Otlp.spans partlyTraced).value "01").summary ∈ lines := by
    have hanswer := (hlines 0).symm.trans (handle_traceSummaries represents_partlyTraced)
    rw [Response.traceSummaries.inj (congrArg Prod.fst hanswer)]
    refine List.mem_map_of_mem (Records.mem_traces.2 ⟨"01", ?_, rfl⟩)
    decide +kernel
  have hfetches := hfetched _ hline
  rw [if_neg (by decide)] at hfetches
  exact ⟨reachable_partlyTraced, rfl, lines, hlines, _, hline, rfl, hfetches⟩

/-- The span of no trace has a line of its own, which cannot be fetched. -/
theorem not_forall_fetches :
    ¬∀ store : Store, Reachable store → store.isOpen = true → ∀ now lines,
      (handle store .live now .getTraceSummaries).value.1 = .traceSummaries lines →
        ∀ line ∈ lines, Fetches store line := by
  intro h
  have hline : (Records.traceOf (Otlp.spans partlyTraced).value "").summary ∈
      (Records.traces (Otlp.spans partlyTraced).value).map Trace.summary := by
    refine List.mem_map_of_mem (Records.mem_traces.2 ⟨"", ?_, rfl⟩)
    decide +kernel
  have hlisted : (handle partlyTracedStore .live 0 .getTraceSummaries).value = (.traceSummaries _, _) :=
    handle_traceSummaries represents_partlyTraced
  obtain ⟨t, ht, -⟩ := h _ reachable_partlyTraced rfl 0 _ (congrArg Prod.fst hlisted) _ hline 0
  have hblank : (handle partlyTracedStore .live 0 (.getTrace "")).value = (.error blankTraceID, partlyTracedStore) :=
    handle_blankTrace rfl
  cases hblank.symm.trans ht

end Telemetry.Service
