import Telemetry.Proofs.Store.Appending
import Telemetry.Proofs.Store.Reference

/-! A store answers every run of commands as the lists of written records do. -/
namespace Telemetry.Store

/-- A batch is moved to the end of the table whole, however often the buffer is flushed. -/
theorem appendBatch_eq {α ρ : Type} (flushEvery : Nat) (row : α → ρ) (table : List ρ) (items : List α) :
    appendBatch flushEvery row table items = table ++ items.map row := by
  have hrows : items.map (fun x => (.ok (row x) : Except Empty ρ)) = (items.map row).map .ok := List.map_map.symm
  rw [appendBatch, Appender.appendFrom_of_rows flushEvery table hrows]

private theorem each_map {α β : Type} (back : α → Reported β) (xs : List α) :
    Reported.each id (xs.map back) = Reported.each back xs := by
  induction xs with
  | nil => rfl
  | cons x xs ih =>
    simp only [List.map_cons, Reported.each, ih]
    rfl

/-- The store is open and its tables hold the rows of the records. -/
structure Represents (store : Store) (r : Records) : Prop where
  isOpen : store.isOpen = true
  spans : store.tables.spans = r.spans.map SpanRow.ofSpan
  logs : store.tables.logs = r.logs.map LogRow.ofLog
  metrics : store.tables.metrics = r.metrics.map MetricRow.ofMetric

section Reads

theorem mapM_map {α ρ β : Type} {read : ρ → Option β} {row : α → ρ} {back : α → β}
    (h : ∀ x, read (row x) = some (back x)) (xs : List α) :
    (xs.map row).mapM read = some (xs.map back) := by
  induction xs with
  | nil => rfl
  | cons x xs ih => simp [List.mapM_cons, h, ih]

theorem readAll_map {α ρ β : Type} {read : ρ → Option β} {row : α → ρ} {back : α → β}
    (h : ∀ x, read (row x) = some (back x)) (operation : Operation) (xs : List α) :
    readAll operation read (xs.map row) = .ok (xs.map back) := by
  rw [readAll, mapM_map h]

theorem mergeSort_map {α ρ : Type} {row : α → ρ} {le : α → α → Bool} {rowLe : ρ → ρ → Bool}
    (h : ∀ a b, le a b = rowLe (row a) (row b)) (xs : List α) :
    (xs.map row).mergeSort rowLe = (xs.mergeSort le).map row :=
  (List.map_mergeSort fun a _ b _ => h a b).symm

theorem check_open {store : Store} (h : store.isOpen = true) (operation : Operation) :
    store.check false operation = .ok () := by
  simp [check, h]

private theorem leads_ofSpan (a b : Span) : a.leads b = SpanRow.leads (.ofSpan a) (.ofSpan b) := rfl

private theorem precedes_ofLog (a b : Log) : a.precedes b = LogRow.precedes (.ofLog a) (.ofLog b) := rfl

private theorem precedes_ofMetric (a b : Metric) :
    a.precedes b = MetricRow.precedes (.ofMetric a) (.ofMetric b) := rfl

variable {store : Store} {r : Records}

private theorem answered_trace (h : store.Represents r) (traceID : String) :
    answered .trace (store.trace false traceID) = Records.trace .restored r.spans traceID := by
  have hrows : store.tables.spans.filter (·.traceID == traceID) =
      (r.spans.filter (·.traceID == traceID)).map SpanRow.ofSpan := by
    rw [h.spans, List.filter_map]
    rfl
  have hread := readAll_map SpanRow.toSpan?_ofSpan (.getTrace traceID)
    (r.spans.filter (·.traceID == traceID))
  simp only [trace, check_open h.isOpen, hrows, hread, Records.trace]
  cases r.spans.filter (·.traceID == traceID) <;> rfl

private theorem answered_logsWhere (h : store.Represents r) (operation : Operation)
    {keepRow : LogRow → Bool} {keep : Log → Bool} (hkeep : ∀ l, keepRow (.ofLog l) = keep l) :
    answered .logs (store.logsWhere false operation keepRow) =
      Records.logsWhere .restored r.logs keep := by
  have hfilter : store.tables.logs.filter keepRow = (r.logs.filter keep).map LogRow.ofLog := by
    rw [h.logs, List.filter_map]
    exact congrArg _ (List.filter_congr fun l _ => hkeep l)
  have hsort : ((r.logs.filter keep).map LogRow.ofLog).mergeSort LogRow.precedes =
      ((r.logs.filter keep).mergeSort Log.precedes).map LogRow.ofLog :=
    mergeSort_map precedes_ofLog _
  have hread := readAll_map LogRow.toLog?_ofLog operation ((r.logs.filter keep).mergeSort Log.precedes)
  simp only [logsWhere, check_open h.isOpen, hfilter, hsort, hread, Records.logsWhere]
  rfl

private theorem answered_log (h : store.Represents r) (id : String) :
    answered .log (store.log false id) =
      Records.first ("log " ++ id) .log Log.restored r.logs (·.id == id) := by
  have hrow : store.tables.logs.find? (·.id == id) = (r.logs.find? (·.id == id)).map LogRow.ofLog := by
    rw [h.logs, List.find?_map]
    rfl
  simp only [log, check_open h.isOpen, hrow, Records.first]
  cases r.logs.find? (·.id == id) with
  | none => rfl
  | some l =>
    have hread := readAll_map LogRow.toLog?_ofLog (.getLog id) [l]
    simp only [Option.map_some, Option.toList_some, List.map_cons, List.map_nil] at hread ⊢
    rw [hread]
    rfl

private theorem answered_metrics (h : store.Represents r) :
    answered .metrics (store.metrics false) =
      .metrics (Reported.each Readback.restored.metric (r.metrics.mergeSort Metric.precedes)) := by
  have hsort : store.tables.metrics.mergeSort MetricRow.precedes =
      (r.metrics.mergeSort Metric.precedes).map MetricRow.ofMetric := by
    rw [h.metrics]
    exact mergeSort_map precedes_ofMetric _
  have hread := readAll_map MetricRow.toMetric?_ofMetric .getMetrics (r.metrics.mergeSort Metric.precedes)
  simp only [metrics, check_open h.isOpen, hsort, hread]
  exact congrArg Answer.metrics (each_map _ _)

private theorem answered_metric (h : store.Represents r) (id : String) :
    answered .metric (store.metric false id) =
      Records.first ("metric " ++ id) .metric Readback.restored.metric r.metrics (·.id == id) := by
  have hrow : store.tables.metrics.find? (·.id == id) =
      (r.metrics.find? (·.id == id)).map MetricRow.ofMetric := by
    rw [h.metrics, List.find?_map]
    rfl
  simp only [metric, check_open h.isOpen, hrow, Records.first]
  cases r.metrics.find? (·.id == id) with
  | none => rfl
  | some m =>
    have hread := readAll_map MetricRow.toMetric?_ofMetric (.getMetric id) [m]
    simp only [Option.map_some, Option.toList_some, List.map_cons, List.map_nil] at hread ⊢
    rw [hread]
    rfl

/-- The line of the rows of a trace is that of its spans. -/
private theorem listing?_map (spans : List Span) :
    listing? (spans.map SpanRow.ofSpan) = Records.line? .restored spans := by
  have hsort : (spans.map SpanRow.ofSpan).mergeSort SpanRow.leads =
      (spans.mergeSort Span.leads).map SpanRow.ofSpan :=
    mergeSort_map leads_ofSpan _
  have hstart : (spans.map SpanRow.ofSpan).map (·.startTime) = spans.map (·.startTime) := by
    rw [List.map_map]
    rfl
  simp only [listing?, Records.line?, hsort, hstart, List.head?_map, List.length_map]
  cases (spans.mergeSort Span.leads).head? with
  | none => rfl
  | some leader =>
    cases (spans.map (·.startTime)).min? with
    | none => rfl
    | some earliest =>
      have hroot : (SpanRow.ofSpan leader).isRoot = leader.isRoot := rfl
      have hresource : (SpanRow.ofSpan leader).origin.resource? = some leader.resource.restored :=
        OriginColumns.resource?_ofRecords _ _
      simp only [Option.map_some, Option.bind_eq_bind, Option.bind_some, hroot, hresource]
      split <;> rfl

private theorem mapM_eq_filterMap {α β : Type} {f : α → Option β} {xs : List α}
    (h : ∀ x ∈ xs, (f x).isSome) : xs.mapM f = some (xs.filterMap f) := by
  induction xs with
  | nil => rfl
  | cons x xs ih =>
    obtain ⟨y, hy⟩ := Option.isSome_iff_exists.1 (h x List.mem_cons_self)
    simp [List.mapM_cons, hy, ih fun z hz => h z (List.mem_cons_of_mem x hz)]

private theorem isSome_line? {spans : List Span} (h : spans ≠ []) (back : Readback) :
    (Records.line? back spans).isSome := by
  obtain ⟨s, rest, rfl⟩ := List.exists_cons_of_ne_nil h
  have hsort : (s :: rest).mergeSort Span.leads ≠ [] := by
    intro hnil
    have hperm := List.mergeSort_perm (s :: rest) Span.leads
    rw [hnil] at hperm
    exact List.cons_ne_nil s rest hperm.symm.eq_nil
  obtain ⟨leader, sorted, hleader⟩ := List.exists_cons_of_ne_nil hsort
  simp [Records.line?, hleader]

private theorem answered_traceSummaries (h : store.Represents r) :
    answered .summaries (store.traceSummaries false) =
      .summaries (Records.summaries .restored r.spans) := by
  have hids : store.tables.spans.map (·.traceID) = r.spans.map (·.traceID) := by
    rw [h.spans, List.map_map]
    rfl
  have hlines : (fun id => listing? (store.tables.spans.filter (·.traceID == id))) =
      fun id => Records.line? .restored (r.spans.filter (·.traceID == id)) := by
    funext id
    rw [h.spans, List.filter_map, listing?_map]
    rfl
  have hsome : ∀ id ∈ (r.spans.map (·.traceID)).eraseDups,
      (Records.line? .restored (r.spans.filter (·.traceID == id))).isSome := by
    intro id hid
    obtain ⟨s, hs, rfl⟩ := List.mem_map.1 (List.mem_eraseDups.1 hid)
    refine isSome_line? (List.ne_nil_of_mem (a := s) ?_) _
    exact List.mem_filter.2 ⟨hs, beq_self_eq_true _⟩
  simp only [traceSummaries, check_open h.isOpen, hids, hlines, readAll, mapM_eq_filterMap hsome]
  rfl

end Reads

section Deletes

/-- From each table go the rows that pass its test, and with them their records. -/
theorem removeWhere_represents {store : Store} {r : Records} (h : store.Represents r)
    (span : SpanRow → Bool) (log : LogRow → Bool) (metric : MetricRow → Bool) :
    (store.removeWhere span log metric).1 =
        r.spans.countP (fun s => span (.ofSpan s)) + r.logs.countP (fun l => log (.ofLog l)) +
          r.metrics.countP (fun m => metric (.ofMetric m)) ∧
      (store.removeWhere span log metric).2.Represents
        ⟨r.spans.filter fun s => !span (.ofSpan s), r.logs.filter fun l => !log (.ofLog l),
          r.metrics.filter fun m => !metric (.ofMetric m)⟩ := by
  constructor
  · simp only [removeWhere, h.spans, h.logs, h.metrics, List.countP_map, Function.comp_def]
  · refine ⟨h.isOpen, ?_, ?_, ?_⟩
    · simp only [removeWhere, h.spans, List.filter_map, Function.comp_def]
    · simp only [removeWhere, h.logs, List.filter_map, Function.comp_def]
    · simp only [removeWhere, h.metrics, List.filter_map, Function.comp_def]

end Deletes

section Runs

variable {store : Store} {r : Records}

/-- One command is answered as on the records, and the tables still hold their rows. -/
theorem perform_refines (h : store.Represents r) (c : Command) :
    (store.perform c).1 = (r.perform .restored c).1 ∧
      (store.perform c).2.Represents (r.perform .restored c).2 := by
  cases c with
  | addSpans spans =>
    simp only [perform, addSpans, check_open h.isOpen]
    refine ⟨rfl, h.isOpen, ?_, h.logs, h.metrics⟩
    show appendBatch _ _ _ _ = _
    rw [appendBatch_eq, h.spans, ← List.map_append]
    rfl
  | addLogs logs =>
    simp only [perform, addLogs, check_open h.isOpen]
    refine ⟨rfl, h.isOpen, h.spans, ?_, h.metrics⟩
    show appendBatch _ _ _ _ = _
    rw [appendBatch_eq, h.logs, ← List.map_append]
    rfl
  | addMetrics metrics =>
    simp only [perform, addMetrics, check_open h.isOpen]
    refine ⟨rfl, h.isOpen, h.spans, h.logs, ?_⟩
    show appendBatch _ _ _ _ = _
    rw [appendBatch_eq, h.metrics, ← List.map_append]
    rfl
  | clearTraces =>
    simp only [perform, clearTraces, check_open h.isOpen]
    exact ⟨rfl, h.isOpen, rfl, h.logs, h.metrics⟩
  | clearLogs =>
    simp only [perform, clearLogs, check_open h.isOpen]
    exact ⟨rfl, h.isOpen, h.spans, rfl, h.metrics⟩
  | clearMetrics =>
    simp only [perform, clearMetrics, check_open h.isOpen]
    exact ⟨rfl, h.isOpen, h.spans, h.logs, rfl⟩
  | deleteSpansOfTraces traceIDs =>
    obtain ⟨hcount, hnext⟩ := removeWhere_represents h (traceIDs.contains ·.traceID) (fun _ => false) (fun _ => false)
    simp only [List.countP_false, Function.const_apply, Bool.not_false, List.filter_true, Nat.add_zero]
      at hcount hnext
    simp only [perform, deleteSpansOfTraces, check_open h.isOpen]
    exact ⟨congrArg Answer.removed hcount, hnext⟩
  | deleteSpans spanIDs =>
    obtain ⟨hcount, hnext⟩ := removeWhere_represents h (spanIDs.contains ·.spanID) (fun _ => false) (fun _ => false)
    simp only [List.countP_false, Function.const_apply, Bool.not_false, List.filter_true, Nat.add_zero]
      at hcount hnext
    simp only [perform, deleteSpans, check_open h.isOpen]
    exact ⟨congrArg Answer.removed hcount, hnext⟩
  | deleteLogs ids =>
    obtain ⟨hcount, hnext⟩ := removeWhere_represents h (fun _ => false) (ids.contains ·.id) (fun _ => false)
    simp only [List.countP_false, Function.const_apply, Bool.not_false, List.filter_true, Nat.add_zero, Nat.zero_add]
      at hcount hnext
    simp only [perform, deleteLogs, check_open h.isOpen]
    exact ⟨congrArg Answer.removed hcount, hnext⟩
  | deleteMetrics ids =>
    obtain ⟨hcount, hnext⟩ := removeWhere_represents h (fun _ => false) (fun _ => false) (ids.contains ·.id)
    simp only [List.countP_false, Function.const_apply, Bool.not_false, List.filter_true, Nat.add_zero, Nat.zero_add]
      at hcount hnext
    simp only [perform, deleteMetrics, check_open h.isOpen]
    exact ⟨congrArg Answer.removed hcount, hnext⟩
  | trace traceID => exact ⟨answered_trace h traceID, h⟩
  | traceSummaries => exact ⟨answered_traceSummaries h, h⟩
  | logs => exact ⟨answered_logsWhere h _ fun _ => rfl, h⟩
  | logsOfTrace traceID => exact ⟨answered_logsWhere h _ fun _ => rfl, h⟩
  | logsOfSpan traceID spanID => exact ⟨answered_logsWhere h _ fun _ => rfl, h⟩
  | log id => exact ⟨answered_log h id, h⟩
  | metrics => exact ⟨answered_metrics h, h⟩
  | metric id => exact ⟨answered_metric h id, h⟩

/-- Every run is answered as on the records, each of which comes back through its stored text. -/
theorem answers_refine (h : store.Represents r) (commands : List Command) :
    store.answers commands = r.answers .restored commands := by
  induction commands generalizing store r with
  | nil => rfl
  | cons c rest ih =>
    obtain ⟨hanswer, hnext⟩ := perform_refines h c
    rw [answers, Records.answers, hanswer, ih hnext]

end Runs

end Telemetry.Store
