import Telemetry.Proofs.Ingest.Records
import Telemetry.Proofs.Ingest.Values
import Telemetry.Proofs.Sample.Loading

/-! Loading demo data and clearing it again. Every record of the demo telemetry is found as demo data where it is
stored, so clearing removes what a load wrote, and nothing else if no demo data was found before. -/
namespace Telemetry

namespace Sample

open Otlp

/-- Whatever the attributes of a demo resource are, its mark is kept. -/
theorem isSample_resource (attributes : KeyValues) :
    (Otlp.resource (some (resource attributes))).value.isSample = true := by
  have hlast : lastValue? (resource attributes).attributes sampleKey = some (.bool true) := by
    rw [lastValue?, resource, List.reverse_append]
    exact List.lookup_cons_self
  have hget := get?_attributes (resource attributes).attributes sampleKey
  rw [hlast, if_neg (by decide)] at hget
  exact beq_iff_eq.2 hget

/-- Whether all messages come from demo resources. -/
def AllDemo {α : Type} (resources : List (ResourceItems α)) : Prop :=
  ∀ r ∈ resources, ∃ attributes, r.resource = some (resource attributes)

theorem allDemo_spans : AllDemo spans := by
  simp only [AllDemo, spans, items, List.forall_mem_cons]
  exact ⟨⟨_, rfl⟩, ⟨_, rfl⟩, ⟨_, rfl⟩, List.forall_mem_nil _⟩

theorem allDemo_logs : AllDemo logs := by
  simp only [AllDemo, logs, items, List.forall_mem_cons]
  exact ⟨⟨_, rfl⟩, ⟨_, rfl⟩, ⟨_, rfl⟩, List.forall_mem_nil _⟩

theorem allDemo_metrics : AllDemo metrics := by
  simp only [AllDemo, metrics, items, List.forall_mem_cons]
  exact ⟨⟨_, rfl⟩, ⟨_, rfl⟩, ⟨_, rfl⟩, List.forall_mem_nil _⟩

/-- A record of demo messages is mapped under a demo resource. -/
theorem AllDemo.exists_of_mem {α β : Type} {item : Resource → Scope → α → Reported β}
    {resources : List (ResourceItems α)} (h : AllDemo resources) {y : β} (hy : y ∈ (eachItem item resources).value) :
    ∃ r : Resource, r.isSample = true ∧ ∃ s x, y = (item r s x).value := by
  obtain ⟨r, hr, s, x, rfl⟩ := exists_of_mem_eachItem hy
  obtain ⟨attributes, hattributes⟩ := h r hr
  exact ⟨_, hattributes ▸ isSample_resource attributes, _, x, rfl⟩

end Sample

namespace SampleData

open Sample

variable {now : Int64}

theorem isSample_of_mem_spans {s : Span} (h : s ∈ (generate now).value.spans) : s.resource.isSample = true := by
  obtain ⟨r, hr, _, _, rfl⟩ := allDemo_spans.exists_of_mem h
  exact hr

theorem isSample_of_mem_logs {l : Log} (h : l ∈ (generate now).value.logs) : l.resource.isSample = true := by
  obtain ⟨r, hr, _, _, rfl⟩ := allDemo_logs.exists_of_mem h
  exact hr

theorem isSample_of_mem_metrics {m : Metric} (h : m ∈ (generate now).value.metrics) :
    m.resource.isSample = true := by
  obtain ⟨_, hmem, rfl⟩ := List.mem_filterMap.1 h
  obtain ⟨r, hr, _, _, hm⟩ := allDemo_metrics.exists_of_mem hmem
  obtain ⟨_, -, rfl⟩ := Option.map_eq_some_iff.1 hm.symm
  exact hr

end SampleData

namespace Store

variable {store : Store}

theorem isMarked_of_isSample {resource : Resource} (h : resource.isSample = true) (scope : Scope) :
    (OriginColumns.ofRecords resource scope).isMarked = true := by
  rw [OriginColumns.isMarked_ofRecords, h, Bool.true_or]

section Rows

variable {ρ : Type} {p : ρ → Bool} {rows added : List ρ}

/-- Of rows without the property and rows with it, those with it are counted. -/
theorem countP_append_of_disjoint (hrows : ∀ r ∈ rows, p r = false) (hadded : ∀ r ∈ added, p r = true) :
    (rows ++ added).countP p = added.length := by
  rw [List.countP_append, List.countP_eq_zero.2 fun r hr => by rw [hrows r hr]; decide,
    List.countP_eq_length.2 hadded, Nat.zero_add]

/-- Of rows without the property and rows with it, those without it are left. -/
theorem filter_append_of_disjoint (hrows : ∀ r ∈ rows, p r = false) (hadded : ∀ r ∈ added, p r = true) :
    (rows ++ added).filter (!p ·) = rows := by
  rw [List.filter_append, List.filter_eq_self.2 fun r hr => by rw [hrows r hr]; rfl,
    List.filter_eq_nil_iff.2 fun r hr => by rw [hadded r hr]; decide, List.append_nil]

end Rows

private theorem unmarked_rows (h : store.origins.any (·.isMarked) = false) :
    (∀ row ∈ store.tables.spans, row.origin.isMarked = false) ∧
      (∀ row ∈ store.tables.logs, row.origin.isMarked = false) ∧
      ∀ row ∈ store.tables.metrics, row.origin.isMarked = false := by
  simpa only [origins, List.any_eq_false, Bool.not_eq_true, List.forall_mem_append, List.forall_mem_map] using h

/-- Clearing takes back the demo telemetry that was written to a store in which no demo data was found. -/
theorem clearSampleData_withSample (hopen : store.isOpen = true) (h : store.origins.any (·.isMarked) = false)
    (now : Int64) :
    let data := (SampleData.generate now).value
    (store.withSample data).clearSampleData false =
      .ok (data.spans.length + data.logs.length + data.metrics.length, store) := by
  intro data
  obtain ⟨hspans, hlogs, hmetrics⟩ := unmarked_rows h
  have hspanRows : ∀ row ∈ data.spans.map SpanRow.ofSpan, row.origin.isMarked = true :=
    List.forall_mem_map.2 fun s hs => isMarked_of_isSample (SampleData.isSample_of_mem_spans hs) s.scope
  have hlogRows : ∀ row ∈ data.logs.map LogRow.ofLog, row.origin.isMarked = true :=
    List.forall_mem_map.2 fun l hl => isMarked_of_isSample (SampleData.isSample_of_mem_logs hl) l.scope
  have hmetricRows : ∀ row ∈ data.metrics.map MetricRow.ofMetric, row.origin.isMarked = true :=
    List.forall_mem_map.2 fun m hm => isMarked_of_isSample (SampleData.isSample_of_mem_metrics hm) m.scope
  have hopen' : (store.withSample data).isOpen = true := hopen
  have hcleared := clearSampleData_open hopen'
  simp only [removeWhere, withSample, withSpans, withLogs, withMetrics,
    countP_append_of_disjoint hspans hspanRows, countP_append_of_disjoint hlogs hlogRows,
    countP_append_of_disjoint hmetrics hmetricRows, filter_append_of_disjoint hspans hspanRows,
    filter_append_of_disjoint hlogs hlogRows, filter_append_of_disjoint hmetrics hmetricRows,
    List.length_map] at hcleared
  exact hcleared

/-- A store in which no demo data is found is open, and none of its rows is marked. -/
theorem unmarked_of_sampleDataExists (h : store.sampleDataExists false = .ok false) :
    store.isOpen = true ∧ store.origins.any (·.isMarked) = false := by
  cases hopen : store.isOpen with
  | false =>
    rw [sampleDataExists, check_closed hopen] at h
    cases h
  | true =>
    rw [sampleDataExists_open hopen] at h
    exact ⟨rfl, Except.ok.inj h⟩

end Store

namespace Service

variable {store : Store}

/-- Loads at the given times, one after the other, that nobody cancels: what each of them answers, and the store after
the last. -/
def loadRepeatedly (store : Store) : List Int64 → List (Except Failure Bool) × Store
  | [] => ([], store)
  | now :: later =>
    let (result, next) := (loadSampleData store .live now).value
    let (results, last) := loadRepeatedly next later
    (result :: results, last)

/-- Once demo data is found, loads change nothing. -/
theorem loadRepeatedly_marked (hopen : store.isOpen = true) (hmarked : store.origins.any (·.isMarked) = true)
    (times : List Int64) : loadRepeatedly store times = (times.map fun _ => .ok false, store) := by
  induction times with
  | nil => rfl
  | cons now later ih =>
    have hload : (loadSampleData store .live now).value = (.ok false, store) :=
      loadSampleData_marked hopen hmarked rfl
    rw [loadRepeatedly, hload]
    dsimp only
    rw [ih, List.map_cons]

/-- Loading and clearing demo data undo each other: in a store in which no demo data is found a load writes the demo
telemetry to the ends of the tables, later loads change nothing, and clearing counts what was written and leaves the
tables as they were before the load. -/
theorem load_then_clear (h : store.sampleDataExists false = .ok false) (now : Int64) (later : List Int64) :
    let data := (SampleData.generate now).value
    ∃ loaded cleared : Store,
      (loadSampleData store .live now).value = (.ok true, loaded) ∧
      loaded.tables = {
        spans := store.tables.spans ++ data.spans.map .ofSpan
        logs := store.tables.logs ++ data.logs.map .ofLog
        metrics := store.tables.metrics ++ data.metrics.map .ofMetric } ∧
      loadRepeatedly loaded later = (later.map fun _ => .ok false, loaded) ∧
      loaded.clearSampleData false =
        .ok (data.spans.length + data.logs.length + data.metrics.length, cleared) ∧
      cleared.sampleDataExists false = .ok false ∧
      cleared.tables = store.tables := by
  intro data
  obtain ⟨hopen, hunmarked⟩ := Store.unmarked_of_sampleDataExists h
  have hmarked : (store.withSample data).origins.any (·.isMarked) = true :=
    Store.any_isMarked_withMetrics (Store.any_isMarked_withLogs
      (store.any_isMarked_withSpans (SampleData.any_isSample_spans_generate now)))
  have hloaded : (store.withSample data).isOpen = true := hopen
  exact ⟨store.withSample data, store, loadSampleData_live hopen hunmarked now, rfl,
    loadRepeatedly_marked hloaded hmarked later, Store.clearSampleData_withSample hopen hunmarked now, h, rfl⟩

/-- A log whose resource has another flag stays where it is while the demo telemetry comes and goes. -/
theorem load_then_clear_flagged :
    (Store.flagged "telemetry.test").sampleDataExists false = .ok false ∧
      ∃ loaded cleared : Store,
        (loadSampleData (Store.flagged "telemetry.test") .live 1).value = (.ok true, loaded) ∧
        loadRepeatedly loaded [2, 3] = ([.ok false, .ok false], loaded) ∧
        loaded.clearSampleData false = .ok (16, cleared) ∧
        cleared.tables = (Store.flagged "telemetry.test").tables := by
  have hunmarked : (Store.flagged "telemetry.test").origins.any (·.isMarked) = false := by decide +kernel
  have hnone : (Store.flagged "telemetry.test").sampleDataExists false = .ok false := by
    rw [Store.sampleDataExists_open rfl, hunmarked]
  have hcount : (SampleData.generate 1).value.spans.length + (SampleData.generate 1).value.logs.length +
      (SampleData.generate 1).value.metrics.length = 16 := by decide +kernel
  obtain ⟨loaded, cleared, hload, -, hrepeated, hclear, -, htables⟩ := load_then_clear hnone 1 [2, 3]
  rw [hcount] at hclear
  exact ⟨hnone, loaded, cleared, hload, hrepeated, hclear, htables⟩

end Service
end Telemetry
