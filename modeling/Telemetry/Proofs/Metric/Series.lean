import Telemetry.Proofs.Json.Part
import Telemetry.Proofs.Store.Masking
import Telemetry.Service.Response

/-! When the points of a series are of its kind. A series that is built takes no others. One that is read from JSON is
taken as it is, alone as well as within a metric or an answer, and whatever is of another kind is lost when it is stored
and read again. -/
namespace Telemetry

open Json (Draft Part Record)

theorem MetricKind.ofName?_eq_some_iff {name : String} {kind : MetricKind} :
    MetricKind.ofName? name = some kind ↔ name = kind.name := by
  constructor
  · intro h
    unfold ofName? at h
    split at h <;> cases h <;> rfl
  · rintro rfl
    cases kind <;> rfl

theorem MetricKind.name_injective : Function.Injective MetricKind.name := by
  intro a b h
  exact Option.some.inj ((ofName?_eq_some_iff.2 rfl).symm.trans (ofName?_eq_some_iff.2 h))

/-- A point shows its kind. -/
theorem MetricPoint.variant?_of_decode {v : Draft} {p : MetricPoint} (h : decode v = .ok p) :
    v.variant? = some p.kind.name := by
  obtain ⟨name, w, hname, hpoint⟩ := Json.exists_of_decodeValueVariant h
  have hkind : MetricKind.ofName? name = some p.kind := by
    unfold decodePoint at hpoint
    split at hpoint
    case h_5 => cases hpoint
    all_goals
      rename_i hof
      obtain ⟨q, -, rfl⟩ := Json.exists_of_map_eq_ok hpoint
      exact hof
  rw [hname, MetricKind.ofName?_eq_some_iff.1 hkind]

namespace DataPoints

variable {d : DataPoints} {v : Draft}

/-- Every point is of the series' kind. -/
def IsUniform (d : DataPoints) : Prop := ∀ p ∈ d.points, p.kind = d.kind

section Building

theorem isUniform_empty (kind : MetricKind) : (empty kind).IsUniform := List.forall_mem_nil _

theorem IsUniform.push (h : d.IsUniform) (p : MetricPoint) : (d.push p).value.1.IsUniform := by
  by_cases hp : p.kind = d.kind
  · have hpush : (d.push p).value.1 = { d with points := d.points ++ [p] } := by
      rw [DataPoints.push, if_pos hp]
      rfl
    rw [hpush]
    exact List.forall_mem_append.2 ⟨h, List.forall_mem_singleton.2 hp⟩
  · have hpush : (d.push p).value.1 = d := by
      rw [DataPoints.push, if_neg hp]
      rfl
    rwa [hpush]

theorem isUniform_ofPoints (points : List MetricPoint) : (ofPoints points).value.IsUniform := by
  intro p hp
  rw [ofPoints.eq_def, pushAll_eq] at hp ⊢
  exact of_decide_eq_true (List.mem_filter.1 hp).2

end Building

section Reading

/-- Each point in the JSON of a series shows the kind that the series itself shows. -/
def OneKind (v : Draft) : Prop :=
  ∀ items, record.value? "points" v = some (.array items) →
    ∀ p ∈ items, p.variant? = (record.value? "metricType" v).bind Draft.variant?

private theorem variant?_of_decodeKind {kind : MetricKind} (h : decodeKind v = .ok kind) :
    v.variant? = some kind.name := by
  obtain ⟨name, hname, h⟩ := Json.exists_of_bind_eq_ok h
  rw [Json.variant?_of_decodeUnitVariant hname, MetricKind.ofName?_eq_some_iff.1 (Json.eq_some_of_require h)]

/-- A series that is read is uniform exactly if its JSON is of one kind. -/
theorem isUniform_iff_oneKind (h : decode v = .ok d) : d.IsUniform ↔ OneKind v := by
  obtain ⟨entries, hentries, hread⟩ := Record.exists_entries h
  obtain ⟨f, points, hhead, hpoints, rfl⟩ := Record.exists_of_read_seq hread
  obtain ⟨kind, hkind, rfl⟩ := Record.exists_of_read_map hhead
  obtain ⟨w, hw, hpoints⟩ := Record.exists_value? hentries hpoints
  obtain ⟨k, hk, hkind⟩ := Record.exists_value? hentries hkind
  obtain ⟨items, rfl, hitems⟩ := Json.exists_items hpoints
  have hread := (Json.forall_mem_decodeEach_iff hitems fun _ => True).1 fun _ _ => trivial
  have hsame : ∀ q ∈ items, (∃ p, MetricPoint.decode q = .ok p ∧ p.kind = kind) ↔ q.variant? = some kind.name := by
    intro q hq
    obtain ⟨p, hp, -⟩ := hread q hq
    rw [MetricPoint.variant?_of_decode hp, Option.some.injEq, MetricKind.name_injective.eq_iff]
    constructor
    · rintro ⟨p', hp', rfl⟩
      rw [Except.ok.inj (hp.symm.trans hp')]
    · exact fun hkind => ⟨p, hp, hkind⟩
  calc IsUniform ⟨kind, points⟩
      ↔ ∀ q ∈ items, ∃ p, MetricPoint.decode q = .ok p ∧ p.kind = kind := Json.forall_mem_decodeEach_iff hitems _
    _ ↔ ∀ q ∈ items, q.variant? = some kind.name := forall₂_congr hsame
    _ ↔ OneKind v := by
      simp only [OneKind, hw, hk, Option.some.injEq, Draft.array.injEq, Option.bind_some, variant?_of_decodeKind hkind]
      exact ⟨fun h _ heq => heq ▸ h, fun h => h _ rfl⟩

end Reading
end DataPoints

section Carriers

/-- The series of a metric is read from a part of the metric. -/
theorem Metric.exists_part {v : Draft} {m : Metric} (h : Metric.decode v = .ok m) :
    ∃ w, Part w v ∧ DataPoints.decode w = .ok m.dataPoints := by
  obtain ⟨entries, hentries, hread⟩ := Record.exists_entries h
  obtain ⟨_, received, hread₆, -, rfl⟩ := Record.exists_of_read_seq hread
  obtain ⟨_, scope, hread₅, -, rfl⟩ := Record.exists_of_read_seq hread₆
  obtain ⟨_, resource, hread₄, -, rfl⟩ := Record.exists_of_read_seq hread₅
  obtain ⟨_, dataPoints, hread₃, hfield, rfl⟩ := Record.exists_of_read_seq hread₄
  obtain ⟨_, unit, hread₂, -, rfl⟩ := Record.exists_of_read_seq hread₃
  obtain ⟨_, description, hread₁, -, rfl⟩ := Record.exists_of_read_seq hread₂
  obtain ⟨name, -, rfl⟩ := Record.exists_of_read_map hread₁
  obtain ⟨w, hw, hdecode⟩ := Record.exists_value? hentries hfield
  exact ⟨w, Record.part_of_value? hw, hdecode⟩

theorem SampleData.exists_part {v : Draft} {data : SampleData} (h : SampleData.decode v = .ok data) {m : Metric}
    (hm : m ∈ data.metrics) : ∃ w, Part w v ∧ Metric.decode w = .ok m := by
  obtain ⟨entries, hentries, hread⟩ := Record.exists_entries h
  obtain ⟨_, metrics, hread₂, hfield, rfl⟩ := Record.exists_of_read_seq hread
  obtain ⟨_, logs, hread₁, -, rfl⟩ := Record.exists_of_read_seq hread₂
  obtain ⟨spans, -, rfl⟩ := Record.exists_of_read_map hread₁
  obtain ⟨list, hlist, hmetrics⟩ := Record.exists_value? hentries hfield
  obtain ⟨w, hw, hdecode⟩ := Json.exists_part_of_mem hmetrics hm
  exact ⟨w, hw.trans (Record.part_of_value? hlist), hdecode⟩

namespace Response

/-- The metrics an answer brings. -/
def carried : Response → List Metric
  | .metrics ms => ms
  | .metric m => [m]
  | .sampleData data => data.metrics
  | _ => []

/-- Every metric of an answer is read from a part of the answer. -/
theorem exists_part {v : Draft} {response : Response} (h : decode v = .ok response) {m : Metric}
    (hm : m ∈ response.carried) : ∃ w, Part w v ∧ Metric.decode w = .ok m := by
  obtain ⟨kind, value, hkind, hpart⟩ := Json.exists_of_decodeTagged h
  have hcontent : ∀ {α : Type} {item : Json.Decoder α} {x : α}, Json.decodeContent item value = .ok x →
      ∃ w, Part w v ∧ item w = .ok x := by
    intro α item x hx
    cases value with
    | some w => exact ⟨w, hpart w rfl, hx⟩
    | none => cases hx
  unfold decodeKind at hkind
  split at hkind
  case h_5 =>
    obtain ⟨metrics, hmetrics, rfl⟩ := Json.exists_of_map_eq_ok hkind
    obtain ⟨list, hlist, hdecode⟩ := hcontent hmetrics
    obtain ⟨w, hw, hmetric⟩ := Json.exists_part_of_mem hdecode hm
    exact ⟨w, hw.trans hlist, hmetric⟩
  case h_6 =>
    obtain ⟨metric, hmetric, rfl⟩ := Json.exists_of_map_eq_ok hkind
    obtain rfl := List.mem_singleton.1 hm
    exact hcontent hmetric
  case h_7 =>
    obtain ⟨data, hdata, rfl⟩ := Json.exists_of_map_eq_ok hkind
    obtain ⟨all, hall, hdecode⟩ := hcontent hdata
    obtain ⟨w, hw, hmetric⟩ := SampleData.exists_part hdecode hm
    exact ⟨w, hw.trans hall, hmetric⟩
  case h_10 =>
    unfold Json.decodeNothing at hkind
    split at hkind <;> cases hkind <;> cases hm
  case h_12 => cases hkind
  -- the other answers bring no metric
  all_goals
    obtain ⟨_, -, rfl⟩ := Json.exists_of_map_eq_ok hkind
    cases hm

end Response

end Carriers

section Storing

/-- Reading a metric back leaves out as many points as it warns of. -/
theorem Metric.length_restored (m : Metric) :
    m.restored.dataPoints.points.length + m.mismatches.length = m.dataPoints.points.length := by
  have hsplit := m.dataPoints.points.length_eq_length_filter_add fun p => p.kind = m.kind
  simp only [restored, mismatches, List.length_map, decide_not]
  exact hsplit.symm

/-- The metrics of the records are read back with all of their points and without a warning. -/
structure Store.KeepsPoints (store : Store) (r : Records) : Prop where
  metrics : ∃ read, store.metrics false = .ok (pure read) ∧
    read.map (·.dataPoints.points.length) =
      (r.metrics.mergeSort Metric.precedes).map (·.dataPoints.points.length)
  metric : ∀ id m, r.metrics.find? (·.id == id) = some m →
    ∃ read, store.metric false id = .ok (pure read) ∧
      read.dataPoints.points.length = m.dataPoints.points.length

/-- Metrics whose series are uniform keep their points. -/
theorem Store.Represents.keepsPoints {store : Store} {r : Records} (h : store.Represents r)
    (hr : ∀ m ∈ r.metrics, m.dataPoints.IsUniform) : store.KeepsPoints r := by
  have hback : ∀ m ∈ r.metrics, Readback.restored.metric m = pure m.restored :=
    fun m hm => (Metric.readback_eq_pure_iff (hr m hm)).2 rfl
  have hlength : ∀ m ∈ r.metrics, m.restored.dataPoints.points.length = m.dataPoints.points.length := by
    intro m hm
    rw [← m.length_restored, Metric.mismatches_eq_nil (hr m hm), List.length_nil, Nat.add_zero]
  have hsorted : ∀ {m}, m ∈ r.metrics.mergeSort Metric.precedes → m ∈ r.metrics := List.mem_mergeSort.1
  constructor
  · refine ⟨(r.metrics.mergeSort Metric.precedes).map Metric.restored, ?_, ?_⟩
    · rw [h.metrics_eq, Reported.each_eq_pure fun m hm => hback m (hsorted hm)]
    · rw [List.map_map]
      exact List.map_congr_left fun m hm => hlength m (hsorted hm)
  · intro id m hm
    have hmem := List.mem_of_find?_eq_some hm
    exact ⟨m.restored, by rw [h.metric_eq hm, hback m hmem], hlength m hmem⟩

/-- If all stores of metrics keep the points of series of a class, the series are uniform. -/
theorem DataPoints.isUniform_of_keepsPoints {P : DataPoints → Prop}
    (h : ∀ (store : Store) (r : Records), store.Represents r → (∀ m ∈ r.metrics, P m.dataPoints) → store.KeepsPoints r)
    {d : DataPoints} (hd : P d) : d.IsUniform := by
  let m : Metric := { Metric.empty with dataPoints := d }
  have hrep := Store.represents_holding_metric m
  have hfind : [m].find? (·.id == m.id) = some m := List.find?_cons_of_pos (beq_self_eq_true m.id)
  obtain ⟨read, hread, -⟩ := (h _ _ hrep fun n hn => List.mem_singleton.1 hn ▸ hd).metric m.id m hfind
  have hback : Readback.restored.metric m = pure read := Except.ok.inj ((hrep.metric_eq hfind).symm.trans hread)
  have hmismatches : m.mismatches = [] := congrArg Reported.warnings hback
  rw [Metric.mismatches, List.map_eq_nil_iff, List.filter_eq_nil_iff] at hmismatches
  intro p hp
  have hkind : p.kind = m.kind := by simpa using hmismatches p hp
  exact hkind

end Storing

namespace DataPoints

/-- The series that come about when documents of a class are read: those that are built, those that are read from a
document or a part of one, alone, as a metric's or as that of a metric in an answer, and what points are pushed to. -/
inductive Obtainable (J : Draft → Prop) : DataPoints → Prop
  | empty (kind : MetricKind) : Obtainable J (empty kind)
  | ofPoints (points : List MetricPoint) : Obtainable J (ofPoints points).value
  | push {d : DataPoints} (h : Obtainable J d) (p : MetricPoint) : Obtainable J (d.push p).value.1
  | read {v w : Draft} {d : DataPoints} (hv : J v) (hw : Part w v) (h : decode w = .ok d) : Obtainable J d
  | ofMetric {v w : Draft} {m : Metric} (hv : J v) (hw : Part w v) (h : Metric.decode w = .ok m) :
      Obtainable J m.dataPoints
  | ofResponse {v w : Draft} {response : Response} {m : Metric} (hv : J v) (hw : Part w v)
      (h : Response.decode w = .ok response) (hm : m ∈ response.carried) : Obtainable J m.dataPoints

/-- Every series in the documents of a class, by itself or within something else, is of one kind. -/
def AllOneKind (J : Draft → Prop) : Prop := ∀ v, J v → ∀ w, Part w v → (∃ d, decode w = .ok d) → OneKind w

theorem isUniform_of_obtainable {J : Draft → Prop} (hJ : AllOneKind J) (h : Obtainable J d) : d.IsUniform := by
  have hread : ∀ {v w d}, J v → Part w v → decode w = .ok d → d.IsUniform :=
    fun hv hw hd => (isUniform_iff_oneKind hd).2 (hJ _ hv _ hw ⟨_, hd⟩)
  -- by how the series came about; within a metric or an answer it is read from a part of the document too
  induction h with
  | empty kind => exact isUniform_empty kind
  | ofPoints points => exact isUniform_ofPoints points
  | push _ p ih => exact ih.push p
  | read hv hw hd => exact hread hv hw hd
  | ofMetric hv hw hm =>
    obtain ⟨u, hu, hd⟩ := Metric.exists_part hm
    exact hread hv (hu.trans hw) hd
  | ofResponse hv hw hresponse hm =>
    obtain ⟨t, ht, hm⟩ := Response.exists_part hresponse hm
    obtain ⟨u, hu, hd⟩ := Metric.exists_part hm
    exact hread hv (hu.trans (ht.trans hw)) hd

/-- All series that come about are uniform exactly if those in the documents are of one kind, since building keeps a
series uniform. The same decides whether all metrics keep their points when they are stored. -/
theorem obtainable_isUniform_iff (J : Draft → Prop) :
    ((∀ d, Obtainable J d → d.IsUniform) ↔ AllOneKind J) ∧
      ((∀ (store : Store) (r : Records), store.Represents r → (∀ m ∈ r.metrics, Obtainable J m.dataPoints) →
          store.KeepsPoints r) ↔ AllOneKind J) := by
  have huniform : (∀ d, Obtainable J d → d.IsUniform) ↔ AllOneKind J := by
    constructor
    · rintro h v hv w hw ⟨d, hd⟩
      exact (isUniform_iff_oneKind hd).1 (h d (.read hv hw hd))
    · exact fun hJ d => isUniform_of_obtainable hJ
  refine ⟨huniform, ?_⟩
  rw [← huniform]
  constructor
  · exact fun h d hd => isUniform_of_keepsPoints h hd
  · exact fun h store r hrep hr => hrep.keepsPoints fun m hm => h _ (hr m hm)

/-- Every series is read from its JSON, uniform or not. -/
theorem decodes (d : DataPoints) :
    Json.Decodes decode d.toJson ⟨d.kind, d.points.map MetricPoint.restored⟩ := by
  have h := (d.recovers Json.isReading_stored).decodes
  rwa [List.map_congr_left fun p _ => MetricPoint.carried_stored p] at h

/-- A gauge whose only point is a sum comes about when its JSON is read, and a metric with it loses the point. -/
theorem not_forall_isUniform :
    (¬∀ d, Obtainable (fun _ => True) d → d.IsUniform) ∧
      ¬∀ (store : Store) (r : Records), store.Represents r →
        (∀ m ∈ r.metrics, Obtainable (fun _ => True) m.dataPoints) → store.KeepsPoints r := by
  let d : DataPoints := ⟨.gauge, [MetricPoint.restored (.sum .empty)]⟩
  have hread : Obtainable (fun _ => True) d := .read trivial .self (decodes ⟨.gauge, [.sum .empty]⟩)
  have hmixed : ¬d.IsUniform := by
    intro h
    have hkind := h _ List.mem_cons_self
    cases hkind
  exact ⟨fun h => hmixed (h d hread), fun h => hmixed (isUniform_of_keepsPoints h hread)⟩

end DataPoints
end Telemetry
