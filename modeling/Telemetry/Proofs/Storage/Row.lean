import Telemetry.Store.Row
import Telemetry.Proofs.Storage.Point
import Telemetry.Proofs.Text.Base64

/-! What records come back as from the rows they are stored as: every column of a record is found again, and
only its doubles can differ. -/
namespace Telemetry

open Json

namespace Body

/-- The body that is read back. -/
def restored : Body → Body
  | .float x => .float (stored x)
  | b => b

def doubles : Body → List Float
  | .float x => [x]
  | _ => []

private theorem recovers_bytes {f : Float → Float} (b : List UInt8) :
    Recovers f decodeBytes (.string (Text.Base64.encode b)) b := by
  rintro _ delivery ⟨⟩
  simp only [draft, decodeBytes, Text.Base64.decode_encode]

theorem depth_toJson_le (b : Body) : b.toJson.depth ≤ 1 := by
  cases b <;> simp [toJson, depth, membersDepth, ofInt64, depth_ofFloat]

/-- The body with its double, if it is one, replaced by its image. -/
def mapDoubles (f : Float → Float) : Body → Body
  | .float x => .float (f x)
  | b => b

@[simp] theorem mapDoubles_id (b : Body) : b.mapDoubles id = b := by
  cases b <;> rfl

theorem mapDoubles_stored (b : Body) : b.mapDoubles stored = b.restored := by
  cases b <;> rfl

theorem mapDoubles_eq_iff {f g : Float → Float} (b : Body) :
    b.mapDoubles f = b.mapDoubles g ↔ ∀ x ∈ b.doubles, f x = g x := by
  cases b with
  | float x => simp only [mapDoubles, doubles, float.injEq, List.forall_mem_singleton]
  | _ => exact iff_of_true rfl (List.forall_mem_nil _)

theorem restored_eq_self_iff (b : Body) : b.restored = b ↔ ∀ x ∈ b.doubles, stored x = x := by
  have h := b.mapDoubles_eq_iff (f := stored) (g := id)
  rwa [mapDoubles_stored, mapDoubles_id] at h

theorem recovers {f : Float → Float} (hf : IsReading f) (b : Body) : Recovers f decode b.toJson (b.mapDoubles f) := by
  cases b with
  | string s => exact recovers_variant ((recovers_string s).map string)
  | int n => exact recovers_variant ((recovers_int64 n).map int)
  | float x => exact recovers_variant ((recovers_float hf x).map float)
  | bool b => exact recovers_variant ((recovers_bool b).map bool)
  | bytes b => exact recovers_variant ((recovers_bytes b).map bytes)
  | json text => exact recovers_variant ((recovers_string text).map json)

theorem decodes (b : Body) : Decodes decode b.toJson b.restored :=
  b.mapDoubles_stored ▸ (b.recovers isReading_stored).decodes

end Body

def Resource.restored (r : Resource) : Resource :=
  { r with attributes := r.attributes.restored }

def Scope.restored (s : Scope) : Scope :=
  { s with attributes := s.attributes.restored }

namespace SpanEvent

def restored (e : SpanEvent) : SpanEvent :=
  { e with attributes := e.attributes.restored }

def mapDoubles (f : Float → Float) (e : SpanEvent) : SpanEvent :=
  { e with attributes := e.attributes.mapDoubles f }

theorem recovers {f : Float → Float} (hf : IsReading f) (e : SpanEvent) :
    Recovers f decode e.toJson (e.mapDoubles f) := by
  refine recovers_record (by simp) fun h => ?_
  refine (((Reads.map SpanEvent.mk ?_).seq ?_).seq ?_).seq ?_
  · exact h.field (by simp) (recovers_string e.name)
  · exact h.field (by simp) (recovers_int64Text e.timestamp)
  · exact h.field (by simp) (e.attributes.recovers hf)
  · exact h.field (by simp) (recovers_uint32 e.droppedAttributesCount)

theorem recovers_stored (e : SpanEvent) : Recovers stored decode e.toJson e.restored := by
  have h := e.recovers isReading_stored
  rwa [mapDoubles, Attributes.mapDoubles_stored] at h

theorem depth_toJson_le (e : SpanEvent) : e.toJson.depth ≤ 4 := by
  have := e.attributes.depth_toJson_le
  simp only [toJson, ofInt64Text, ofUInt64, depth, membersDepth]
  omega

theorem restored_eq_self_iff (e : SpanEvent) :
    e.restored = e ↔ ∀ x ∈ e.attributes.doubles, stored x = x := by
  cases e
  simp [restored, Attributes.restored_eq_self_iff]

end SpanEvent

namespace SpanLink

def restored (l : SpanLink) : SpanLink :=
  { l with attributes := l.attributes.restored }

def mapDoubles (f : Float → Float) (l : SpanLink) : SpanLink :=
  { l with attributes := l.attributes.mapDoubles f }

theorem recovers {f : Float → Float} (hf : IsReading f) (l : SpanLink) :
    Recovers f decode l.toJson (l.mapDoubles f) := by
  refine recovers_record (by simp) fun h => ?_
  refine ((((Reads.map SpanLink.mk ?_).seq ?_).seq ?_).seq ?_).seq ?_
  · exact h.field (by simp) (recovers_string l.traceID)
  · exact h.field (by simp) (recovers_string l.spanID)
  · exact h.field (by simp) (recovers_string l.traceState)
  · exact h.field (by simp) (l.attributes.recovers hf)
  · exact h.field (by simp) (recovers_uint32 l.droppedAttributesCount)

theorem recovers_stored (l : SpanLink) : Recovers stored decode l.toJson l.restored := by
  have h := l.recovers isReading_stored
  rwa [mapDoubles, Attributes.mapDoubles_stored] at h

theorem depth_toJson_le (l : SpanLink) : l.toJson.depth ≤ 4 := by
  have := l.attributes.depth_toJson_le
  simp only [toJson, ofUInt64, depth, membersDepth]
  omega

theorem restored_eq_self_iff (l : SpanLink) :
    l.restored = l ↔ ∀ x ∈ l.attributes.doubles, stored x = x := by
  cases l
  simp [restored, Attributes.restored_eq_self_iff]

end SpanLink

/-- The doubles of the resource and the scope of a record. -/
def originDoubles (resource : Resource) (scope : Scope) : List Float :=
  resource.attributes.doubles ++ scope.attributes.doubles

namespace Span

/-- The span that is read back. -/
def restored (s : Span) : Span :=
  { s with
    attributes := s.attributes.restored
    events := s.events.map SpanEvent.restored
    links := s.links.map SpanLink.restored
    resource := s.resource.restored
    scope := s.scope.restored }

/-- Every double of a span. -/
def doubles (s : Span) : List Float :=
  s.attributes.doubles ++ (s.events.flatMap (·.attributes.doubles) ++
    (s.links.flatMap (·.attributes.doubles) ++ originDoubles s.resource s.scope))

end Span

namespace Log

/-- The log that is read back. -/
def restored (l : Log) : Log :=
  { l with
    body := l.body.map Body.restored
    resource := l.resource.restored
    scope := l.scope.restored
    attributes := l.attributes.restored }

/-- Every double of a log. -/
def doubles (l : Log) : List Float :=
  (l.body.elim [] Body.doubles) ++ (l.attributes.doubles ++ originDoubles l.resource l.scope)

end Log

namespace Metric

/-- Whether every point is of the metric's kind. -/
def IsUniform (m : Metric) : Prop := ∀ p ∈ m.dataPoints.points, p.kind = m.kind

/-- The metric that is read back. Only the points of its kind are. -/
def restored (m : Metric) : Metric :=
  { m with
    dataPoints := ⟨m.kind, (m.dataPoints.points.filter fun p => p.kind = m.kind).map MetricPoint.restored⟩
    resource := m.resource.restored
    scope := m.scope.restored }

/-- Every double of a metric. -/
def doubles (m : Metric) : List Float :=
  m.dataPoints.points.flatMap MetricPoint.doubles ++ originDoubles m.resource m.scope

/-- The metric with each double of its points, its resource and its scope replaced by its image. -/
def mapDoubles (f : Float → Float) (m : Metric) : Metric :=
  { m with
    dataPoints := ⟨m.kind, m.dataPoints.points.map (MetricPoint.mapDoubles f)⟩
    resource := { m.resource with attributes := m.resource.attributes.mapDoubles f }
    scope := { m.scope with attributes := m.scope.attributes.mapDoubles f } }

theorem mapDoubles_self (m : Metric) : m.mapDoubles (fun x => x) = m := by
  have hpoints : m.dataPoints.points.map (MetricPoint.mapDoubles fun x => x) = m.dataPoints.points :=
    map_eq_self_iff.2 fun p _ => p.mapDoubles_id
  have hattributes : ∀ a : Attributes, a.mapDoubles (fun x => x) = a := Attributes.mapDoubles_id
  simp only [mapDoubles, hpoints, hattributes]
  rfl

/-- The optional doubles of the points that are there. -/
def options (m : Metric) : List Float := m.dataPoints.points.flatMap MetricPoint.options

theorem mem_doubles_of_mem_options {m : Metric} {x : Float} (h : x ∈ m.options) : x ∈ m.doubles := by
  obtain ⟨p, hp, hx⟩ := List.mem_flatMap.1 h
  exact List.mem_append_left _ (List.mem_flatMap.2 ⟨p, hp, MetricPoint.mem_doubles_of_mem_options hx⟩)

/-- The warnings of reading a metric back, one for each point of another kind. -/
def mismatches (m : Metric) : List Warning :=
  (m.dataPoints.points.filter fun p => p.kind ≠ m.kind).map fun p => .pointMismatch m.kind p.kind

end Metric

namespace Store

theorem readText_of_decodes {α : Type} {decode : Decoder α} {v : Json} {x : α} (h : Decodes decode v x)
    (hdepth : v.depth ≤ depthLimit) : readText decode v.text = some x := by
  rw [readText, h.decodeText hdepth]
  rfl

private theorem readText_attributes (a : Attributes) :
    readText Attributes.decode a.toJson.text = some a.restored :=
  readText_of_decodes a.decodes (a.depth_toJson_le.trans (by decide))

private theorem readText_list {α : Type} {item : Decoder α} {f : α → Json} {g : α → α} {d : Nat}
    (h : ∀ x, Recovers stored item (f x) (g x)) (hdepth : ∀ x, (f x).depth ≤ d) (hd : d < depthLimit)
    (xs : List α) : readText (decodeList item) (Json.array (xs.map f)).text = some (xs.map g) :=
  readText_of_decodes (recovers_list fun x _ => h x).decodes
    ((depth_array_map_le fun x _ => hdepth x).trans hd)

theorem OriginColumns.resource?_ofRecords (resource : Resource) (scope : Scope) :
    (OriginColumns.ofRecords resource scope).resource? = some resource.restored := by
  simp only [resource?, ofRecords, readText_attributes]
  rfl

theorem OriginColumns.scope?_ofRecords (resource : Resource) (scope : Scope) :
    (OriginColumns.ofRecords resource scope).scope? = some scope.restored := by
  simp only [scope?, ofRecords, readText_attributes]
  rfl

private theorem ofName_kind (k : SpanKind) : SpanKind.ofName k.name = k := by
  cases k <;> rfl

private theorem ofName_status (c : StatusCode) : StatusCode.ofName c.name = c := by
  cases c <;> rfl

private theorem ofName_metricKind (k : MetricKind) : MetricKind.ofName k.name = k := by
  cases k <;> rfl

/-- The row of a span is read back as the span with its doubles restored. -/
theorem SpanRow.toSpan?_ofSpan (s : Span) : (SpanRow.ofSpan s).toSpan? = some s.restored := by
  simp only [toSpan?, ofSpan, readText_attributes,
    readText_list SpanEvent.recovers_stored SpanEvent.depth_toJson_le (by decide),
    readText_list SpanLink.recovers_stored SpanLink.depth_toJson_le (by decide),
    OriginColumns.resource?_ofRecords, OriginColumns.scope?_ofRecords, ofName_kind, ofName_status]
  rfl

theorem LogRow.body?_ofLog (l : Log) : (LogRow.ofLog l).body? = some (l.body.map Body.restored) := by
  simp only [body?, ofLog]
  cases l.body with
  | none => rfl
  | some b =>
    simp only [Option.map_some, readText_of_decodes b.decodes (b.depth_toJson_le.trans (by decide))]
    rfl

/-- The row of a log is read back as the log with its doubles restored. -/
theorem LogRow.toLog?_ofLog (l : Log) : (LogRow.ofLog l).toLog? = some l.restored := by
  have hbody := LogRow.body?_ofLog l
  simp only [toLog?, hbody]
  simp only [ofLog, readText_attributes, OriginColumns.resource?_ofRecords, OriginColumns.scope?_ofRecords]
  rfl

private theorem pushAll_restored (kind : MetricKind) (points : List MetricPoint) :
    (DataPoints.empty kind).pushAll (points.map MetricPoint.restored) =
      ⟨⟨kind, (points.filter fun p => p.kind = kind).map MetricPoint.restored⟩,
        (points.filter fun p => p.kind ≠ kind).map fun p => .pointMismatch kind p.kind⟩ := by
  rw [DataPoints.pushAll_eq]
  simp [DataPoints.empty, List.filter_map, Function.comp_def]

/-- The row of a metric is read back as the metric with its doubles restored and the points of its own kind
only. -/
theorem MetricRow.toMetric?_ofMetric (m : Metric) :
    (MetricRow.ofMetric m).toMetric? = some ⟨m.restored, m.mismatches⟩ := by
  have hpush := pushAll_restored m.kind m.dataPoints.points
  simp only [toMetric?, ofMetric, readText_list MetricPoint.recovers_stored MetricPoint.depth_toJson_le (by decide),
    OriginColumns.resource?_ofRecords, OriginColumns.scope?_ofRecords, ofName_metricKind]
  show some (((DataPoints.empty m.kind).pushAll (m.dataPoints.points.map MetricPoint.restored)) >>= _) = _
  rw [hpush]
  refine congrArg some ?_
  show (⟨_, _ ++ []⟩ : Reported Metric) = _
  rw [List.append_nil]
  rfl

end Store

section Exact

private theorem Resource.restored_eq_self_iff (r : Resource) :
    r.restored = r ↔ ∀ x ∈ r.attributes.doubles, stored x = x := by
  cases r
  simp [restored, Attributes.restored_eq_self_iff]

private theorem Scope.restored_eq_self_iff (s : Scope) :
    s.restored = s ↔ ∀ x ∈ s.attributes.doubles, stored x = x := by
  cases s
  simp [restored, Attributes.restored_eq_self_iff]

/-- A span comes back as it was written exactly if each of its doubles does. -/
theorem Span.restored_eq_self_iff (s : Span) : s.restored = s ↔ ∀ x ∈ s.doubles, stored x = x := by
  have hevents := map_restored_eq_self_iff s.events fun e _ => e.restored_eq_self_iff
  have hlinks := map_restored_eq_self_iff s.links fun l _ => l.restored_eq_self_iff
  cases s
  simp only [restored, doubles, originDoubles, mk.injEq, hevents, hlinks,
    Attributes.restored_eq_self_iff, Resource.restored_eq_self_iff, Scope.restored_eq_self_iff,
    List.forall_mem_append]
  tauto

/-- A log comes back as it was written exactly if each of its doubles does. -/
theorem Log.restored_eq_self_iff (l : Log) : l.restored = l ↔ ∀ x ∈ l.doubles, stored x = x := by
  have hbody : l.body.map Body.restored = l.body ↔ ∀ x ∈ l.body.elim [] Body.doubles, stored x = x := by
    cases l.body with
    | none => simp
    | some b => simp [Body.restored_eq_self_iff]
  cases l
  simp only [restored, doubles, originDoubles, mk.injEq, hbody,
    Attributes.restored_eq_self_iff, Resource.restored_eq_self_iff, Scope.restored_eq_self_iff,
    List.forall_mem_append]
  tauto

/-- A metric whose points are of its kind comes back with each double replaced by its image exactly if its doubles
are read so and no optional one is lost. -/
theorem Metric.restored_eq_mapDoubles_iff {m : Metric} (huniform : m.IsUniform) {f : Float → Float} :
    m.restored = m.mapDoubles f ↔
      (∀ x ∈ m.options, x.isFinite = true) ∧ ∀ x ∈ m.doubles, stored x = f x := by
  have hfilter : (m.dataPoints.points.filter fun p => p.kind = m.kind) = m.dataPoints.points :=
    List.filter_eq_self.2 fun p hp => decide_eq_true (huniform p hp)
  have hpoints : m.dataPoints.points.map MetricPoint.restored =
      m.dataPoints.points.map (MetricPoint.mapDoubles f) ↔
        (∀ x ∈ m.options, x.isFinite = true) ∧
          ∀ x ∈ m.dataPoints.points.flatMap MetricPoint.doubles, stored x = f x := by
    simp only [List.map_inj_left, MetricPoint.restored_eq_mapDoubles_iff, options, List.mem_flatMap]
    constructor
    · intro h
      constructor
      · rintro x ⟨p, hp, hx⟩
        exact (h p hp).1 x hx
      · rintro x ⟨p, hp, hx⟩
        exact (h p hp).2 x hx
    · rintro ⟨hfinite, hstored⟩ p hp
      exact ⟨fun x hx => hfinite x ⟨p, hp, hx⟩, fun x hx => hstored x ⟨p, hp, hx⟩⟩
  simp only [restored, mapDoubles, hfilter, mk.injEq, DataPoints.mk.injEq, true_and, and_true,
    Resource.restored, Scope.restored, Resource.mk.injEq, Scope.mk.injEq, hpoints,
    Attributes.restored_eq_mapDoubles_iff, doubles, originDoubles, List.forall_mem_append]
  tauto

/-- A metric of finite doubles whose points are of its kind comes back as it was written exactly if each of
its doubles does. -/
theorem Metric.restored_eq_self_iff {m : Metric} (huniform : m.IsUniform)
    (hfinite : ∀ x ∈ m.doubles, x.isFinite = true) :
    m.restored = m ↔ ∀ x ∈ m.doubles, stored x = x := by
  have h := restored_eq_mapDoubles_iff huniform (f := fun x => x)
  rw [mapDoubles_self] at h
  exact h.trans (and_iff_right fun x hx => hfinite x (mem_doubles_of_mem_options hx))

theorem Metric.mismatches_eq_nil {m : Metric} (huniform : m.IsUniform) : m.mismatches = [] := by
  rw [mismatches, List.filter_eq_nil_iff.2, List.map_nil]
  intro p hp
  simpa using huniform p hp

end Exact

end Telemetry
