import Telemetry.Proofs.Ingest.Records
import Telemetry.Proofs.Ingest.Values

/-! The metrics of an export request. Each metric with points to keep becomes one record, below its own resource and
scope, and each of its points becomes one point of that record. What else is in a request does not matter to it. -/
namespace Telemetry.Otlp

section Outlines

/-- A time as a signed word can hold it. The last one stands for all later ones. -/
def clampedTime (time : UInt64) : Int := min time.toNat (2 ^ 63 - 1)

/-- The times of a point, and one for each of its exemplars. -/
structure Times where
  startTime : Int
  timestamp : Int
  exemplars : List Int

/-- What a point says apart from its values and attributes: its times, and what it counts within which bounds. The
bounds of exponential buckets follow from the scale, the width of the middle bucket and the places of the first ones. -/
inductive Outline
  | gauge (times : Times)
  | sum (times : Times)
  | histogram (times : Times) (count : UInt64) (bucketCounts : List UInt64) (bounds : List Float)
  | exponentialHistogram (times : Times) (count zeroCount : UInt64) (scale : Int32) (zeroThreshold : Float)
      (positive negative : Int32 × List UInt64)

def times (startTime time : UInt64) (exemplars : List ExemplarMessage) : Times :=
  ⟨clampedTime startTime, clampedTime time, exemplars.map fun e => clampedTime e.time⟩

/-- The place of the first bucket and the counts. Without a message there are no buckets. -/
def bucketOutline : Option BucketsMessage → Int32 × List UInt64
  | some b => (b.offset, b.bucketCounts)
  | none => (0, [])

/-- The outlines of the points that a message brings, in order. -/
def MetricData.outlines : MetricData → List Outline
  | .gauge points => points.map fun p => .gauge (times p.startTime p.time p.exemplars)
  | .sum points _ _ => points.map fun p => .sum (times p.startTime p.time p.exemplars)
  | .histogram points _ => points.map fun p =>
    .histogram (times p.startTime p.time p.exemplars) p.count p.bucketCounts p.explicitBounds
  | .exponentialHistogram points _ => points.map fun p =>
    .exponentialHistogram (times p.startTime p.time p.exemplars) p.count p.zeroCount p.scale p.zeroThreshold
      (bucketOutline p.positive) (bucketOutline p.negative)
  | .summary | .absent => []

def recordedTimes (startTime timestamp : Int64) (exemplars : List Exemplar) : Times :=
  ⟨startTime.toInt, timestamp.toInt, exemplars.map fun e => e.timestamp.toInt⟩

/-- The outline of a recorded point. -/
def outline : MetricPoint → Outline
  | .gauge p => .gauge (recordedTimes p.startTime p.timestamp p.exemplars)
  | .sum p => .sum (recordedTimes p.startTime p.timestamp p.exemplars)
  | .histogram p =>
    .histogram (recordedTimes p.startTime p.timestamp p.exemplars) p.count p.bucketCounts p.explicitBounds
  | .exponentialHistogram p =>
    .exponentialHistogram (recordedTimes p.startTime p.timestamp p.exemplars) p.count p.zeroCount p.scale
      p.zeroThreshold (p.positive.offset, p.positive.bucketCounts) (p.negative.offset, p.negative.bucketCounts)

end Outlines

/-- The kind of record that a metric's data becomes. A summary becomes none, and a metric without data neither. -/
def MetricData.kind? : MetricData → Option MetricKind
  | .gauge _ => some .gauge
  | .sum .. => some .sum
  | .histogram .. => some .histogram
  | .exponentialHistogram .. => some .exponentialHistogram
  | .summary | .absent => none

/-- The record of a metric that arrived at the given time. It is of the kind of the metric's data, has the metric's
points one for one, and holds what the metric's own resource and scope say: their attributes, and names and counts. -/
structure IsRecordOf (received : Int64) (m : Placed MetricMessage) (record : Metric) : Prop where
  name : record.name = m.item.name
  description : record.description = m.item.description
  unit : record.unit = m.item.unit
  kind : some record.kind = m.item.data.kind?
  points : record.dataPoints.points.map outline = m.item.data.outlines
  resource : IsResourceOf m.resource record.resource
  scope : IsScopeOf m.scope record.scope
  received : record.received = received

section Points

theorem toInt_nanos (time : UInt64) : (nanos time).toInt = clampedTime time := by
  have h := time.toNat_lt
  exact Int64.toInt_ofInt_of_le (by omega) (by omega)

theorem recordedTimes_eq (startTime time : UInt64) (exemplars : List ExemplarMessage) :
    recordedTimes (nanos startTime) (nanos time) (Reported.each exemplar exemplars).value =
      times startTime time exemplars := by
  have hexemplar : ∀ e, (exemplar e).value.timestamp.toInt = clampedTime e.time := fun e => toInt_nanos e.time
  simp only [recordedTimes, times, toInt_nanos, Reported.value_each, List.map_map, Function.comp_def, hexemplar]

theorem buckets_eq (b : Option BucketsMessage) :
    ((buckets b).offset, (buckets b).bucketCounts) = bucketOutline b := by
  cases b <;> rfl

variable {α : Type}

/-- A series takes all points if each of them is of its kind, so it has the points of its messages one for one. -/
theorem exists_series (kind : MetricKind) (point : α → Reported MetricPoint) {shape : α → Outline}
    (hkind : ∀ x, (point x).value.kind = kind) (hshape : ∀ x, outline (point x).value = shape x) (points : List α) :
    ∃ d, (some <$> series kind point points).value = some d ∧ d.kind = kind ∧
      d.points.map outline = points.map shape := by
  have hall : ∀ p ∈ points.map fun x => (point x).value, decide (p.kind = kind) = true :=
    List.forall_mem_map.2 fun x _ => decide_eq_true (hkind x)
  refine ⟨⟨kind, points.map fun x => (point x).value⟩, ?_, rfl, ?_⟩
  · show some (series kind point points).value = _
    rw [series, Reported.value_bind, Reported.value_each, DataPoints.pushAll_eq]
    exact congrArg (fun ps => some (DataPoints.mk kind ps)) (List.filter_eq_self.2 hall)
  · rw [List.map_map]
    exact List.map_congr_left fun x _ => hshape x

theorem outline_gaugePoint (p : NumberPointMessage) :
    outline (gaugePoint p).value = .gauge (times p.startTime p.time p.exemplars) :=
  congrArg Outline.gauge (recordedTimes_eq p.startTime p.time p.exemplars)

theorem outline_sumPoint (temporality : Int32) (monotonic : Bool) (p : NumberPointMessage) :
    outline (sumPoint temporality monotonic p).value = .sum (times p.startTime p.time p.exemplars) :=
  congrArg Outline.sum (recordedTimes_eq p.startTime p.time p.exemplars)

theorem outline_histogramPoint (temporality : Int32) (p : HistogramPointMessage) :
    outline (histogramPoint temporality p).value =
      .histogram (times p.startTime p.time p.exemplars) p.count p.bucketCounts p.explicitBounds := by
  rw [← recordedTimes_eq]
  rfl

theorem outline_exponentialPoint (temporality : Int32) (p : ExponentialPointMessage) :
    outline (exponentialPoint temporality p).value =
      .exponentialHistogram (times p.startTime p.time p.exemplars) p.count p.zeroCount p.scale p.zeroThreshold
        (bucketOutline p.positive) (bucketOutline p.negative) := by
  rw [← recordedTimes_eq, ← buckets_eq, ← buckets_eq]
  rfl

/-- Data that has a kind becomes a series of that kind with the points of the data. -/
theorem exists_dataPoints {m : MetricMessage} {kind : MetricKind} (h : m.data.kind? = some kind) :
    ∃ d, (dataPoints m).value = some d ∧ d.kind = kind ∧ d.points.map outline = m.data.outlines := by
  unfold dataPoints
  generalize m.data = data at h
  cases data with
  | gauge points =>
    obtain rfl := Option.some.inj h
    exact exists_series .gauge gaugePoint (fun _ => rfl) outline_gaugePoint points
  | sum points temporality monotonic =>
    obtain rfl := Option.some.inj h
    exact exists_series .sum (sumPoint temporality monotonic) (fun _ => rfl)
      (outline_sumPoint temporality monotonic) points
  | histogram points temporality =>
    obtain rfl := Option.some.inj h
    exact exists_series .histogram (histogramPoint temporality) (fun _ => rfl)
      (outline_histogramPoint temporality) points
  | exponentialHistogram points temporality =>
    obtain rfl := Option.some.inj h
    exact exists_series .exponentialHistogram (exponentialPoint temporality) (fun _ => rfl)
      (outline_exponentialPoint temporality) points
  | summary | absent => cases h

theorem dataPoints_eq_none {m : MetricMessage} (h : m.data.kind? = none) : (dataPoints m).value = none := by
  unfold dataPoints
  generalize m.data = data at h
  cases data with
  | summary | absent => rfl
  | _ => cases h

end Points

section Records

/-- What becomes of a metric that arrived at the given time, at its place in the request. -/
def recorded (received : Int64) (m : Placed MetricMessage) : Option Metric :=
  (metric received (resource m.resource).value (scope m.scope).value m.item).value

variable {received : Int64} {m : Placed MetricMessage}

theorem exists_recorded (h : m.item.data.kind?.isSome = true) :
    ∃ record, recorded received m = some record ∧ IsRecordOf received m record := by
  obtain ⟨kind, hkind⟩ := Option.isSome_iff_exists.1 h
  obtain ⟨d, hd, rfl, hpoints⟩ := exists_dataPoints hkind
  refine ⟨⟨m.item.name, m.item.description, m.item.unit, d, (resource m.resource).value, (scope m.scope).value,
    received⟩, ?_, ⟨rfl, rfl, rfl, hkind.symm, hpoints, isResourceOf m.resource, isScopeOf m.scope, rfl⟩⟩
  rw [recorded, metric, Reported.value_bind, hd]
  rfl

theorem recorded_eq_none (h : m.item.data.kind? = none) : recorded received m = none := by
  rw [recorded, metric, Reported.value_bind, dataPoints_eq_none h]
  rfl

/-- The records of a request are what becomes of its metrics, in nesting order. -/
theorem value_metrics (resources : List (ResourceItems MetricMessage)) (received : Int64) :
    (metrics resources received).value = (placed resources).filterMap (recorded received) := by
  rw [metrics, Reported.value_bind, Reported.value_pure, value_eachItem, List.filterMap_map]
  rfl

/-- Items that are kept or left out by a test are related to what they are mapped to, in order. -/
private theorem forall₂_filterMap {α β : Type} {R : α → β → Prop} {p : α → Bool} {f : α → Option β}
    (hkept : ∀ x, p x = true → ∃ y, f x = some y ∧ R x y) (hleft : ∀ x, p x = false → f x = none) (xs : List α) :
    List.Forall₂ R (xs.filter p) (xs.filterMap f) := by
  induction xs with
  | nil => exact .nil
  | cons x xs ih =>
    cases hx : p x with
    | true =>
      obtain ⟨y, hy, hrel⟩ := hkept x hx
      rw [List.filter_cons_of_pos hx, List.filterMap_cons_some hy]
      exact .cons hrel ih
    | false =>
      rw [List.filter_cons_of_neg (by simp [hx]), List.filterMap_cons_none (hleft x hx)]
      exact ih

/-- Both the records and the warnings of two lists of resources follow each other. -/
theorem eachItem_append {α β : Type} (item : Resource → Scope → α → Reported β) (a b : List (ResourceItems α)) :
    eachItem item (a ++ b) = do
      let xs ← eachItem item a
      let ys ← eachItem item b
      return xs ++ ys := by
  have hvalue : (eachItem item (a ++ b)).value = (eachItem item a).value ++ (eachItem item b).value := by
    rw [value_eachItem, value_eachItem, value_eachItem, placed_append, List.map_append]
  have hwarnings : (eachItem item (a ++ b)).warnings =
      (eachItem item a).warnings ++ ((eachItem item b).warnings ++ []) := by
    simp only [eachItem, Reported.warnings_bind, Reported.warnings_each, Reported.warnings_pure,
      List.flatMap_append, List.append_nil]
  exact congrArg₂ Reported.mk hvalue hwarnings

/-- The records of a request are those of its metrics that have a kind, one for each and in nesting order. The records
of two lists of resources follow each other, and so do their warnings. -/
theorem metrics_lossless (received : Int64) (resources more : List (ResourceItems MetricMessage)) :
    List.Forall₂ (IsRecordOf received) ((placed resources).filter fun m => m.item.data.kind?.isSome)
        (metrics resources received).value ∧
      metrics (resources ++ more) received = do
        let records ← metrics resources received
        let others ← metrics more received
        return records ++ others := by
  constructor
  · rw [value_metrics]
    refine forall₂_filterMap (fun m hm => exists_recorded hm) (fun m hm => ?_) (placed resources)
    exact recorded_eq_none (Option.isNone_iff_eq_none.1 (Option.isSome_eq_false_iff.1 hm))
  · have hvalue : (metrics (resources ++ more) received).value =
        (metrics resources received).value ++ (metrics more received).value := by
      simp only [value_metrics, placed, List.flatMap_append, List.filterMap_append]
    have hwarnings : (metrics (resources ++ more) received).warnings =
        (metrics resources received).warnings ++ ((metrics more received).warnings ++ []) := by
      simp only [metrics, eachItem_append, Reported.warnings_bind, Reported.warnings_pure, List.append_nil]
    exact congrArg₂ Reported.mk hvalue hwarnings

end Records
end Telemetry.Otlp
