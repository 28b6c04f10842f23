import Telemetry.Metric
import Telemetry.Proofs.Storage.Attribute

/-! What data points come back as from their stored form. An optional double that is not finite comes back as
no value, any other one that is not finite as NaN. A point comes back with each double replaced by a given image
exactly if its doubles are read so and no optional one is lost. -/
namespace Telemetry

open Json

variable {f g : Float → Float}

/-- The optional double that is read back. -/
def restoredOption (x : Option Float) : Option Float :=
  (x.filter (·.isFinite)).map stored

/-- The optional double that is read, if doubles are read as their images. -/
def carriedOption (f : Float → Float) (x : Option Float) : Option Float := (x.filter (·.isFinite)).map f

private theorem recovers_optionalFloat (x : Option Float) :
    Recovers f (decodeOption decodeFloat) (optionalFloat x) (carriedOption f x) := by
  intro w delivery hw
  cases x with
  | none =>
    cases hw
    rfl
  | some x =>
    rw [optionalFloat, Option.map_some, Option.getD_some, ofFloat] at hw
    rw [carriedOption, Option.filter_some]
    split at hw
    · rename_i hx
      rw [if_pos hx]
      cases hw with
      | float hx hy h => exact congrArg (Except.ok ∘ some) h.symm
    · rename_i hx
      rw [if_neg hx]
      cases hw
      rfl

private theorem depth_optionalFloat (x : Option Float) : (optionalFloat x).depth = 0 := by
  cases x with
  | none => rfl
  | some x => exact depth_ofFloat x

/-- An optional double comes back mapped exactly if, being there, it is finite and read so. -/
theorem carriedOption_eq_map_iff (x : Option Float) :
    carriedOption f x = x.map g ↔ (∀ y ∈ x.toList, y.isFinite = true) ∧ ∀ y ∈ x.toList, f y = g y := by
  cases x with
  | none => simp [carriedOption]
  | some x =>
    by_cases h : x.isFinite = true
    · simp [carriedOption, h]
    · simp [carriedOption, h]

theorem Temporality.recovers (t : Temporality) : Recovers f decode (.string t.name) t :=
  recovers_name (by cases t <;> rfl)

theorem ValueType.recovers (t : ValueType) : Recovers f decode (.string t.name) t :=
  recovers_name (by cases t <;> rfl)

namespace Exemplar

def restored (e : Exemplar) : Exemplar :=
  { e with value := stored e.value, filteredAttributes := e.filteredAttributes.restored }

def doubles (e : Exemplar) : List Float := e.value :: e.filteredAttributes.doubles

theorem depth_toJson_le (e : Exemplar) : e.toJson.depth ≤ 4 := by
  have := e.filteredAttributes.depth_toJson_le
  simp only [toJson, ofInt64Text, depth, membersDepth, depth_ofFloat]
  omega

def mapDoubles (f : Float → Float) (e : Exemplar) : Exemplar :=
  { e with value := f e.value, filteredAttributes := e.filteredAttributes.mapDoubles f }

@[simp] theorem mapDoubles_id (e : Exemplar) : e.mapDoubles id = e := by
  simp [mapDoubles]

theorem mapDoubles_eq_iff (e : Exemplar) : e.mapDoubles f = e.mapDoubles g ↔ ∀ x ∈ e.doubles, f x = g x := by
  simp [mapDoubles, doubles, Attributes.mapDoubles_eq_iff]

theorem mapDoubles_stored (e : Exemplar) : e.mapDoubles stored = e.restored := by
  rw [mapDoubles, Attributes.mapDoubles_stored, restored]

theorem recovers (hf : IsReading f) (e : Exemplar) : Recovers f decode e.toJson (e.mapDoubles f) := by
  refine recovers_record (by simp) fun h => ?_
  refine ((((Reads.map Exemplar.mk ?_).seq ?_).seq ?_).seq ?_).seq ?_
  · exact h.field (by simp) (recovers_int64Text e.timestamp)
  · exact h.field (by simp) (recovers_float hf e.value)
  · exact h.field (by simp) (recovers_string e.traceID)
  · exact h.field (by simp) (recovers_string e.spanID)
  · exact h.field (by simp) (e.filteredAttributes.recovers hf)

end Exemplar

section Exemplars

variable (exemplars : List Exemplar)

private theorem recovers_exemplars (hf : IsReading f) : Recovers f (decodeList Exemplar.decode)
    (.array (exemplars.map Exemplar.toJson)) (exemplars.map (Exemplar.mapDoubles f)) :=
  recovers_list fun e _ => e.recovers hf

private theorem depth_exemplars_le : (Json.array (exemplars.map Exemplar.toJson)).depth ≤ 5 :=
  depth_array_map_le fun e _ => e.depth_toJson_le

private theorem exemplars_eq_map_iff :
    exemplars.map (Exemplar.mapDoubles f) = exemplars.map (Exemplar.mapDoubles g) ↔
      ∀ x ∈ exemplars.flatMap Exemplar.doubles, f x = g x :=
  map_eq_map_iff_doubles exemplars fun e _ => e.mapDoubles_eq_iff

private theorem exemplars_stored : exemplars.map (Exemplar.mapDoubles stored) = exemplars.map Exemplar.restored :=
  List.map_congr_left fun e _ => e.mapDoubles_stored

private theorem map_mapDoubles_id : exemplars.map (Exemplar.mapDoubles id) = exemplars :=
  map_eq_self_iff.2 fun e _ => e.mapDoubles_id

end Exemplars

namespace GaugePoint

def restored (p : GaugePoint) : GaugePoint :=
  { p with
    attributes := p.attributes.restored
    value := stored p.value
    exemplars := p.exemplars.map Exemplar.restored }

def doubles (p : GaugePoint) : List Float :=
  p.value :: (p.attributes.doubles ++ p.exemplars.flatMap Exemplar.doubles)

theorem depth_toJson_le (p : GaugePoint) : p.toJson.depth ≤ 6 := by
  have := p.attributes.depth_toJson_le
  have := depth_exemplars_le p.exemplars
  simp only [depth] at this
  simp only [toJson, ofInt64Text, ofUInt64, depth, membersDepth, depth_ofFloat]
  omega

def mapDoubles (f : Float → Float) (p : GaugePoint) : GaugePoint :=
  { p with
    attributes := p.attributes.mapDoubles f
    value := f p.value
    exemplars := p.exemplars.map (Exemplar.mapDoubles f) }

@[simp] theorem mapDoubles_id (p : GaugePoint) : p.mapDoubles id = p := by
  simp [mapDoubles, map_mapDoubles_id]

theorem mapDoubles_eq_iff (p : GaugePoint) : p.mapDoubles f = p.mapDoubles g ↔ ∀ x ∈ p.doubles, f x = g x := by
  simp only [mapDoubles, doubles, mk.injEq, true_and, Attributes.mapDoubles_eq_iff, exemplars_eq_map_iff,
    List.forall_mem_cons, List.forall_mem_append]
  tauto

theorem mapDoubles_stored (p : GaugePoint) : p.mapDoubles stored = p.restored := by
  rw [mapDoubles, Attributes.mapDoubles_stored, exemplars_stored, restored]

theorem recovers (hf : IsReading f) (p : GaugePoint) : Recovers f decode p.toJson (p.mapDoubles f) := by
  refine recovers_record (by simp) fun h => ?_
  refine ((((((Reads.map GaugePoint.mk ?_).seq ?_).seq ?_).seq ?_).seq ?_).seq ?_).seq ?_
  · exact h.field (by simp) (recovers_int64Text p.timestamp)
  · exact h.field (by simp) (recovers_int64Text p.startTime)
  · exact h.field (by simp) (p.attributes.recovers hf)
  · exact h.field (by simp) (recovers_uint32 p.flags)
  · exact h.field (by simp) p.valueType.recovers
  · exact h.field (by simp) (recovers_float hf p.value)
  · exact h.field (by simp) (recovers_exemplars p.exemplars hf)

end GaugePoint

namespace SumPoint

def restored (p : SumPoint) : SumPoint :=
  { p with
    attributes := p.attributes.restored
    value := stored p.value
    exemplars := p.exemplars.map Exemplar.restored }

def doubles (p : SumPoint) : List Float :=
  p.value :: (p.attributes.doubles ++ p.exemplars.flatMap Exemplar.doubles)

theorem depth_toJson_le (p : SumPoint) : p.toJson.depth ≤ 6 := by
  have := p.attributes.depth_toJson_le
  have := depth_exemplars_le p.exemplars
  simp only [depth] at this
  simp only [toJson, ofInt64Text, ofUInt64, depth, membersDepth, depth_ofFloat]
  omega

def mapDoubles (f : Float → Float) (p : SumPoint) : SumPoint :=
  { p with
    attributes := p.attributes.mapDoubles f
    value := f p.value
    exemplars := p.exemplars.map (Exemplar.mapDoubles f) }

@[simp] theorem mapDoubles_id (p : SumPoint) : p.mapDoubles id = p := by
  simp [mapDoubles, map_mapDoubles_id]

theorem mapDoubles_eq_iff (p : SumPoint) : p.mapDoubles f = p.mapDoubles g ↔ ∀ x ∈ p.doubles, f x = g x := by
  simp only [mapDoubles, doubles, mk.injEq, true_and, Attributes.mapDoubles_eq_iff, exemplars_eq_map_iff,
    List.forall_mem_cons, List.forall_mem_append]
  tauto

theorem mapDoubles_stored (p : SumPoint) : p.mapDoubles stored = p.restored := by
  rw [mapDoubles, Attributes.mapDoubles_stored, exemplars_stored, restored]

theorem recovers (hf : IsReading f) (p : SumPoint) : Recovers f decode p.toJson (p.mapDoubles f) := by
  refine recovers_record (by simp) fun h => ?_
  refine ((((((((Reads.map SumPoint.mk ?_).seq ?_).seq ?_).seq ?_).seq ?_).seq ?_).seq ?_).seq ?_).seq ?_
  · exact h.field (by simp) (recovers_int64Text p.timestamp)
  · exact h.field (by simp) (recovers_int64Text p.startTime)
  · exact h.field (by simp) (p.attributes.recovers hf)
  · exact h.field (by simp) (recovers_uint32 p.flags)
  · exact h.field (by simp) p.valueType.recovers
  · exact h.field (by simp) (recovers_float hf p.value)
  · exact h.field (by simp) (recovers_bool p.isMonotonic)
  · exact h.field (by simp) p.aggregationTemporality.recovers
  · exact h.field (by simp) (recovers_exemplars p.exemplars hf)

end SumPoint

private theorem recovers_counts (counts : List UInt64) :
    Recovers f (decodeWords decodeUInt64Text) (.array (counts.map ofUInt64Text)) counts :=
  recovers_words recovers_uint64Text counts

private theorem depth_counts_le (counts : List UInt64) : (Json.array (counts.map ofUInt64Text)).depth ≤ 1 :=
  depth_array_map_le fun _ _ => Nat.le_refl 0

namespace HistogramPoint

def restored (p : HistogramPoint) : HistogramPoint :=
  { p with
    attributes := p.attributes.restored
    sum := restoredOption p.sum
    min := restoredOption p.min
    max := restoredOption p.max
    explicitBounds := p.explicitBounds.map stored
    exemplars := p.exemplars.map Exemplar.restored }

def doubles (p : HistogramPoint) : List Float :=
  p.sum.toList ++ (p.min.toList ++ (p.max.toList ++ (p.explicitBounds ++
    (p.attributes.doubles ++ p.exemplars.flatMap Exemplar.doubles))))

theorem depth_toJson_le (p : HistogramPoint) : p.toJson.depth ≤ 6 := by
  have hattributes := p.attributes.depth_toJson_le
  have hexemplars := depth_exemplars_le p.exemplars
  have hcounts := depth_counts_le p.bucketCounts
  have hbounds : (Json.array (p.explicitBounds.map ofFloat)).depth ≤ 1 :=
    depth_array_map_le fun x _ => (depth_ofFloat x).le
  simp only [depth] at hexemplars hcounts hbounds
  simp only [toJson, ofInt64Text, ofUInt64, depth, membersDepth, depth_optionalFloat]
  simp only [ofUInt64Text, depth] at hcounts ⊢
  omega

/-- The point with each double replaced by its image. Optional doubles that are there stay there. -/
def mapDoubles (f : Float → Float) (p : HistogramPoint) : HistogramPoint :=
  { p with
    attributes := p.attributes.mapDoubles f
    sum := p.sum.map f
    min := p.min.map f
    max := p.max.map f
    explicitBounds := p.explicitBounds.map f
    exemplars := p.exemplars.map (Exemplar.mapDoubles f) }

@[simp] theorem mapDoubles_id (p : HistogramPoint) : p.mapDoubles id = p := by
  simp [mapDoubles, map_mapDoubles_id]

/-- The optional doubles that are there. -/
def options (p : HistogramPoint) : List Float :=
  p.sum.toList ++ (p.min.toList ++ p.max.toList)

/-- The point that is read, if doubles are read as their images. -/
def carried (f : Float → Float) (p : HistogramPoint) : HistogramPoint :=
  { p.mapDoubles f with
    sum := carriedOption f p.sum
    min := carriedOption f p.min
    max := carriedOption f p.max }

theorem carried_eq_mapDoubles_iff (p : HistogramPoint) :
    p.carried f = p.mapDoubles g ↔ (∀ x ∈ p.options, x.isFinite = true) ∧ ∀ x ∈ p.doubles, f x = g x := by
  simp only [carried, mapDoubles, doubles, options, mk.injEq, true_and, Attributes.mapDoubles_eq_iff,
    exemplars_eq_map_iff, carriedOption_eq_map_iff,
    List.map_inj_left (f := f), List.forall_mem_append]
  tauto

theorem carried_stored (p : HistogramPoint) : p.carried stored = p.restored := by
  simp only [carried, mapDoubles, Attributes.mapDoubles_stored, exemplars_stored, restored]
  rfl

theorem recovers (hf : IsReading f) (p : HistogramPoint) : Recovers f decode p.toJson (p.carried f) := by
  refine recovers_record (by simp) fun h => ?_
  refine (((((((((((Reads.map HistogramPoint.mk ?_).seq ?_).seq ?_).seq ?_).seq ?_).seq ?_).seq ?_).seq
    ?_).seq ?_).seq ?_).seq ?_).seq ?_
  · exact h.field (by simp) (recovers_int64Text p.timestamp)
  · exact h.field (by simp) (recovers_int64Text p.startTime)
  · exact h.field (by simp) (p.attributes.recovers hf)
  · exact h.field (by simp) (recovers_uint32 p.flags)
  · exact h.field (by simp) (recovers_uint64Text p.count)
  · exact h.field (by simp) (recovers_optionalFloat p.sum)
  · exact h.field (by simp) (recovers_optionalFloat p.min)
  · exact h.field (by simp) (recovers_optionalFloat p.max)
  · exact h.field (by simp) (recovers_counts p.bucketCounts)
  · exact h.field (by simp) (recovers_list fun x _ => recovers_float hf x)
  · exact h.field (by simp) p.aggregationTemporality.recovers
  · exact h.field (by simp) (recovers_exemplars p.exemplars hf)

end HistogramPoint

namespace Buckets

theorem recovers (b : Buckets) : Recovers f decode b.toJson b := by
  refine recovers_record (by simp) fun h => ?_
  refine (Reads.map Buckets.mk ?_).seq ?_
  · exact h.field (by simp) (recovers_int32 b.offset)
  · exact h.field (by simp) (recovers_counts b.bucketCounts)

theorem depth_toJson_le (b : Buckets) : b.toJson.depth ≤ 2 := by
  have hcounts := depth_counts_le b.bucketCounts
  simp only [depth] at hcounts
  simp only [toJson, ofInt64, depth, membersDepth]
  omega

end Buckets

namespace ExponentialPoint

def restored (p : ExponentialPoint) : ExponentialPoint :=
  { p with
    attributes := p.attributes.restored
    sum := restoredOption p.sum
    min := restoredOption p.min
    max := restoredOption p.max
    zeroThreshold := stored p.zeroThreshold
    exemplars := p.exemplars.map Exemplar.restored }

def doubles (p : ExponentialPoint) : List Float :=
  p.sum.toList ++ (p.min.toList ++ (p.max.toList ++ (p.zeroThreshold ::
    (p.attributes.doubles ++ p.exemplars.flatMap Exemplar.doubles))))

theorem depth_toJson_le (p : ExponentialPoint) : p.toJson.depth ≤ 6 := by
  have hattributes := p.attributes.depth_toJson_le
  have hexemplars := depth_exemplars_le p.exemplars
  have hpositive := p.positive.depth_toJson_le
  have hnegative := p.negative.depth_toJson_le
  simp only [depth] at hexemplars
  simp only [toJson, ofInt64, ofInt64Text, ofUInt64, ofUInt64Text, depth, membersDepth, depth_ofFloat,
    depth_optionalFloat]
  omega

/-- The point with each double replaced by its image. Optional doubles that are there stay there. -/
def mapDoubles (f : Float → Float) (p : ExponentialPoint) : ExponentialPoint :=
  { p with
    attributes := p.attributes.mapDoubles f
    sum := p.sum.map f
    min := p.min.map f
    max := p.max.map f
    zeroThreshold := f p.zeroThreshold
    exemplars := p.exemplars.map (Exemplar.mapDoubles f) }

@[simp] theorem mapDoubles_id (p : ExponentialPoint) : p.mapDoubles id = p := by
  simp [mapDoubles, map_mapDoubles_id]

/-- The optional doubles that are there. -/
def options (p : ExponentialPoint) : List Float :=
  p.sum.toList ++ (p.min.toList ++ p.max.toList)

/-- The point that is read, if doubles are read as their images. -/
def carried (f : Float → Float) (p : ExponentialPoint) : ExponentialPoint :=
  { p.mapDoubles f with
    sum := carriedOption f p.sum
    min := carriedOption f p.min
    max := carriedOption f p.max }

theorem carried_eq_mapDoubles_iff (p : ExponentialPoint) :
    p.carried f = p.mapDoubles g ↔ (∀ x ∈ p.options, x.isFinite = true) ∧ ∀ x ∈ p.doubles, f x = g x := by
  simp only [carried, mapDoubles, doubles, options, mk.injEq, true_and, Attributes.mapDoubles_eq_iff,
    exemplars_eq_map_iff, carriedOption_eq_map_iff,
    List.forall_mem_cons, List.forall_mem_append]
  tauto

theorem carried_stored (p : ExponentialPoint) : p.carried stored = p.restored := by
  simp only [carried, mapDoubles, Attributes.mapDoubles_stored, exemplars_stored, restored]
  rfl

theorem recovers (hf : IsReading f) (p : ExponentialPoint) : Recovers f decode p.toJson (p.carried f) := by
  refine recovers_record (by simp) fun h => ?_
  refine ((((((((((((((Reads.map ExponentialPoint.mk ?_).seq ?_).seq ?_).seq ?_).seq ?_).seq ?_).seq ?_).seq
    ?_).seq ?_).seq ?_).seq ?_).seq ?_).seq ?_).seq ?_).seq ?_
  · exact h.field (by simp) (recovers_int64Text p.timestamp)
  · exact h.field (by simp) (recovers_int64Text p.startTime)
  · exact h.field (by simp) (p.attributes.recovers hf)
  · exact h.field (by simp) (recovers_uint32 p.flags)
  · exact h.field (by simp) (recovers_uint64Text p.count)
  · exact h.field (by simp) (recovers_optionalFloat p.sum)
  · exact h.field (by simp) (recovers_optionalFloat p.min)
  · exact h.field (by simp) (recovers_optionalFloat p.max)
  · exact h.field (by simp) (recovers_int32 p.scale)
  · exact h.field (by simp) (recovers_uint64Text p.zeroCount)
  · exact h.field (by simp) (recovers_float hf p.zeroThreshold)
  · exact h.field (by simp) p.positive.recovers
  · exact h.field (by simp) p.negative.recovers
  · exact h.field (by simp) p.aggregationTemporality.recovers
  · exact h.field (by simp) (recovers_exemplars p.exemplars hf)

end ExponentialPoint

namespace MetricPoint

def restored : MetricPoint → MetricPoint
  | .gauge p => .gauge p.restored
  | .sum p => .sum p.restored
  | .histogram p => .histogram p.restored
  | .exponentialHistogram p => .exponentialHistogram p.restored

def doubles : MetricPoint → List Float
  | .gauge p => p.doubles
  | .sum p => p.doubles
  | .histogram p => p.doubles
  | .exponentialHistogram p => p.doubles

@[simp] theorem kind_restored (p : MetricPoint) : p.restored.kind = p.kind := by
  cases p <;> rfl

theorem depth_toJson_le (p : MetricPoint) : p.toJson.depth ≤ 7 := by
  refine depth_object_le (d := 6) fun m hm => ?_
  obtain rfl := List.mem_singleton.1 hm
  cases p with
  | gauge p => exact p.depth_toJson_le
  | sum p => exact p.depth_toJson_le
  | histogram p => exact p.depth_toJson_le
  | exponentialHistogram p => exact p.depth_toJson_le

def mapDoubles (f : Float → Float) : MetricPoint → MetricPoint
  | .gauge p => .gauge (p.mapDoubles f)
  | .sum p => .sum (p.mapDoubles f)
  | .histogram p => .histogram (p.mapDoubles f)
  | .exponentialHistogram p => .exponentialHistogram (p.mapDoubles f)

@[simp] theorem mapDoubles_id (p : MetricPoint) : p.mapDoubles id = p := by
  cases p <;> simp [mapDoubles]

/-- The optional doubles that are there: sum, minimum and maximum of a histogram of either kind. -/
def options : MetricPoint → List Float
  | .gauge _ => []
  | .sum _ => []
  | .histogram p => p.options
  | .exponentialHistogram p => p.options

theorem mem_doubles_of_mem_options {p : MetricPoint} {x : Float} (h : x ∈ p.options) : x ∈ p.doubles := by
  cases p with
  | gauge p | sum p => exact absurd h List.not_mem_nil
  | histogram p =>
    simp only [options, HistogramPoint.options, List.mem_append] at h
    simp only [doubles, HistogramPoint.doubles, List.mem_append]
    tauto
  | exponentialHistogram p =>
    simp only [options, ExponentialPoint.options, List.mem_append] at h
    simp only [doubles, ExponentialPoint.doubles, List.mem_append]
    tauto

/-- The point that is read, if doubles are read as their images. -/
def carried (f : Float → Float) : MetricPoint → MetricPoint
  | .gauge p => .gauge (p.mapDoubles f)
  | .sum p => .sum (p.mapDoubles f)
  | .histogram p => .histogram (p.carried f)
  | .exponentialHistogram p => .exponentialHistogram (p.carried f)

theorem carried_eq_mapDoubles_iff (p : MetricPoint) :
    p.carried f = p.mapDoubles g ↔ (∀ x ∈ p.options, x.isFinite = true) ∧ ∀ x ∈ p.doubles, f x = g x := by
  cases p with
  | gauge p =>
    rw [carried, mapDoubles, gauge.injEq, p.mapDoubles_eq_iff]
    exact (and_iff_right (List.forall_mem_nil _)).symm
  | sum p =>
    rw [carried, mapDoubles, sum.injEq, p.mapDoubles_eq_iff]
    exact (and_iff_right (List.forall_mem_nil _)).symm
  | histogram p =>
    rw [carried, mapDoubles, histogram.injEq, p.carried_eq_mapDoubles_iff, options, doubles]
  | exponentialHistogram p =>
    rw [carried, mapDoubles, exponentialHistogram.injEq, p.carried_eq_mapDoubles_iff, options, doubles]

theorem carried_stored (p : MetricPoint) : p.carried stored = p.restored := by
  cases p with
  | gauge p => exact congrArg gauge p.mapDoubles_stored
  | sum p => exact congrArg sum p.mapDoubles_stored
  | histogram p => exact congrArg histogram p.carried_stored
  | exponentialHistogram p => exact congrArg exponentialHistogram p.carried_stored

theorem restored_eq_mapDoubles_iff (p : MetricPoint) :
    p.restored = p.mapDoubles f ↔
      (∀ x ∈ p.options, x.isFinite = true) ∧ ∀ x ∈ p.doubles, stored x = f x := by
  rw [← p.carried_stored, p.carried_eq_mapDoubles_iff]

theorem recovers (hf : IsReading f) (p : MetricPoint) : Recovers f decode p.toJson (p.carried f) := by
  refine recovers_variant ?_
  cases p with
  | gauge p => exact (p.recovers hf).map gauge
  | sum p => exact (p.recovers hf).map sum
  | histogram p => exact (p.recovers hf).map histogram
  | exponentialHistogram p => exact (p.recovers hf).map exponentialHistogram

theorem recovers_stored (p : MetricPoint) : Recovers stored decode p.toJson p.restored :=
  p.carried_stored ▸ p.recovers isReading_stored

end MetricPoint

theorem DataPoints.recovers_kind (k : MetricKind) : Recovers f decodeKind (.string k.name) k :=
  recovers_name (by cases k <;> rfl)

/-- A series is read from its JSON, whatever the kinds of its points. -/
theorem DataPoints.recovers (hf : IsReading f) (d : DataPoints) :
    Recovers f decode d.toJson ⟨d.kind, d.points.map (MetricPoint.carried f)⟩ := by
  refine recovers_record (by simp) fun h => ?_
  refine (Reads.map DataPoints.mk ?_).seq ?_
  · exact h.field (by simp) (recovers_kind d.kind)
  · exact h.field (by simp) (recovers_list fun p _ => p.recovers hf)

/-- Pushing keeps the points of the series' kind and reports the others, both in their order. -/
theorem DataPoints.pushAll_eq (d : DataPoints) (points : List MetricPoint) :
    d.pushAll points =
      ⟨⟨d.kind, d.points ++ points.filter fun p => p.kind = d.kind⟩,
        (points.filter fun p => p.kind ≠ d.kind).map fun p => .pointMismatch d.kind p.kind⟩ := by
  induction points generalizing d with
  | nil =>
    show (⟨d, []⟩ : Reported DataPoints) = _
    simp
  | cons p rest ih =>
    have hstep : d.pushAll (p :: rest) = ⟨((d.push p).value.1.pushAll rest).value,
        (d.push p).warnings ++ ((d.push p).value.1.pushAll rest).warnings⟩ := rfl
    rw [hstep, ih]
    by_cases h : p.kind = d.kind
    · have hpush : d.push p = ⟨({ d with points := d.points ++ [p] }, true), []⟩ := if_pos h
      rw [hpush]
      simp [h]
    · have hpush : d.push p = ⟨(d, false), [.pointMismatch d.kind p.kind]⟩ := if_neg h
      rw [hpush]
      simp [h]

end Telemetry
