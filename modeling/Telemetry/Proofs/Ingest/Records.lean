import Telemetry.Otlp.Record
import Telemetry.Proofs.Encoding.Idempotence
import Telemetry.Proofs.Storage.Row

/-! The records that messages are mapped to. Every attribute map in them went through typing, so none has an empty
key or a double that is not finite, however deep the values of the message nest and whatever they hold. -/
namespace Telemetry

section Maps

def Span.attributeMaps (s : Span) : List Attributes :=
  s.attributes :: (s.events.map (·.attributes) ++ (s.links.map (·.attributes) ++
    [s.resource.attributes, s.scope.attributes]))

def Log.attributeMaps (l : Log) : List Attributes :=
  [l.attributes, l.resource.attributes, l.scope.attributes]

def MetricPoint.attributeMaps (p : MetricPoint) : List Attributes :=
  p.attributes :: p.exemplars.map (·.filteredAttributes)

def Metric.attributeMaps (m : Metric) : List Attributes :=
  m.dataPoints.points.flatMap MetricPoint.attributeMaps ++ [m.resource.attributes, m.scope.attributes]

/-- The doubles of a span are those of its attribute maps. -/
theorem Span.mem_doubles_iff {s : Span} {x : Float} :
    x ∈ s.doubles ↔ ∃ a ∈ s.attributeMaps, x ∈ a.doubles := by
  simp only [doubles, originDoubles, attributeMaps, List.mem_append, List.mem_flatMap, List.mem_cons,
    List.mem_map, List.not_mem_nil, or_false]
  constructor
  · rintro (hx | ⟨e, he, hx⟩ | ⟨l, hl, hx⟩ | hx | hx)
    · exact ⟨_, .inl rfl, hx⟩
    · exact ⟨_, .inr (.inl ⟨e, he, rfl⟩), hx⟩
    · exact ⟨_, .inr (.inr (.inl ⟨l, hl, rfl⟩)), hx⟩
    · exact ⟨_, .inr (.inr (.inr (.inl rfl))), hx⟩
    · exact ⟨_, .inr (.inr (.inr (.inr rfl))), hx⟩
  · rintro ⟨a, rfl | ⟨e, he, rfl⟩ | ⟨l, hl, rfl⟩ | rfl | rfl, hx⟩
    · exact .inl hx
    · exact .inr (.inl ⟨e, he, hx⟩)
    · exact .inr (.inr (.inl ⟨l, hl, hx⟩))
    · exact .inr (.inr (.inr (.inl hx)))
    · exact .inr (.inr (.inr (.inr hx)))

end Maps

namespace Otlp

/-- An item of a request with the resource and the scope that it was reported by. -/
structure Placed (α : Type) where
  resource : Option ResourceMessage
  scope : Option ScopeMessage
  item : α

/-- The items of a request in nesting order. -/
def placed {α : Type} (resources : List (ResourceItems α)) : List (Placed α) :=
  resources.flatMap fun r => r.scopes.flatMap fun s => s.items.map fun x => ⟨r.resource, s.scope, x⟩

/-- The number of items below all resources and scopes of a request. -/
def itemCount {α : Type} (resources : List (ResourceItems α)) : Nat :=
  (resources.map fun r => (r.scopes.map fun s => s.items.length).sum).sum

section Items

variable {α β : Type} {item : Resource → Scope → α → Reported β} {resources : List (ResourceItems α)}

theorem placed_append (a b : List (ResourceItems α)) : placed (a ++ b) = placed a ++ placed b := by
  rw [placed, List.flatMap_append, placed, placed]

/-- Each item is mapped to one record, below the records of its own resource and scope. -/
theorem value_eachItem (item : Resource → Scope → α → Reported β) (resources : List (ResourceItems α)) :
    (eachItem item resources).value = (placed resources).map fun m =>
      (item (resource m.resource).value (scope m.scope).value m.item).value := by
  simp only [eachItem, placed, Reported.value_bind, Reported.value_each, Reported.value_pure, List.flatMap,
    List.map_flatten, List.map_map, Function.comp_def]

theorem length_eachItem (item : Resource → Scope → α → Reported β) (resources : List (ResourceItems α)) :
    (eachItem item resources).value.length = itemCount resources := by
  simp only [value_eachItem, placed, itemCount, List.length_map, List.length_flatMap]

/-- A record is that of an item under the resource and the scope of the item. -/
theorem exists_of_mem_eachItem {y : β} (h : y ∈ (eachItem item resources).value) :
    ∃ r ∈ resources, ∃ s x, y = (item (resource r.resource).value (scope s).value x).value := by
  rw [value_eachItem] at h
  obtain ⟨m, hm, rfl⟩ := List.mem_map.1 h
  obtain ⟨r, hr, hm⟩ := List.mem_flatMap.1 hm
  obtain ⟨s, -, hm⟩ := List.mem_flatMap.1 hm
  obtain ⟨x, -, rfl⟩ := List.mem_map.1 hm
  exact ⟨r, hr, s.scope, x, rfl⟩

end Items

section Typed

/-- Whatever the entries of a message are, their map is a typed one. -/
theorem isTyped_attributes (entries : KeyValues) : (attributes entries).value.IsTyped :=
  AttributeEncoding.isTyped_encode _

theorem isTyped_resource (r : Option ResourceMessage) : (resource r).value.attributes.IsTyped := by
  cases r with
  | none => exact Attributes.isTyped_empty
  | some r => exact isTyped_attributes r.attributes

theorem isTyped_scope (s : Option ScopeMessage) : (scope s).value.attributes.IsTyped := by
  cases s with
  | none => exact Attributes.isTyped_empty
  | some s => exact isTyped_attributes s.attributes

variable {r : Resource} {s : Scope}

theorem isTyped_span (hr : r.attributes.IsTyped) (hs : s.attributes.IsTyped) (m : SpanMessage) :
    ∀ a ∈ (span r s m).value.attributeMaps, a.IsTyped := by
  have hevents : ∀ e ∈ (Reported.each spanEvent m.events).value, e.attributes.IsTyped := by
    rw [Reported.value_each]
    exact List.forall_mem_map.2 fun e _ => isTyped_attributes e.attributes
  have hlinks : ∀ l ∈ (Reported.each spanLink m.links).value, l.attributes.IsTyped := by
    rw [Reported.value_each]
    exact List.forall_mem_map.2 fun l _ => isTyped_attributes l.attributes
  simp only [Span.attributeMaps, List.forall_mem_cons, List.forall_mem_append, List.forall_mem_map]
  exact ⟨isTyped_attributes _, hevents, hlinks, hr, hs, List.forall_mem_nil _⟩

theorem isTyped_log (hr : r.attributes.IsTyped) (hs : s.attributes.IsTyped) (m : LogMessage) :
    ∀ a ∈ (log r s m).value.attributeMaps, a.IsTyped := by
  simp only [Log.attributeMaps, List.forall_mem_cons]
  exact ⟨isTyped_attributes _, hr, hs, List.forall_mem_nil _⟩

private theorem isTyped_exemplars (exemplars : List ExemplarMessage) :
    ∀ e ∈ (Reported.each exemplar exemplars).value, e.filteredAttributes.IsTyped := by
  rw [Reported.value_each]
  exact List.forall_mem_map.2 fun e _ => isTyped_attributes e.attributes

/-- Points of every kind are built from typed maps, their own and those of their exemplars. -/
private theorem isTyped_point (entries : KeyValues) (exemplars : List ExemplarMessage) {p : MetricPoint}
    (hattributes : p.attributes = (attributes entries).value)
    (hexemplars : p.exemplars = (Reported.each exemplar exemplars).value) :
    ∀ a ∈ p.attributeMaps, a.IsTyped := by
  rw [MetricPoint.attributeMaps, hattributes, hexemplars, List.forall_mem_cons, List.forall_mem_map]
  exact ⟨isTyped_attributes entries, isTyped_exemplars exemplars⟩

/-- A series has no points but those that its messages are mapped to. -/
private theorem isTyped_series {α : Type} {kind : MetricKind} {point : α → Reported MetricPoint} {points : List α}
    (h : ∀ x, ∀ a ∈ (point x).value.attributeMaps, a.IsTyped) :
    ∀ p ∈ (series kind point points).value.points, ∀ a ∈ p.attributeMaps, a.IsTyped := by
  intro p hp
  rw [series, Reported.value_bind, DataPoints.pushAll_eq, Reported.value_each] at hp
  obtain ⟨x, -, rfl⟩ := List.mem_map.1 (List.mem_of_mem_filter hp)
  exact h x

theorem isTyped_dataPoints {m : MetricMessage} {d : DataPoints} (h : (dataPoints m).value = some d) :
    ∀ p ∈ d.points, ∀ a ∈ p.attributeMaps, a.IsTyped := by
  unfold dataPoints at h
  split at h
  · obtain rfl := Option.some.inj h
    exact isTyped_series fun p => isTyped_point p.attributes p.exemplars rfl rfl
  · obtain rfl := Option.some.inj h
    exact isTyped_series fun p => isTyped_point p.attributes p.exemplars rfl rfl
  · obtain rfl := Option.some.inj h
    exact isTyped_series fun p => isTyped_point p.attributes p.exemplars rfl rfl
  · obtain rfl := Option.some.inj h
    exact isTyped_series fun p => isTyped_point p.attributes p.exemplars rfl rfl
  · cases h
  · cases h

theorem isTyped_metric (hr : r.attributes.IsTyped) (hs : s.attributes.IsTyped) {received : Int64}
    {m : MetricMessage} {record : Metric} (h : (metric received r s m).value = some record) :
    ∀ a ∈ record.attributeMaps, a.IsTyped := by
  obtain ⟨d, hd, rfl⟩ := Option.map_eq_some_iff.1 h
  rw [Metric.attributeMaps, List.forall_mem_append, List.forall_mem_flatMap]
  refine ⟨isTyped_dataPoints hd, ?_⟩
  simp only [List.forall_mem_cons]
  exact ⟨hr, hs, List.forall_mem_nil _⟩

end Typed

section Requests

theorem isTyped_of_mem_spans {resources : List (ResourceItems SpanMessage)} {s : Span}
    (h : s ∈ (spans resources).value) : ∀ a ∈ s.attributeMaps, a.IsTyped := by
  obtain ⟨r, -, sc, m, rfl⟩ := exists_of_mem_eachItem h
  exact isTyped_span (isTyped_resource r.resource) (isTyped_scope sc) m

theorem isTyped_of_mem_logs {resources : List (ResourceItems LogMessage)} {l : Log}
    (h : l ∈ (logs resources).value) : ∀ a ∈ l.attributeMaps, a.IsTyped := by
  obtain ⟨r, -, sc, m, rfl⟩ := exists_of_mem_eachItem h
  exact isTyped_log (isTyped_resource r.resource) (isTyped_scope sc) m

theorem isTyped_of_mem_metrics {resources : List (ResourceItems MetricMessage)} {received : Int64} {m : Metric}
    (h : m ∈ (metrics resources received).value) : ∀ a ∈ m.attributeMaps, a.IsTyped := by
  rw [metrics, Reported.value_bind] at h
  obtain ⟨record, hrecord, hm⟩ := List.mem_filterMap.1 h
  obtain ⟨r, -, sc, message, rfl⟩ := exists_of_mem_eachItem hrecord
  exact isTyped_metric (isTyped_resource r.resource) (isTyped_scope sc) hm

end Requests

end Otlp
end Telemetry
