import Telemetry.Proofs.Storage.Row
import Telemetry.Service.Response

/-! What answers carry, as JSON. A record is read as it was written if its doubles are finite and their reader keeps
them. -/
namespace Telemetry

open Json

variable {f : Float → Float}

/-- The doubles are finite and are read as they are. -/
def Keeps (f : Float → Float) (xs : List Float) : Prop := ∀ x ∈ xs, x.isFinite = true ∧ f x = x

namespace Keeps

variable {xs ys : List Float}

theorem eq_id (h : Keeps f xs) : ∀ x ∈ xs, f x = id x := fun x hx => (h x hx).2

theorem left (h : Keeps f (xs ++ ys)) : Keeps f xs := (List.forall_mem_append.1 h).1

theorem right (h : Keeps f (xs ++ ys)) : Keeps f ys := (List.forall_mem_append.1 h).2

theorem of_mem {α : Type} {doubles : α → List Float} {items : List α} (h : Keeps f (items.flatMap doubles)) {a : α}
    (ha : a ∈ items) : Keeps f (doubles a) :=
  fun x hx => h x (List.mem_flatMap.2 ⟨a, ha, hx⟩)

end Keeps

section Origin

variable (hf : IsReading f)

theorem Attributes.mapDoubles_eq_self {a : Attributes} (h : Keeps f a.doubles) : a.mapDoubles f = a := by
  rw [a.mapDoubles_eq_iff.2 h.eq_id, mapDoubles_id]

include hf

theorem Attributes.recovers_self {a : Attributes} (h : Keeps f a.doubles) : Recovers f decode a.toJson a := by
  have hread := a.recovers hf
  rwa [mapDoubles_eq_self h] at hread

theorem Resource.recovers {r : Resource} (h : Keeps f r.attributes.doubles) : Recovers f decode r.toJson r := by
  refine recovers_record (by simp) fun ho => ?_
  refine (Reads.map Resource.mk ?_).seq ?_
  · exact ho.field (by simp) (Attributes.recovers_self hf h)
  · exact ho.field (by simp) (recovers_uint32 r.droppedAttributesCount)

theorem Scope.recovers {s : Scope} (h : Keeps f s.attributes.doubles) : Recovers f decode s.toJson s := by
  refine recovers_record (by simp) fun ho => ?_
  refine (((Reads.map Scope.mk ?_).seq ?_).seq ?_).seq ?_
  · exact ho.field (by simp) (recovers_string s.name)
  · exact ho.field (by simp) (recovers_string s.version)
  · exact ho.field (by simp) (Attributes.recovers_self hf h)
  · exact ho.field (by simp) (recovers_uint32 s.droppedAttributesCount)

end Origin

theorem Resource.depth_toJson_le (r : Resource) : r.toJson.depth ≤ 4 := by
  have := r.attributes.depth_toJson_le
  simp only [toJson, ofUInt64, depth, membersDepth]
  omega

theorem Scope.depth_toJson_le (s : Scope) : s.toJson.depth ≤ 4 := by
  have := s.attributes.depth_toJson_le
  simp only [toJson, ofUInt64, depth, membersDepth]
  omega

namespace Span

theorem recovers_kind (k : SpanKind) : Recovers f decodeKind (.string k.name) k :=
  recovers_name (by cases k <;> rfl)

theorem recovers_status (c : StatusCode) : Recovers f decodeStatus (.string c.name) c :=
  recovers_name (by cases c <;> rfl)

private theorem recovers_event (hf : IsReading f) {e : SpanEvent} (h : Keeps f e.attributes.doubles) :
    Recovers f SpanEvent.decode e.toJson e := by
  have hread := e.recovers hf
  rwa [SpanEvent.mapDoubles, Attributes.mapDoubles_eq_self h] at hread

private theorem recovers_link (hf : IsReading f) {l : SpanLink} (h : Keeps f l.attributes.doubles) :
    Recovers f SpanLink.decode l.toJson l := by
  have hread := l.recovers hf
  rwa [SpanLink.mapDoubles, Attributes.mapDoubles_eq_self h] at hread

theorem recovers (hf : IsReading f) {s : Span} (h : Keeps f s.doubles) : Recovers f decode s.toJson s := by
  have hattributes := h.left
  have hevents := h.right.left
  have hlinks := h.right.right.left
  have horigin := h.right.right.right
  refine recovers_record (by simp) fun ho => ?_
  refine (((((((((((((((((Reads.map Span.mk ?_).seq ?_).seq ?_).seq ?_).seq ?_).seq ?_).seq ?_).seq ?_).seq
    ?_).seq ?_).seq ?_).seq ?_).seq ?_).seq ?_).seq ?_).seq ?_).seq ?_).seq ?_
  · exact ho.field (by simp) (recovers_string s.traceID)
  · exact ho.field (by simp) (recovers_string s.traceState)
  · exact ho.field (by simp) (recovers_string s.spanID)
  · exact ho.field (by simp) (recovers_string s.parentSpanID)
  · exact ho.field (by simp) (recovers_string s.name)
  · exact ho.field (by simp) (recovers_kind s.kind)
  · exact ho.field (by simp) (recovers_int64Text s.startTime)
  · exact ho.field (by simp) (recovers_int64Text s.endTime)
  · exact ho.field (by simp) (Attributes.recovers_self hf hattributes)
  · exact ho.field (by simp) (recovers_list_self fun e he => recovers_event hf (hevents.of_mem he))
  · exact ho.field (by simp) (recovers_list_self fun l hl => recovers_link hf (hlinks.of_mem hl))
  · exact ho.field (by simp) (Resource.recovers hf horigin.left)
  · exact ho.field (by simp) (Scope.recovers hf horigin.right)
  · exact ho.field (by simp) (recovers_uint32 s.droppedAttributesCount)
  · exact ho.field (by simp) (recovers_uint32 s.droppedEventsCount)
  · exact ho.field (by simp) (recovers_uint32 s.droppedLinksCount)
  · exact ho.field (by simp) (recovers_status s.statusCode)
  · exact ho.field (by simp) (recovers_string s.statusMessage)

theorem depth_toJson_le (s : Span) : s.toJson.depth ≤ 6 := by
  have hattributes := s.attributes.depth_toJson_le
  have hevents : (Json.array (s.events.map SpanEvent.toJson)).depth ≤ 5 :=
    depth_array_map_le fun e _ => e.depth_toJson_le
  have hlinks : (Json.array (s.links.map SpanLink.toJson)).depth ≤ 5 :=
    depth_array_map_le fun l _ => l.depth_toJson_le
  have hresource := s.resource.depth_toJson_le
  have hscope := s.scope.depth_toJson_le
  simp only [depth] at hevents hlinks
  simp only [toJson, ofInt64Text, ofUInt64, depth, membersDepth]
  omega

end Span

namespace Trace

/-- Every double of a trace. -/
def doubles (t : Trace) : List Float := t.spans.flatMap (·.span.doubles)

private theorem recovers_node (hf : IsReading f) {n : SpanNode} (h : Keeps f n.span.doubles) :
    Recovers f SpanNode.decode n.toJson n := by
  refine recovers_record (by simp) fun ho => ?_
  refine (Reads.map SpanNode.mk ?_).seq ?_
  · exact ho.field (by simp) (Span.recovers hf h)
  · exact ho.field (by simp) (recovers_uint64 n.depth)

theorem recovers (hf : IsReading f) {t : Trace} (h : Keeps f t.doubles) : Recovers f decode t.toJson t := by
  refine recovers_record (by simp) fun ho => ?_
  refine (Reads.map Trace.mk ?_).seq ?_
  · exact ho.field (by simp) (recovers_string t.traceID)
  · exact ho.field (by simp) (recovers_list_self fun n hn => recovers_node hf (h.of_mem hn))

private theorem depth_node_le (n : SpanNode) : n.toJson.depth ≤ 7 := by
  have hspan := n.span.depth_toJson_le
  simp only [SpanNode.toJson, ofUInt64, depth, membersDepth]
  omega

theorem depth_toJson_le (t : Trace) : t.toJson.depth ≤ 9 := by
  have hnodes : (Json.array (t.spans.map SpanNode.toJson)).depth ≤ 8 := depth_array_map_le fun n _ => depth_node_le n
  simp only [depth] at hnodes
  simp only [toJson, depth, membersDepth]
  omega

end Trace

namespace TraceSummary

private theorem recovers_root (r : RootSpan) : Recovers f RootSpan.decode r.toJson r := by
  refine recovers_record (by simp) fun ho => ?_
  refine (((Reads.map RootSpan.mk ?_).seq ?_).seq ?_).seq ?_
  · exact ho.field (by simp) (recovers_string r.serviceName)
  · exact ho.field (by simp) (recovers_string r.name)
  · exact ho.field (by simp) (recovers_int64Text r.startTime)
  · exact ho.field (by simp) (recovers_int64Text r.endTime)

theorem recovers (s : TraceSummary) : Recovers f decode s.toJson s := by
  have hnull : ∀ r : RootSpan, r.toJson ≠ .null := fun _ => nofun
  refine recovers_record (by simp) fun ho => ?_
  refine ((Reads.map TraceSummary.mk ?_).seq ?_).seq ?_
  · exact ho.field (by simp) (recovers_string s.traceID)
  · exact ho.field (by simp) (recovers_option hnull fun r _ => recovers_root r)
  · exact ho.field (by simp) (recovers_uint64 s.spanCount)

theorem depth_toJson_le (s : TraceSummary) : s.toJson.depth ≤ 2 := by
  have hroot : ((s.rootSpan.map RootSpan.toJson).getD .null).depth ≤ 1 := by
    cases s.rootSpan with
    | none => exact Nat.zero_le 1
    | some r => exact Nat.le_refl 1
  simp only [toJson, ofUInt64, depth, membersDepth]
  omega

end TraceSummary

namespace Log

private theorem recovers_body (hf : IsReading f) {b : Body} (h : Keeps f b.doubles) :
    Recovers f Body.decode b.toJson b := by
  have hread := b.recovers hf
  rwa [b.mapDoubles_eq_iff.2 h.eq_id, Body.mapDoubles_id] at hread

theorem recovers (hf : IsReading f) {l : Log} (h : Keeps f l.doubles) : Recovers f decode l.toJson l := by
  have hattributes := h.right.left
  have horigin := h.right.right
  have hbody : ∀ b ∈ l.body, Keeps f b.doubles := by
    intro b hb
    have hdoubles : Keeps f (l.body.elim [] Body.doubles) := h.left
    rwa [Option.mem_def.1 hb] at hdoubles
  have hnull : ∀ b : Body, b.toJson ≠ .null := by
    intro b
    cases b <;> nofun
  refine recovers_record (by simp) fun ho => ?_
  refine ((((((((((((Reads.map Log.mk ?_).seq ?_).seq ?_).seq ?_).seq ?_).seq ?_).seq ?_).seq ?_).seq ?_).seq
    ?_).seq ?_).seq ?_).seq ?_
  · exact ho.field (by simp) (recovers_int64Text l.timestamp)
  · exact ho.field (by simp) (recovers_int64Text l.observedTimestamp)
  · exact ho.field (by simp) (recovers_string l.traceID)
  · exact ho.field (by simp) (recovers_string l.spanID)
  · exact ho.field (by simp) (recovers_string l.severityText)
  · exact ho.field (by simp) (recovers_int32 l.severityNumber)
  · exact ho.field (by simp) (recovers_option hnull fun b hb => recovers_body hf (hbody b hb))
  · exact ho.field (by simp) (Resource.recovers hf horigin.left)
  · exact ho.field (by simp) (Scope.recovers hf horigin.right)
  · exact ho.field (by simp) (Attributes.recovers_self hf hattributes)
  · exact ho.field (by simp) (recovers_uint32 l.droppedAttributesCount)
  · exact ho.field (by simp) (recovers_uint32 l.flags)
  · exact ho.field (by simp) (recovers_string l.eventName)

theorem depth_toJson_le (l : Log) : l.toJson.depth ≤ 5 := by
  have hattributes := l.attributes.depth_toJson_le
  have hresource := l.resource.depth_toJson_le
  have hscope := l.scope.depth_toJson_le
  have hbody : ((l.body.map Body.toJson).getD .null).depth ≤ 1 := by
    cases l.body with
    | none => exact Nat.zero_le 1
    | some b => exact b.depth_toJson_le
  simp only [toJson, ofInt64, ofInt64Text, ofUInt64, depth, membersDepth]
  omega

end Log

theorem MetricPoint.recovers_self (hf : IsReading f) {p : MetricPoint} (h : Keeps f p.doubles) :
    Recovers f decode p.toJson p := by
  -- An optional double that is not finite would come back as no value.
  have hoptions : ∀ x ∈ p.options, x.isFinite = true := fun x hx => (h x (mem_doubles_of_mem_options hx)).1
  have hread := p.recovers hf
  rwa [p.carried_eq_mapDoubles_iff.2 ⟨hoptions, h.eq_id⟩, mapDoubles_id] at hread

namespace Metric

private theorem recovers_series (hf : IsReading f) {d : DataPoints}
    (h : Keeps f (d.points.flatMap MetricPoint.doubles)) : Recovers f DataPoints.decode d.toJson d := by
  refine recovers_record (by simp) fun ho => ?_
  refine (Reads.map DataPoints.mk ?_).seq ?_
  · exact ho.field (by simp) (DataPoints.recovers_kind d.kind)
  · exact ho.field (by simp) (recovers_list_self fun p hp => MetricPoint.recovers_self hf (h.of_mem hp))

theorem recovers (hf : IsReading f) {m : Metric} (h : Keeps f m.doubles) : Recovers f decode m.toJson m := by
  have hpoints := h.left
  have horigin := h.right
  refine recovers_record (by simp) fun ho => ?_
  refine ((((((Reads.map Metric.mk ?_).seq ?_).seq ?_).seq ?_).seq ?_).seq ?_).seq ?_
  · exact ho.field (by simp) (recovers_string m.name)
  · exact ho.field (by simp) (recovers_string m.description)
  · exact ho.field (by simp) (recovers_string m.unit)
  · exact ho.field (by simp) (recovers_series hf hpoints)
  · exact ho.field (by simp) (Resource.recovers hf horigin.left)
  · exact ho.field (by simp) (Scope.recovers hf horigin.right)
  · exact ho.field (by simp) (recovers_int64Text m.received)

theorem depth_toJson_le (m : Metric) : m.toJson.depth ≤ 10 := by
  have hpoints : (Json.array (m.dataPoints.points.map MetricPoint.toJson)).depth ≤ 8 :=
    depth_array_map_le fun p _ => p.depth_toJson_le
  have hresource := m.resource.depth_toJson_le
  have hscope := m.scope.depth_toJson_le
  simp only [depth] at hpoints
  simp only [toJson, DataPoints.toJson, ofInt64Text, depth, membersDepth]
  omega

end Metric

namespace SampleData

/-- Every double of the demo telemetry. -/
def doubles (d : SampleData) : List Float :=
  d.spans.flatMap Span.doubles ++ (d.logs.flatMap Log.doubles ++ d.metrics.flatMap Metric.doubles)

theorem recovers (hf : IsReading f) {d : SampleData} (h : Keeps f d.doubles) : Recovers f decode d.toJson d := by
  have hspans := h.left
  have hlogs := h.right.left
  have hmetrics := h.right.right
  refine recovers_record (by simp) fun ho => ?_
  refine ((Reads.map SampleData.mk ?_).seq ?_).seq ?_
  · exact ho.field (by simp) (recovers_list_self fun s hs => Span.recovers hf (hspans.of_mem hs))
  · exact ho.field (by simp) (recovers_list_self fun l hl => Log.recovers hf (hlogs.of_mem hl))
  · exact ho.field (by simp) (recovers_list_self fun m hm => Metric.recovers hf (hmetrics.of_mem hm))

theorem depth_toJson_le (d : SampleData) : d.toJson.depth ≤ 12 := by
  have hspans : (Json.array (d.spans.map Span.toJson)).depth ≤ 7 := depth_array_map_le fun s _ => s.depth_toJson_le
  have hlogs : (Json.array (d.logs.map Log.toJson)).depth ≤ 6 := depth_array_map_le fun l _ => l.depth_toJson_le
  have hmetrics : (Json.array (d.metrics.map Metric.toJson)).depth ≤ 11 :=
    depth_array_map_le fun m _ => m.depth_toJson_le
  simp only [depth] at hspans hlogs hmetrics
  simp only [toJson, depth, membersDepth]
  omega

end SampleData
end Telemetry
