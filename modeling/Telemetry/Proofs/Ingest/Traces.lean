import Telemetry.Proofs.Ingest.Records
import Telemetry.Proofs.Store.Reachable
import Telemetry.Service.Handler

/-! Ingested traces are shown as they were mapped. The spans of a request are counted and written, and from then on
a client that asks for a trace is shown what it was shown before and the new spans of the trace. -/
namespace Telemetry

open Json (stored)

/-- A map that can be stored without a loss: no key is empty and every double is finite. -/
structure Attributes.IsStorable (a : Attributes) : Prop where
  key_ne : ∀ e ∈ a.entries, e.1 ≠ ""
  finite : ∀ x ∈ a.doubles, x.isFinite = true

theorem Attributes.IsTyped.isStorable {a : Attributes} (h : a.IsTyped) : a.IsStorable := ⟨h.key_ne, h.isFinite⟩

/-- The spans of an export request have only finite doubles. -/
theorem Otlp.isFinite_of_mem_spans {resources : List (ResourceItems SpanMessage)} {s : Span}
    (h : s ∈ (spans resources).value) : ∀ x ∈ s.doubles, x.isFinite = true := by
  intro x hx
  obtain ⟨a, ha, hx⟩ := Span.mem_doubles_iff.1 hx
  exact (isTyped_of_mem_spans h a ha).isFinite x hx

namespace Store

/-- The spans a client is shown who asks for a trace; none if the trace is not found. -/
def shownSpans (store : Store) (traceID : String) : Except Failure (List Span) :=
  match store.trace false traceID with
  | .ok trace => .ok (trace.spans.map (·.span))
  | .error (.notFound _) => .ok []
  | .error e => .error e

/-- What is shown after a change is what was shown before and the added spans, in any order. A table that cannot be
read stays one. -/
def Gains (before after : Except Failure (List Span)) (added : List Span) : Prop :=
  match before with
  | .ok spans => ∃ shown, after = .ok shown ∧ shown.Perm (spans ++ added)
  | .error e => after = .error e

variable {store : Store}

/-- The spans of the rows of a trace in waterfall order, if all of them can be read. -/
theorem shownSpans_open (h : store.isOpen = true) (traceID : String) :
    store.shownSpans traceID =
      match (store.tables.spans.filter (·.traceID == traceID)).mapM SpanRow.toSpan? with
      | some spans => .ok ((Waterfall.order spans).map (·.1))
      | none => .error (.storage (Operation.getTrace traceID).text) := by
  simp only [shownSpans, trace, check_bind_open h, readAll]
  cases (store.tables.spans.filter (·.traceID == traceID)).mapM SpanRow.toSpan? with
  | none => rfl
  | some spans =>
    cases spans with
    | nil =>
      have hnil : (Waterfall.order []).map (·.1) = [] := (Waterfall.order_perm []).eq_nil
      show Except.ok [] = Except.ok ((Waterfall.order []).map (·.1))
      rw [hnil]
    | cons s rest =>
      show Except.ok _ = Except.ok _
      rw [Waterfall.trace, List.map_map]
      rfl

/-- Spans that come back as they are written are shown from then on, and the others stay. -/
theorem gains_withSpans (h : store.isOpen = true) {spans : List Span} (hspans : ∀ s ∈ spans, s.restored = s)
    (traceID : String) :
    Gains (store.shownSpans traceID) ((store.withSpans spans).shownSpans traceID)
      (spans.filter (·.traceID == traceID)) := by
  have hnew : ((spans.map SpanRow.ofSpan).filter (·.traceID == traceID)).mapM SpanRow.toSpan? =
      some (spans.filter (·.traceID == traceID)) := by
    rw [List.filter_map]
    refine mapM_map_eq_some fun s hs => ?_
    rw [SpanRow.toSpan?_ofSpan, hspans s (List.mem_of_mem_filter hs)]
  have hopen : (store.withSpans spans).isOpen = true := h
  rw [shownSpans_open h, shownSpans_open hopen]
  simp only [withSpans, List.filter_append, List.mapM_append, hnew]
  cases (store.tables.spans.filter (·.traceID == traceID)).mapM SpanRow.toSpan? with
  | none => rfl
  | some before =>
    refine ⟨_, rfl, ?_⟩
    have hafter := Waterfall.order_perm (before ++ spans.filter (·.traceID == traceID))
    exact hafter.trans ((Waterfall.order_perm before).symm.append_right _)

/-- The tables of a store that can come about can be read. -/
theorem Reachable.exists_shownSpans {W : Written → Prop} (h : Reachable W store) (hopen : store.isOpen = true)
    (traceID : String) : ∃ spans, store.shownSpans traceID = .ok spans := by
  obtain ⟨r, hrep, -⟩ := h.exists_represents hopen
  have hanswer : answered .trace (store.trace false traceID) = Records.trace .restored r.spans traceID :=
    (perform_refines hrep (.trace traceID)).1
  unfold shownSpans
  cases hread : store.trace false traceID with
  | ok trace => exact ⟨_, rfl⟩
  | error e =>
    simp only [hread, answered, Records.trace] at hanswer
    split at hanswer
    · obtain rfl := Answer.failed.inj hanswer
      exact ⟨_, rfl⟩
    · cases hanswer

end Store

namespace Service

open Store (Gains Reachable)

/-- The spans of a request are counted and appended as they are mapped. -/
theorem ingestTraces_open {store : Store} (h : store.isOpen = true) {token : Token} (htoken : token 0 = false)
    (resources : List (Otlp.ResourceItems Otlp.SpanMessage)) :
    (ingestTraces store token resources).value =
      .ok (Otlp.itemCount resources, store.withSpans (Otlp.spans resources).value) := by
  rw [ingestTraces, Reported.value_bind, Reported.value_pure, Store.addSpans_open h, htoken,
    ← Otlp.length_eachItem Otlp.span]
  rfl

/-- Every attribute map of the spans, logs and metrics of a request can be stored without a loss. So, where finite
doubles are read back from their stored text, the spans of a request are shown as they were mapped, next to those
that were shown before. -/
theorem ingest_exact (received : Int64) (spans : List (Otlp.ResourceItems Otlp.SpanMessage))
    (logs : List (Otlp.ResourceItems Otlp.LogMessage)) (metrics : List (Otlp.ResourceItems Otlp.MetricMessage)) :
    (∀ s ∈ (Otlp.spans spans).value, ∀ a ∈ s.attributeMaps, a.IsStorable) ∧
      (∀ l ∈ (Otlp.logs logs).value, ∀ a ∈ l.attributeMaps, a.IsStorable) ∧
        (∀ m ∈ (Otlp.metrics metrics received).value, ∀ a ∈ m.attributeMaps, a.IsStorable) ∧
          ((∀ s ∈ (Otlp.spans spans).value, ∀ x ∈ s.doubles, x.isFinite = true → stored x = x) →
            ∀ (store : Store) (token : Token), store.isOpen = true → token 0 = false →
              ∃ next, (ingestTraces store token spans).value = .ok (Otlp.itemCount spans, next) ∧
                (∀ traceID, Gains (store.shownSpans traceID) (next.shownSpans traceID)
                  ((Otlp.spans spans).value.filter (·.traceID == traceID))) ∧
                ∀ W, Reachable W store → ∀ traceID, ∃ shown, store.shownSpans traceID = .ok shown) := by
  refine ⟨fun s hs a ha => (Otlp.isTyped_of_mem_spans hs a ha).isStorable,
    fun l hl a ha => (Otlp.isTyped_of_mem_logs hl a ha).isStorable,
    fun m hm a ha => (Otlp.isTyped_of_mem_metrics hm a ha).isStorable, ?_⟩
  intro hstored store token hopen htoken
  have hexact : ∀ s ∈ (Otlp.spans spans).value, s.restored = s := by
    intro s hs
    refine s.restored_eq_self_iff.2 fun x hx => ?_
    exact hstored s hs x hx (Otlp.isFinite_of_mem_spans hs x hx)
  exact ⟨_, ingestTraces_open hopen htoken spans, Store.gains_withSpans hopen hexact,
    fun _ hreachable => hreachable.exists_shownSpans hopen⟩

/-- One span under a resource whose attributes nest, repeat a key, leave one empty and hold doubles that are not
finite. -/
def nestedRequest : List (Otlp.ResourceItems Otlp.SpanMessage) :=
  [{ resource := some {
      attributes := [("", .string "a"), ("k", .double Decimal.nan), ("h", .double 0.5), ("u", .unset),
        ("k", .array [.double Decimal.nan, .map [("b", .bytes [1, 255]), ("", .array [.double Decimal.nan])]])]
      droppedAttributesCount := 0 }
     scopes := [{
      scope := none
      items := [{
        traceID := [1], spanID := [2], parentSpanID := [], traceState := "", name := "s", kind := 1
        startTime := 1, endTime := 2
        attributes := [("l", .array [.double 0.5, .int 3])]
        events := [], links := [], status := none
        droppedAttributesCount := 0, droppedEventsCount := 0, droppedLinksCount := 0 }] }] }]

/-- The id of a span and the keys of its resource. -/
def keyedOrigin (s : Span) : String × List String := (s.spanID, s.resource.attributes.entries.map Prod.fst)

/-- The doubles that are left in the span, one half and three, are read back. The span is shown under three of the four
keys of its resource, which is all but the empty one. -/
theorem ingest_exact_nested :
    (∀ s ∈ (Otlp.spans nestedRequest).value, ∀ x ∈ s.doubles, x.isFinite = true → stored x = x) ∧
      Store.fresh.isOpen = true ∧ Token.live 0 = false ∧
        ∃ next, (ingestTraces .fresh .live nestedRequest).value = .ok (1, next) ∧
          (∀ traceID, Gains (Store.fresh.shownSpans traceID) (next.shownSpans traceID)
            ((Otlp.spans nestedRequest).value.filter (·.traceID == traceID))) ∧
            ∃ shown, next.shownSpans "01" = .ok shown ∧ shown.map keyedOrigin = [("02", ["h", "k", "u"])] := by
  have hstored : ∀ s ∈ (Otlp.spans nestedRequest).value, ∀ x ∈ s.doubles, x.isFinite = true → stored x = x := by
    decide +kernel
  obtain ⟨-, -, -, hspans⟩ := ingest_exact 0 nestedRequest [] []
  obtain ⟨next, hnext, hgains, -⟩ := hspans hstored .fresh .live rfl rfl
  have hkeyed : ((Otlp.spans nestedRequest).value.filter (·.traceID == "01")).map keyedOrigin =
      [("02", ["h", "k", "u"])] := by
    decide +kernel
  have hfresh : Store.fresh.shownSpans "01" = .ok [] := rfl
  obtain ⟨shown, hshown, hperm⟩ := hfresh ▸ hgains "01"
  have hmapped := hperm.map keyedOrigin
  rw [List.nil_append, hkeyed] at hmapped
  exact ⟨hstored, rfl, rfl, next, hnext, hgains, shown, hshown, List.perm_singleton.1 hmapped⟩

end Service
end Telemetry
