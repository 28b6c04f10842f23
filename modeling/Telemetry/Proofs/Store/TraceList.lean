import Telemetry.Proofs.Sorting
import Telemetry.Proofs.Store.Reachable
import Telemetry.Proofs.Waterfall.First

/-! The trace list says of each trace what the trace itself shows. -/
namespace Telemetry

namespace Span

theorem precedes_restored (a b : Span) : a.restored.precedes b.restored = a.precedes b := rfl

/-- Roots lead before all others, and otherwise spans lead as they start. -/
theorem leads_eq (a b : Span) :
    a.leads b = ((a.isRoot && !b.isRoot) || (a.isRoot == b.isRoot && a.precedes b)) := by
  unfold leads precedes
  cases a.isRoot <;> cases b.isRoot <;> by_cases h : a.startTime = b.startTime <;> simp [h]

theorem leads_trans (a b c : Span) (hab : a.leads b = true) (hbc : b.leads c = true) :
    a.leads c = true := by
  have htrans := precedes_trans a b c
  simp only [leads_eq] at hab hbc ⊢
  grind

theorem leads_total (a b : Span) : (a.leads b || b.leads a) = true := by
  have htotal := precedes_total a b
  rw [Bool.or_eq_true] at htotal
  simp only [leads_eq]
  cases a.isRoot <;> cases b.isRoot <;> simp [htotal]

/-- The leading span of a list, if it is a root, is the first of the roots. -/
theorem leader_isRoot (spans : List Span) :
    (spans.mergeSort leads).head?.filter (·.isRoot) =
      ((spans.filter (·.isRoot)).mergeSort precedes).head? := by
  induction spans with
  | nil => simp
  | cons a rest ih =>
    rw [head?_mergeSort_cons leads_trans leads_total]
    cases ha : a.isRoot with
    | false =>
      rw [List.filter_cons_of_neg (by simp [ha]), ← ih]
      cases (rest.mergeSort leads).head? with
      | none => simp [ha]
      | some b =>
        cases hb : b.isRoot with
        | true => simp [leads_eq, ha, hb]
        | false =>
          have hnone : (if a.leads b then a else b).isRoot = false := by split <;> assumption
          simp [Option.filter_some, hnone, hb]
    | true =>
      rw [List.filter_cons_of_pos ha, head?_mergeSort_cons precedes_trans precedes_total, ← ih]
      cases (rest.mergeSort leads).head? with
      | none => simp [ha]
      | some b =>
        cases hb : b.isRoot with
        | true =>
          have hsome : (if a.precedes b then a else b).isRoot = true := by split <;> assumption
          simp [Option.filter_some, leads_eq, ha, hb, hsome]
        | false => simp [Option.filter_some, leads_eq, ha, hb]

end Span

namespace RootSpan

/-- What a summary shows of a root. -/
def ofSpan (s : Span) : RootSpan where
  serviceName := s.resource.serviceName
  name := s.name
  startTime := s.startTime
  endTime := s.endTime

end RootSpan

namespace Trace

/-- The span of the first node, if it is a root. -/
def root? (t : Trace) : Option Span := (t.spans.head?.map (·.span)).filter (·.isRoot)

/-- The line that lists the trace, going by its nodes. -/
def summary (t : Trace) : TraceSummary where
  traceID := t.traceID
  rootSpan := t.root?.map .ofSpan
  spanCount := .ofNat t.spans.length

/-- The time the trace is listed by: the start of its root, or the earliest start if it has none. -/
def listTime? (t : Trace) : Option Int64 :=
  match t.root? with
  | some s => some s.startTime
  | none => (t.spans.map (·.span.startTime)).min?

/-- Later time first; of equal times the smaller trace id. -/
def ListedBefore (a b : Trace) : Prop :=
  ∃ s t, a.listTime? = some s ∧ b.listTime? = some t ∧ (t < s ∨ (s = t ∧ a.traceID < b.traceID))

end Trace

namespace Store

/-- The traces of a store in the order of the trace list. -/
structure ListsTraces (store : Store) (traces : List Trace) : Prop where
  /-- Listed are the traces that have a span. -/
  complete : ∀ id, id ∈ traces.map (·.traceID) ↔ id ∈ store.tables.spans.map (·.traceID)
  /-- No trace is listed twice. -/
  once : (traces.map (·.traceID)).Nodup
  /-- Each is what is read under its id. -/
  shown : ∀ t ∈ traces, store.trace false t.traceID = .ok t
  /-- Only a trace without roots begins with a span that is none. -/
  rootless : ∀ t ∈ traces, t.root? = none → ∀ n ∈ t.spans, n.span.isRoot = false
  ordered : traces.Pairwise Trace.ListedBefore

end Store

namespace Waterfall

/-- The waterfall of the spans of a trace as they are read back. -/
def restoredTrace (traceID : String) (spans : List Span) : Trace := trace traceID (spans.map Span.restored)

variable {traceID : String} {spans : List Span}

theorem length_restoredTrace : (restoredTrace traceID spans).spans.length = spans.length := by
  have hperm := (order_perm (spans.map Span.restored)).length_eq
  simpa [restoredTrace, trace] using hperm

theorem min?_restoredTrace :
    ((restoredTrace traceID spans).spans.map (·.span.startTime)).min? = (spans.map (·.startTime)).min? := by
  have hperm : ((restoredTrace traceID spans).spans.map (·.span.startTime)).Perm
      (spans.map (·.startTime)) := by
    have hstart := (order_perm (spans.map Span.restored)).map (·.startTime)
    rw [List.map_map, List.map_map] at hstart
    rw [restoredTrace, trace, List.map_map]
    exact hstart
  ext m
  rw [List.min?_eq_some_iff, List.min?_eq_some_iff]
  simp only [hperm.mem_iff]

private theorem root?_eq :
    (restoredTrace traceID spans).root? =
      (((spans.map Span.restored).filter (·.isRoot)).mergeSort Span.precedes).head? := by
  rw [← first_isRoot]
  simp only [Trace.root?, restoredTrace, trace, List.head?_map, Option.map_map, Function.comp_def]

/-- The root the waterfall begins with is the leading span. -/
theorem root?_restoredTrace :
    (restoredTrace traceID spans).root? =
      ((spans.mergeSort Span.leads).head?.filter (·.isRoot)).map Span.restored := by
  have hfilter : (spans.map Span.restored).filter (·.isRoot) =
      (spans.filter (·.isRoot)).map Span.restored := List.filter_map
  have hsort := Store.mergeSort_map (fun a b => (Span.precedes_restored a b).symm)
    (spans.filter (·.isRoot))
  rw [root?_eq, hfilter, hsort, List.head?_map, Span.leader_isRoot]

/-- The waterfall begins with a root if there is one. -/
theorem isRoot_eq_false_of_root? (h : (restoredTrace traceID spans).root? = none) :
    ∀ n ∈ (restoredTrace traceID spans).spans, n.span.isRoot = false := by
  intro n hn
  by_contra hroot
  rw [Bool.not_eq_false] at hroot
  obtain ⟨m, hm, rfl⟩ := List.mem_map.1 hn
  have hmem : m.1 ∈ ((spans.map Span.restored).filter (·.isRoot)).mergeSort Span.precedes :=
    List.mem_mergeSort.2 (List.mem_filter.2 ⟨(order_perm _).mem_iff.1 (List.mem_map_of_mem hm), hroot⟩)
  rw [root?_eq, List.head?_eq_none_iff] at h
  rw [h] at hmem
  exact List.not_mem_nil hmem

end Waterfall

namespace Trace

/-- The entry of the trace list. A trace that is listed has a time. -/
def listing (t : Trace) : Store.Listing := ⟨t.listTime?.getD 0, t.summary⟩

end Trace

namespace Store

theorem Listing.precedes_iff (a b : Listing) :
    a.precedes b = true ↔ LaterFirst (·.time) (·.summary.traceID) a b := by
  simp [precedes, LaterFirst, TimeThenID]

end Store

namespace Records

open Store (Listing)
open Waterfall (restoredTrace)

variable {spans : List Span}

/-- The spans of one trace. -/
def spansOf (spans : List Span) (traceID : String) : List Span := spans.filter (·.traceID == traceID)

/-- What is read of a trace. -/
def traceOf (spans : List Span) (traceID : String) : Trace := restoredTrace traceID (spansOf spans traceID)

theorem spansOf_ne_nil {id : String} (h : id ∈ spans.map (·.traceID)) : spansOf spans id ≠ [] := by
  obtain ⟨s, hs, rfl⟩ := List.mem_map.1 h
  exact List.ne_nil_of_mem (List.mem_filter.2 ⟨hs, beq_self_eq_true _⟩)

/-- A trace that has a span has a leading one, with which its waterfall begins if it is a root. -/
theorem exists_leader {id : String} (h : id ∈ spans.map (·.traceID)) :
    ∃ leader, ((spansOf spans id).mergeSort Span.leads).head? = some leader ∧ leader.traceID = id ∧
      (traceOf spans id).root? = if leader.isRoot then some leader.restored else none := by
  obtain ⟨leader, hleader⟩ : ∃ leader, ((spansOf spans id).mergeSort Span.leads).head? = some leader := by
    rw [← Option.isSome_iff_exists, List.isSome_head?, ne_eq, ← List.length_eq_zero_iff,
      List.length_mergeSort, List.length_eq_zero_iff]
    exact spansOf_ne_nil h
  refine ⟨leader, hleader, ?_, ?_⟩
  · have hmem := List.mem_mergeSort.1 (List.mem_of_head? hleader)
    exact eq_of_beq (List.mem_filter.1 hmem).2
  · rw [traceOf, Waterfall.root?_restoredTrace, hleader, Option.filter_some]
    split <;> rfl

/-- A trace that has a span has an earliest start, in its waterfall as among its spans. -/
theorem exists_earliest {id : String} (h : id ∈ spans.map (·.traceID)) :
    ∃ earliest, ((spansOf spans id).map (·.startTime)).min? = some earliest ∧
      ((traceOf spans id).spans.map (·.span.startTime)).min? = some earliest := by
  obtain ⟨earliest, hearliest⟩ : ∃ m, ((spansOf spans id).map (·.startTime)).min? = some m := by
    rw [← Option.isSome_iff_exists, List.isSome_min?_iff, ne_eq, List.map_eq_nil_iff]
    exact spansOf_ne_nil h
  exact ⟨earliest, hearliest, Waterfall.min?_restoredTrace.trans hearliest⟩

/-- A trace that has a span is listed by its nodes. -/
theorem line?_spansOf {id : String} (h : id ∈ spans.map (·.traceID)) :
    (traceOf spans id).listTime?.isSome ∧
      line? .restored (spansOf spans id) = some (traceOf spans id).listing := by
  obtain ⟨leader, hleader, hid, hroot⟩ := exists_leader h
  obtain ⟨earliest, hearliest, hmin⟩ := exists_earliest h
  have hlength : (traceOf spans id).spans.length = (spansOf spans id).length :=
    Waterfall.length_restoredTrace
  cases hleads : leader.isRoot with
  | true =>
    rw [if_pos hleads] at hroot
    refine ⟨by simp [Trace.listTime?, hroot], ?_⟩
    simp only [line?, hleader, hearliest, Option.bind_eq_bind, Option.bind_some, if_pos hleads,
      Trace.listing, Trace.listTime?, Trace.summary, hroot, hlength, hid]
    rfl
  | false =>
    rw [if_neg (by simp [hleads])] at hroot
    refine ⟨by simp [Trace.listTime?, hroot, hmin], ?_⟩
    simp only [line?, hleader, hearliest, Option.bind_eq_bind, Option.bind_some, hleads, Bool.false_eq_true,
      if_false, Trace.listing, Trace.listTime?, Trace.summary, hroot, hmin, hlength, hid]
    rfl

/-- The traces that have a span. -/
def traceIDs (spans : List Span) : List String := (spans.map (·.traceID)).eraseDups

theorem mem_traceIDs {id : String} : id ∈ traceIDs spans ↔ id ∈ spans.map (·.traceID) := List.mem_eraseDups

/-- What is read of the traces that have a span, in the order of the trace list. -/
def traces (spans : List Span) : List Trace :=
  ((traceIDs spans).map (traceOf spans)).mergeSort fun a b => a.listing.precedes b.listing

theorem mem_traces {t : Trace} : t ∈ traces spans ↔ ∃ id ∈ spans.map (·.traceID), traceOf spans id = t := by
  simp only [traces, List.mem_mergeSort, List.mem_map (f := traceOf spans), mem_traceIDs]

theorem summaries_eq (spans : List Span) : summaries .restored spans = (traces spans).map Trace.summary := by
  have hlines : (traceIDs spans).filterMap (fun id => line? .restored (spansOf spans id)) =
      ((traceIDs spans).map (traceOf spans)).map Trace.listing := by
    rw [List.map_map]
    refine Eq.trans ?_ (congrFun List.filterMap_eq_map _)
    exact List.filterMap_congr fun id hid => (line?_spansOf (mem_traceIDs.1 hid)).2
  have hsort : (((traceIDs spans).map (traceOf spans)).map Trace.listing).mergeSort Listing.precedes =
      (traces spans).map Trace.listing := by
    refine Store.mergeSort_map ?_ _
    exact fun _ _ => rfl
  calc
    summaries .restored spans =
        (((traceIDs spans).filterMap fun id => line? .restored (spansOf spans id)).mergeSort
          Listing.precedes).map (·.summary) := rfl
    _ = (traces spans).map Trace.summary := by
      rw [hlines, hsort, List.map_map]
      rfl

/-- Ids without their repetitions. -/
theorem nodup_eraseDups {α : Type} [DecidableEq α] (xs : List α) : xs.eraseDups.Nodup := by
  induction hn : xs.length using Nat.strong_induction_on generalizing xs with
  | h n ih =>
    cases xs with
    | nil => exact List.nodup_nil
    | cons x rest =>
      rw [List.eraseDups_cons, List.nodup_cons]
      have hlt : (rest.filter (!· == x)).length < n :=
        hn ▸ Nat.lt_succ_of_le (List.length_filter_le _ _)
      refine ⟨fun hx => ?_, ih _ hlt _ rfl⟩
      simpa using (List.mem_filter.1 (List.mem_eraseDups.1 hx)).2

/-- Each trace is listed once. -/
theorem nodup_traces (spans : List Span) : ((traces spans).map (·.traceID)).Nodup := by
  have hperm : ((traces spans).map (·.traceID)).Perm (traceIDs spans) := by
    have hsorted := (List.mergeSort_perm ((traceIDs spans).map (traceOf spans)) fun a b =>
      a.listing.precedes b.listing).map (·.traceID)
    rw [List.map_map] at hsorted
    exact hsorted.trans (.of_eq (List.map_id _))
  exact hperm.nodup_iff.2 (nodup_eraseDups _)

/-- The traces stand in the order of the list, strictly because each is there once. -/
theorem pairwise_traces (spans : List Span) : (traces spans).Pairwise Trace.ListedBefore := by
  have hsorted : (traces spans).Pairwise fun a b => a.listing.precedes b.listing = true := by
    refine List.pairwise_mergeSort ?_ ?_ _
    · exact fun a b c => LaterFirst.trans_of_iff Listing.precedes_iff a.listing b.listing c.listing
    · exact fun a b => LaterFirst.total_of_iff Listing.precedes_iff a.listing b.listing
  have hdistinct : (traces spans).Pairwise fun a b => a.traceID ≠ b.traceID :=
    List.pairwise_map.1 (nodup_traces spans)
  refine (hsorted.and hdistinct).imp_of_mem ?_
  rintro a b ha hb ⟨hprecedes, hne⟩
  have htime (t : Trace) (ht : t ∈ traces spans) : t.listTime? = some t.listing.time := by
    obtain ⟨id, hid, rfl⟩ := mem_traces.1 ht
    obtain ⟨time, htime⟩ := Option.isSome_iff_exists.1 (line?_spansOf hid).1
    rw [Trace.listing, htime]
    rfl
  refine ⟨_, _, htime a ha, htime b hb, ((Listing.precedes_iff _ _).1 hprecedes).imp_right ?_⟩
  rintro ⟨heq, hle⟩
  exact ⟨heq, Std.lt_of_le_of_ne hle hne⟩

end Records

namespace Store

variable {W : Written → Prop} {store : Store} {r : Records}

theorem Represents.trace_eq (h : store.Represents r) {id : String} (hid : id ∈ r.spans.map (·.traceID)) :
    store.trace false id = .ok (Records.traceOf r.spans id) := by
  refine eq_ok_of_answered (fun _ _ => Answer.trace.inj) (fun _ _ => Answer.noConfusion) ?_
  refine (perform_refines h (.trace id)).1.trans ?_
  have hne : ¬(Records.spansOf r.spans id).isEmpty = true := by
    rw [List.isEmpty_iff]
    exact Records.spansOf_ne_nil hid
  exact if_neg hne

theorem Represents.traceSummaries_eq (h : store.Represents r) :
    store.traceSummaries false = .ok ((Records.traces r.spans).map Trace.summary) := by
  refine eq_ok_of_answered (fun _ _ => Answer.summaries.inj) (fun _ _ => Answer.noConfusion) ?_
  refine (perform_refines h .traceSummaries).1.trans ?_
  exact congrArg Answer.summaries (Records.summaries_eq r.spans)

/-- The trace list of every open store that can come about has one line for each of its traces, which says of
the trace what its own nodes show. -/
theorem exists_listsTraces (h : Reachable W store) (hopen : store.isOpen = true) :
    ∃ traces : List Trace,
      store.traceSummaries false = .ok (traces.map Trace.summary) ∧ store.ListsTraces traces := by
  obtain ⟨r, hrep, -⟩ := h.exists_represents hopen
  have hids : store.tables.spans.map (·.traceID) = r.spans.map (·.traceID) := by
    rw [hrep.spans, List.map_map]
    rfl
  refine ⟨Records.traces r.spans, hrep.traceSummaries_eq, ?_, Records.nodup_traces r.spans, ?_, ?_,
    Records.pairwise_traces r.spans⟩
  · intro id
    rw [hids, List.mem_map]
    simp only [Records.mem_traces]
    constructor
    · rintro ⟨_, ⟨id, hid, rfl⟩, rfl⟩
      exact hid
    · exact fun hid => ⟨_, ⟨id, hid, rfl⟩, rfl⟩
  · intro t ht
    obtain ⟨id, hid, rfl⟩ := Records.mem_traces.1 ht
    exact hrep.trace_eq hid
  · intro t ht
    obtain ⟨id, -, rfl⟩ := Records.mem_traces.1 ht
    exact Waterfall.isRoot_eq_false_of_root?

/-- A store whose spans make up a trace with two roots that start together, and one without a root. -/
def twoTraces : Store :=
  (fresh.perform (.addSpans [
    { Span.empty with traceID := "b", spanID := "s", name := "first" },
    { Span.empty with traceID := "a", parentSpanID := "x" },
    { Span.empty with traceID := "b", spanID := "s", name := "second" }])).2

/-- Both traces are listed, and the first root for the one that has two. -/
theorem exists_listsTraces_two :
    Reachable (fun _ => True) twoTraces ∧ twoTraces.isOpen = true ∧
      ∃ traces : List Trace,
        twoTraces.traceSummaries false = .ok (traces.map Trace.summary) ∧ twoTraces.ListsTraces traces :=
  have hreachable : Reachable (fun _ => True) twoTraces := .perform (reachable_fresh _) _ fun _ _ => trivial
  ⟨hreachable, rfl, exists_listsTraces hreachable rfl⟩

end Store
end Telemetry
