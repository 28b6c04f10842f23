import Telemetry.Proofs.Waterfall.Coverage

/-! The first span of a waterfall. If it is a root, it is the first of the roots, also among roots that start
together under one id. -/
namespace Telemetry

/-- Earlier start first; of equal starts the smaller span id. -/
def Span.precedes (a b : Span) : Bool :=
  a.startTime < b.startTime || (a.startTime == b.startTime && a.spanID ≤ b.spanID)

namespace Span

open Waterfall (StartsBefore)

theorem precedes_iff (a b : Span) : a.precedes b = true ↔ StartsBefore a b := by
  simp [precedes, StartsBefore]

theorem precedes_trans (a b c : Span) (hab : a.precedes b = true) (hbc : b.precedes c = true) :
    a.precedes c = true :=
  (precedes_iff a c).2 (((precedes_iff a b).1 hab).trans ((precedes_iff b c).1 hbc))

theorem precedes_total (a b : Span) : (a.precedes b || b.precedes a) = true := by
  rw [Bool.or_eq_true, precedes_iff, precedes_iff]
  exact StartsBefore.total a b

end Span

namespace Waterfall

variable {spans : List Span}

/-- The roots in the order in which the waterfall starts with them. -/
theorem filterMap_rootStarts (spans : List Span) :
    (rootStarts spans).filterMap (spans[·]?) = (spans.filter (·.isRoot)).mergeSort Span.precedes := by
  have hget : ∀ e ∈ ((entries spans).filter (·.span.isRoot)).mergeSort precedes,
      spans[e.position]? = some e.span := by
    intro e he
    obtain ⟨s, i, hs, rfl⟩ := mem_entries.1 (List.mem_of_mem_filter (List.mem_mergeSort.1 he))
    exact hs
  have hfilter : ((entries spans).filter (·.span.isRoot)).map (·.span) = spans.filter (·.isRoot) := by
    have hspans : (entries spans).map (·.span) = spans := by
      rw [entries, List.map_map]
      exact List.zipIdx_map_fst 0 spans
    calc
      _ = ((entries spans).map (·.span)).filter (·.isRoot) := List.filter_map.symm
      _ = spans.filter (·.isRoot) := by rw [hspans]
  calc
    (rootStarts spans).filterMap (spans[·]?) =
        (((entries spans).filter (·.span.isRoot)).mergeSort precedes).filterMap (some ·.span) := by
      rw [rootStarts, sortedPositions, List.filterMap_map]
      exact List.filterMap_congr hget
    _ = (((entries spans).filter (·.span.isRoot)).mergeSort precedes).map (·.span) :=
      congrFun List.filterMap_eq_map' _
    _ = (((entries spans).filter (·.span.isRoot)).map (·.span)).mergeSort Span.precedes :=
      List.map_mergeSort fun _ _ _ _ => rfl
    _ = (spans.filter (·.isRoot)).mergeSort Span.precedes := by rw [hfilter]

private theorem mem_rootStarts {i : Nat} (h : i ∈ rootStarts spans) :
    ∃ s, spans[i]? = some s ∧ s.isRoot = true := by
  obtain ⟨e, he, rfl⟩ := mem_sortedPositions.1 h
  obtain ⟨he, hroot⟩ := List.mem_filter.1 he
  obtain ⟨s, i, hs, rfl⟩ := mem_entries.1 he
  exact ⟨s, hs, hroot⟩

/-- The walk visits first what is on top of the stack. -/
private theorem head?_order {i : Nat} {rest : List Nat} {s : Span} (h : rootStarts spans = i :: rest)
    (hs : spans[i]? = some s) : (order spans).head? = some (s, 0) := by
  have hi : i < spans.length := (List.getElem?_eq_some_iff.1 hs).1
  have hwalk : walk (children (entries spans)) ((i, 0) :: (rest ++ orphanStarts spans).map (·, 0))
      (List.range spans.length) = _ := walk_visit _ (List.mem_range.2 hi)
  rw [order, positions_entries, firstWalk, firstStarts, h, List.cons_append, List.map_cons, hwalk]
  simp [hs]

/-- The first span of a waterfall, if it is a root, is the first of the roots. -/
theorem first_isRoot (spans : List Span) :
    ((order spans).head?.map (·.1)).filter (·.isRoot) =
      ((spans.filter (·.isRoot)).mergeSort Span.precedes).head? := by
  have hroots := filterMap_rootStarts spans
  cases h : rootStarts spans with
  | nil =>
    rw [h, List.filterMap_nil] at hroots
    rw [← hroots, List.head?_nil, Option.filter_eq_none_iff]
    intro s hs hroot
    obtain ⟨n, hn, rfl⟩ := Option.map_eq_some_iff.1 hs
    have hspan : n.1 ∈ spans := (order_perm spans).mem_iff.1 (List.mem_map_of_mem (List.mem_of_head? hn))
    have hmem : n.1 ∈ (spans.filter (·.isRoot)).mergeSort Span.precedes :=
      List.mem_mergeSort.2 (List.mem_filter.2 ⟨hspan, hroot⟩)
    rw [← hroots] at hmem
    exact List.not_mem_nil hmem
  | cons i rest =>
    obtain ⟨s, hs, hroot⟩ := mem_rootStarts (h ▸ List.mem_cons_self : i ∈ rootStarts spans)
    rw [h, List.filterMap_cons_some hs] at hroots
    rw [head?_order h hs, ← hroots]
    simp [hroot]

end Waterfall
end Telemetry
