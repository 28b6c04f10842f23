import Telemetry.Proofs.Store.Addressing

/-! When metrics are read back with nothing lost but the kind of the doubles that JSON has no text for. A point keeps
its doubles and its lists of them in their places, NaN for each that is not finite; only an optional sum, minimum or
maximum that is not finite comes back as if it had never been there. -/
namespace Telemetry

open Json (stored)

namespace Metric

/-- The metric with NaN for each double that is not finite. -/
def masked (m : Metric) : Metric := m.mapDoubles mask

/-- A metric whose points are of its kind comes back masked, with no warning, exactly if its finite doubles are read
back and each optional one that is there is finite. -/
theorem comesBack_masked_iff {m : Metric} (huniform : m.IsUniform) :
    Readback.restored.metric m = pure m.masked ↔
      (∀ x ∈ m.options, x.isFinite = true) ∧ ∀ x ∈ m.doubles, x.isFinite = true → stored x = x := by
  rw [readback_eq_pure_iff huniform, masked, restored_eq_mapDoubles_iff huniform]
  simp only [stored_eq_mask_iff]

end Metric

/-- If every item is read without a warning, so is the list. -/
theorem Reported.each_eq_pure {α β : Type} {f : α → Reported β} {g : α → β} {xs : List α}
    (h : ∀ x ∈ xs, f x = pure (g x)) : Reported.each f xs = pure (xs.map g) := by
  induction xs with
  | nil => rfl
  | cons x xs ih =>
    have hxs := ih fun y hy => h y (List.mem_cons_of_mem x hy)
    rw [each, h x List.mem_cons_self, hxs]
    rfl

namespace Store

/-- The metrics of the records are read back masked and without a warning, all of them in their order and the first
one under an id. -/
structure ReadsMasked (store : Store) (r : Records) : Prop where
  metrics : store.metrics false = .ok (pure ((r.metrics.mergeSort Metric.precedes).map Metric.masked))
  metric : ∀ id m, r.metrics.find? (·.id == id) = some m → store.metric false id = .ok (pure m.masked)

variable {store : Store} {r : Records}

/-- If each metric alone comes back masked, a store of them reads so. -/
theorem Represents.readsMasked (h : store.Represents r)
    (hr : ∀ m ∈ r.metrics, Readback.restored.metric m = pure m.masked) : store.ReadsMasked r where
  metrics := by
    rw [h.metrics_eq, Reported.each_eq_pure fun m hm => hr m (List.mem_mergeSort.1 hm)]
  metric := by
    intro id m hm
    rw [h.metric_eq hm, hr m (List.mem_of_find?_eq_some hm)]

/-- A metric that is read masked alone comes back masked. -/
theorem ReadsMasked.comesBack_masked {m : Metric} (h : (holding (.metric m)).ReadsMasked ⟨[], [], [m]⟩) :
    Readback.restored.metric m = pure m.masked := by
  have hfind : [m].find? (·.id == m.id) = some m := List.find?_cons_of_pos (beq_self_eq_true m.id)
  exact Except.ok.inj (((represents_holding_metric m).metric_eq hfind).symm.trans (h.metric m.id m hfind))

/-- Stores of metrics of a class, whose points are of their kind, read them back masked exactly if the finite doubles
of the class are read back from their stored text and its optional doubles are finite where they are there. -/
theorem readsMasked_iff {W : Metric → Prop} :
    (∀ (store : Store) (r : Records), store.Represents r → (∀ m ∈ r.metrics, W m ∧ m.IsUniform) →
        store.ReadsMasked r) ↔
      ∀ m, W m → m.IsUniform →
        (∀ x ∈ m.options, x.isFinite = true) ∧ ∀ x ∈ m.doubles, x.isFinite = true → stored x = x := by
  constructor
  · intro h m hm huniform
    have hmasked := h _ _ (represents_holding_metric m) fun n hn => List.mem_singleton.1 hn ▸ ⟨hm, huniform⟩
    exact (Metric.comesBack_masked_iff huniform).1 hmasked.comesBack_masked
  · intro h store r hrep hr
    refine hrep.readsMasked fun m hm => ?_
    obtain ⟨hW, huniform⟩ := hr m hm
    exact (Metric.comesBack_masked_iff huniform).2 (h m hW huniform)

/-- A histogram with one point, which has an infinite sum. -/
def infiniteSum : Metric :=
  { Metric.empty with
    dataPoints := ⟨.histogram, [.histogram
      { HistogramPoint.empty with sum := some (Decimal.ofSizeBits false Decimal.infinityBits) }]⟩ }

/-- An infinite sum comes back as no sum, in a metric that has no finite double that could be changed. -/
theorem not_forall_readsMasked :
    ¬∀ (store : Store) (r : Records), store.Represents r →
      (∀ m ∈ r.metrics, m.IsUniform ∧ ∀ x ∈ m.doubles, x.isFinite = true → stored x = x) →
        store.ReadsMasked r := by
  intro h
  have hdoubles : infiniteSum.doubles = [Decimal.ofSizeBits false Decimal.infinityBits] := rfl
  have hinfinite : (Decimal.ofSizeBits false Decimal.infinityBits).isFinite = false := by decide +kernel
  have huniform : infiniteSum.IsUniform := by
    intro p hp
    rw [List.mem_singleton.1 hp]
    rfl
  have hstored : ∀ x ∈ infiniteSum.doubles, x.isFinite = true → stored x = x := by
    intro x hx hfinite
    rw [hdoubles, List.mem_singleton] at hx
    rw [hx, hinfinite] at hfinite
    exact absurd hfinite Bool.false_ne_true
  have hmasked := h _ _ (represents_holding_metric infiniteSum) fun m hm =>
    List.mem_singleton.1 hm ▸ ⟨huniform, hstored⟩
  have hoptions := ((Metric.comesBack_masked_iff huniform).1 hmasked.comesBack_masked).1
  have hfinite := hoptions _ (show Decimal.ofSizeBits false Decimal.infinityBits ∈ infiniteSum.options from
    List.mem_singleton_self _)
  rw [hinfinite] at hfinite
  exact Bool.false_ne_true hfinite

end Store
end Telemetry
