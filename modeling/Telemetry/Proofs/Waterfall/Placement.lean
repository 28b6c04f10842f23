import Mathlib.Logic.Relation
import Telemetry.Proofs.Waterfall.Contract
import Telemetry.Proofs.Waterfall.Reordering

/-! Where a span with a parent stands in the waterfall. It stands below its parent if following parents from it ends.
If it never ends, the span waits for its ancestors only if one of them comes before it in order; the first in order
among itself and its ancestors starts a tree of its own, whether it lies on a cycle of parents or beside one. -/
namespace Telemetry.Waterfall

variable {spans : List Span} {i j k : Nat}

/-- Whether the span at one position is the parent of the one at another: the last one that has the parent id, which
is not empty. -/
def IsParent (spans : List Span) (j i : Nat) : Prop :=
  ∃ p s, spans[j]? = some p ∧ spans[i]? = some s ∧ s.parentSpanID ≠ "" ∧ p.spanID = s.parentSpanID ∧
    ∀ k q, spans[k]? = some q → q.spanID = s.parentSpanID → k ≤ j

/-- Whether following parents from a position leads to another one. -/
abbrev IsAncestor (spans : List Span) : Nat → Nat → Prop := Relation.TransGen (IsParent spans)

/-- Whether the span at one position comes before the one at another among starts: spans in order, copies of one span
and others that are equal in start and id as they are given. -/
def Leads (spans : List Span) (k i : Nat) : Prop :=
  ∃ s t, spans[k]? = some s ∧ spans[i]? = some t ∧ StartsBefore s t ∧ (StartsBefore t s → k < i)

/-- Whether the waterfall shows the span at one position after the one at another, at a depth one more. -/
def StandsBelow (spans : List Span) (j i : Nat) : Prop :=
  ∃ (m n depth : Nat) (p s : Span), m < n ∧ spans[j]? = some p ∧ spans[i]? = some s ∧
    (positions (entries spans))[m]? = some (j, depth) ∧ (order spans)[m]? = some (p, depth) ∧
      (positions (entries spans))[n]? = some (i, depth + 1) ∧ (order spans)[n]? = some (s, depth + 1)

theorem isParent_iff : IsParent spans j i ↔ i ∈ children (entries spans) j := by
  rw [mem_children]
  constructor
  · rintro ⟨p, s, hp, hs, hne, he, hlast⟩
    have hroot : s.isRoot = false := by simpa [Span.isRoot] using hne
    refine ⟨s, hs, ?_⟩
    simp only [entry, hroot, Bool.false_eq_true, if_false]
    exact lastPosition?_eq_some_iff.mpr ⟨⟨p, hp, he⟩, hlast⟩
  · rintro ⟨s, hs, hparent⟩
    cases hroot : s.isRoot with
    | true => simp [entry, hroot] at hparent
    | false =>
      simp only [entry, hroot, Bool.false_eq_true, if_false] at hparent
      obtain ⟨⟨p, hp, he⟩, hlast⟩ := lastPosition?_eq_some_iff.mp hparent
      exact ⟨p, s, hp, hs, by simpa [Span.isRoot] using hroot, he, hlast⟩

theorem IsParent.unique (hj : IsParent spans j i) (hk : IsParent spans k i) : j = k := by
  obtain ⟨s, hs, hparent⟩ := mem_children.mp (isParent_iff.mp hj)
  obtain ⟨t, ht, hother⟩ := mem_children.mp (isParent_iff.mp hk)
  obtain rfl : s = t := Option.some.inj (hs.symm.trans ht)
  exact Option.some.inj (hparent.symm.trans hother)

theorem IsParent.lt_length (h : IsParent spans j i) : j < spans.length := by
  obtain ⟨p, _, hp, _⟩ := h
  exact (List.getElem?_eq_some_iff.mp hp).1

/-- A span with a parent is no start of the first walk. -/
theorem IsParent.not_mem_firstStarts (h : IsParent spans j i) : i ∉ firstStarts spans := by
  intro hm
  obtain ⟨s, hs, hnone⟩ := mem_firstStarts.mp hm
  obtain ⟨t, ht, hparent⟩ := mem_children.mp (isParent_iff.mp h)
  obtain rfl : s = t := Option.some.inj (hs.symm.trans ht)
  rw [hnone] at hparent
  cases hparent

/-- The parent of a position in words of the spans. -/
theorem parent?_eq_some_of_isParent {s : Span} (h : IsParent spans j i) (hs : spans[i]? = some s) :
    ∃ p, spans[j]? = some p ∧ parent? spans s = some p := by
  obtain ⟨t, ht, hparent⟩ := mem_children.mp (isParent_iff.mp h)
  obtain rfl : s = t := Option.some.inj (hs.symm.trans ht)
  obtain ⟨p, _, hp, _⟩ := h
  have hbind := entry_parent_bind spans s i
  rw [hparent, Option.bind_some, hp] at hbind
  exact ⟨p, hp, hbind.symm⟩

section Order

theorem Leads.asymm (h : Leads spans k i) : ¬ Leads spans i k := by
  rintro ⟨t, s, ht, hs, hts, hik⟩
  obtain ⟨s', t', hs', ht', hst, hki⟩ := h
  obtain rfl : s = s' := Option.some.inj (hs.symm.trans hs')
  obtain rfl : t = t' := Option.some.inj (ht.symm.trans ht')
  exact Nat.lt_asymm (hki hts) (hik hst)

/-- Sorted positions lead each other. -/
theorem pairwise_leads (spans : List Span) (p : Entry → Bool) :
    (sortedPositions ((entries spans).filter p)).Pairwise (Leads spans) := by
  refine List.pairwise_map.mpr ((pairwise_mergeSort_before (pairwise_position_filter spans p)).imp_of_mem ?_)
  intro a b ha hb hab
  obtain ⟨s, i, hs, rfl⟩ := mem_entries.mp (List.mem_of_mem_filter (List.mem_mergeSort.mp ha))
  obtain ⟨t, j, ht, rfl⟩ := mem_entries.mp (List.mem_of_mem_filter (List.mem_mergeSort.mp hb))
  exact ⟨s, t, hs, ht, (precedes_iff _ _).mp hab.1, fun h => hab.2 ((precedes_iff _ _).mpr h)⟩

end Order

section Walks

/-- Whether a position comes after another in a list of visited ones, at a depth one more. -/
private def ComesBelow (visited : List (Nat × Nat)) (j i : Nat) : Prop :=
  ∃ front depth between after, visited = front ++ (j, depth) :: (between ++ (i, depth + 1) :: after)

private theorem ComesBelow.append {visited : List (Nat × Nat)} (h : ComesBelow visited j i)
    (before after : List (Nat × Nat)) : ComesBelow (before ++ (visited ++ after)) j i := by
  obtain ⟨front, depth, between, behind, rfl⟩ := h
  exact ⟨before ++ front, depth, between, behind ++ after, by simp⟩

/-- A walk that does not start with a position visits it below its parent or not at all. -/
private theorem comesBelow_of_mem_walk (h : IsParent spans j i) {starts remaining : List Nat} {depth : Nat}
    (hstart : i ∉ starts)
    (hv : (i, depth) ∈ (walk (children (entries spans)) (starts.map (·, 0)) remaining).1) :
    ComesBelow (walk (children (entries spans)) (starts.map (·, 0)) remaining).1 j i := by
  rcases mem_stack_or_below_of_mem_walk _ hv with hs | ⟨front, k, d, between, after, hc, rfl, hsplit⟩
  · obtain ⟨m, hm, he⟩ := List.mem_map.mp hs
    exact absurd ((Prod.mk.inj he).1 ▸ hm) hstart
  · obtain rfl := h.unique (isParent_iff.mpr hc)
    exact ⟨front, d, between, after, hsplit⟩

private theorem standsBelow_of_comesBelow (h : ComesBelow (positions (entries spans)) j i) :
    StandsBelow spans j i := by
  obtain ⟨front, depth, between, after, hsplit⟩ := h
  have hget (x : Nat × Nat) (hx : x ∈ positions (entries spans)) :
      spans[x.1]? = some (shown spans x).1 := getElem?_shown (lt_of_mem_positions hx)
  have hm : (positions (entries spans))[front.length]? = some (j, depth) := by simp [hsplit]
  have hn : (positions (entries spans))[front.length + 1 + between.length]? = some (i, depth + 1) := by
    rw [hsplit, List.getElem?_append_right (by omega)]
    have hindex : front.length + 1 + between.length - front.length = between.length + 1 := by omega
    rw [hindex, List.getElem?_cons_succ]
    simp
  refine ⟨front.length, front.length + 1 + between.length, depth, _, _, by omega,
    hget _ (List.mem_of_getElem? hm), hget _ (List.mem_of_getElem? hn), hm, ?_, hn, ?_⟩
  · rw [order_eq_map, List.getElem?_map, hm]
    rfl
  · rw [order_eq_map, List.getElem?_map, hn]
    rfl

/-- A position has one depth. -/
private theorem not_standsBelow_of_mem (h : (i, 0) ∈ positions (entries spans)) : ¬ StandsBelow spans j i := by
  rintro ⟨m, n, depth, p, s, -, -, -, -, -, hn, -⟩
  have heq := List.inj_on_of_nodup_map (nodup_positions spans) h (List.mem_of_getElem? hn) rfl
  exact absurd (Prod.mk.inj heq).2 (Nat.succ_ne_zero depth).symm

end Walks

section Waiting

/-- What lies beyond the remaining positions and is closed under children holds all below any position in it. -/
private theorem IsAncestor.not_mem {remaining : List Nat}
    (hclosed : ∀ m ∉ remaining, ∀ n ∈ children (entries spans) m, n ∉ remaining) (h : IsAncestor spans k i)
    (hk : k ∉ remaining) : i ∉ remaining := by
  induction h with
  | single h => exact hclosed _ hk _ (isParent_iff.mp h)
  | tail _ h ih => exact hclosed _ ih _ (isParent_iff.mp h)

private theorem firstWalk_closed (spans : List Span) :
    ∀ m ∉ (firstWalk spans).2, ∀ n ∈ children (entries spans) m, n ∉ (firstWalk spans).2 := by
  refine not_mem_children_of_not_mem_rest _ List.nodup_range fun m hm n hn => ?_
  exact absurd (List.mem_range.mpr (isParent_iff.mpr hn).lt_length) hm

/-- The first walk visits the spans from which following parents ends. -/
theorem not_mem_firstWalk_rest_iff {s : Span} (hs : spans[i]? = some s) :
    i ∉ (firstWalk spans).2 ↔ Grounded spans s := by
  refine ⟨fun hi => ?_, fun h => h.not_mem_firstWalk_rest hs⟩
  have hlt := List.mem_range.mpr (List.getElem?_eq_some_iff.mp hs).1
  obtain ⟨depth, hv⟩ := (mem_walk_or_rest _ _ hlt).resolve_right hi
  refine forall_mem_walk (children (entries spans)) (P := fun i => ∀ s, spans[i]? = some s → Grounded spans s)
    ?_ ?_ _ hv s hs
  · refine List.forall_mem_map.mpr fun m hm t ht => ?_
    obtain ⟨t', ht', hnone⟩ := mem_firstStarts.mp hm
    obtain rfl : t = t' := Option.some.inj (ht.symm.trans ht')
    exact .start ((entry_parent_eq_none_iff spans t m).mp hnone)
  · intro m hm k hk t ht
    obtain ⟨p, hp, hparent⟩ := parent?_eq_some_of_isParent (isParent_iff.mpr hk) ht
    exact .step hparent (hm p hp)

variable {before after : List Nat}

/-- What the second walk leaves of the first one's rest before it comes to a start. -/
private def restBefore (spans : List Span) (before : List Nat) : List Nat :=
  (walk (children (entries spans)) (before.map (·, 0)) (firstWalk spans).2).2

/-- When the second walk comes to a start, the span there has been visited exactly if an ancestor leads it. -/
private theorem not_mem_restBefore_iff (hstarts : secondStarts spans = before ++ i :: after) :
    i ∉ restBefore spans before ↔ ∃ k, IsAncestor spans k i ∧ Leads spans k i := by
  have hnodup : (before ++ i :: after).Nodup := hstarts ▸ nodup_secondStarts spans
  have hleads : (before ++ i :: after).Pairwise (Leads spans) := hstarts ▸ pairwise_leads spans _
  have hrest : i ∈ (firstWalk spans).2 := mem_secondStarts.mp (by rw [hstarts]; simp)
  constructor
  · intro hi
    obtain ⟨depth, hv⟩ := (mem_walk_or_rest _ _ hrest).resolve_right hi
    obtain ⟨k, hk, hki⟩ := forall_mem_walk (children (entries spans))
      (P := fun i => ∃ k ∈ before, Relation.ReflTransGen (IsParent spans) k i)
      (List.forall_mem_map.mpr fun k hk => ⟨k, hk, .refl⟩)
      (fun m ⟨k, hk, hkm⟩ n hn => ⟨k, hk, hkm.tail (isParent_iff.mpr hn)⟩) _ hv
    have hne : i ≠ k := by
      rintro rfl
      exact List.disjoint_of_nodup_append hnodup hk List.mem_cons_self
    refine ⟨k, (Relation.reflTransGen_iff_eq_or_transGen.mp hki).resolve_left hne, ?_⟩
    exact (List.pairwise_append.mp hleads).2.2 k hk i List.mem_cons_self
  · rintro ⟨k, hki, hlead⟩
    have hk : k ∈ (firstWalk spans).2 := by
      by_contra hk
      exact IsAncestor.not_mem (firstWalk_closed spans) hki hk hrest
    have hmem : k ∈ before ++ i :: after := hstarts ▸ mem_secondStarts.mpr hk
    have hbefore : k ∈ before := by
      rcases List.mem_append.mp hmem with hk | hk
      · exact hk
      · rcases List.mem_cons.mp hk with rfl | hk
        · exact absurd hlead hlead.asymm
        · exact absurd hlead ((List.pairwise_cons.mp (List.pairwise_append.mp hleads).2.1).1 k hk).asymm
    refine IsAncestor.not_mem (not_mem_children_of_not_mem_rest _ (nodup_firstWalk_rest spans)
      (firstWalk_closed spans)) hki ?_
    exact not_mem_rest_of_mem_stack _ (nodup_firstWalk_rest spans)
      (List.mem_map_of_mem (f := fun k => (k, 0)) hbefore)

end Waiting

/-- A span with a parent stands below it, at a depth one more, exactly if following parents from the span ends, or if
one of its ancestors leads it. This is so on a cycle of parents, beside one and without any. -/
theorem standsBelow_iff {s : Span} (h : IsParent spans j i) (hs : spans[i]? = some s) :
    StandsBelow spans j i ↔ Grounded spans s ∨ ∃ k, IsAncestor spans k i ∧ Leads spans k i := by
  have hlt := List.mem_range.mpr (List.getElem?_eq_some_iff.mp hs).1
  rw [← not_mem_firstWalk_rest_iff hs]
  by_cases hrest : i ∈ (firstWalk spans).2
  · obtain ⟨before, after, hstarts⟩ := List.append_of_mem (mem_secondStarts.mpr hrest)
    rw [← not_mem_restBefore_iff hstarts]
    have hsecond : positions (entries spans) = (firstWalk spans).1 ++
        ((walk (children (entries spans)) (before.map (·, 0)) (firstWalk spans).2).1 ++
          (walk (children (entries spans)) ((i, 0) :: after.map (·, 0)) (restBefore spans before)).1) := by
      rw [positions_entries, secondWalk, hstarts, List.map_append, walk_append]
      rfl
    by_cases hi : i ∈ restBefore spans before
    · refine iff_of_false (not_standsBelow_of_mem ?_) (by tauto)
      rw [hsecond, walk_visit _ hi]
      simp
    · refine iff_of_true (standsBelow_of_comesBelow ?_) (.inr hi)
      obtain ⟨depth, hv⟩ := (mem_walk_or_rest _ _ hrest).resolve_right hi
      have hbefore : i ∉ before := fun hm =>
        List.disjoint_of_nodup_append (hstarts ▸ nodup_secondStarts spans) hm List.mem_cons_self
      rw [hsecond]
      exact (comesBelow_of_mem_walk h hbefore hv).append _ _
  · refine iff_of_true (standsBelow_of_comesBelow ?_) (.inl hrest)
    obtain ⟨depth, hv⟩ := (mem_walk_or_rest _ _ hlt).resolve_right hrest
    rw [positions_entries]
    exact (comesBelow_of_mem_walk h h.not_mem_firstStarts hv).append [] _

/-- A cycle of two spans and a third one beside it, whose parent is the first. -/
def besideCycle (first second third : Int64) : List Span :=
  [{ Span.empty with spanID := "x", parentSpanID := "y", startTime := first },
    { Span.empty with spanID := "y", parentSpanID := "x", startTime := second },
    { Span.empty with spanID := "z", parentSpanID := "x", startTime := third }]

private theorem isParent_besideCycle (first second third : Int64) :
    IsParent (besideCycle first second third) 0 2 := by
  have hnotEmpty : "x" ≠ "" := by decide
  have hother : "y" ≠ "x" ∧ "z" ≠ "x" := by decide
  refine ⟨_, _, rfl, rfl, hnotEmpty, rfl, fun k q hk hq => ?_⟩
  match k with
  | 0 => exact Nat.le_refl 0
  | 1 =>
    obtain rfl := Option.some.inj hk
    exact absurd hq hother.1
  | 2 =>
    obtain rfl := Option.some.inj hk
    exact absurd hq hother.2
  | _ + 3 => cases hk

/-- The span beside the cycle stands below its parent if that starts earlier. -/
theorem standsBelow_besideCycle :
    let spans := besideCycle 1 2 3
    ∃ s, IsParent spans 0 2 ∧ spans[2]? = some s ∧ StandsBelow spans 0 2 := by
  have hparent := isParent_besideCycle 1 2 3
  have hleads : Leads (besideCycle 1 2 3) 0 2 := ⟨_, _, rfl, rfl, .inl (by decide), fun _ => by decide⟩
  exact ⟨_, hparent, rfl, (standsBelow_iff hparent rfl).2 (.inr ⟨0, .single hparent, hleads⟩)⟩

/-- If the span beside the cycle starts first, it comes before its parent, at depth zero. -/
theorem not_forall_standsBelow :
    ¬∀ spans j i, IsParent spans j i → ¬ IsAncestor spans i i → StandsBelow spans j i := by
  intro h
  have hcycle : ¬ IsAncestor (besideCycle 2 3 1) 2 2 := by
    intro hself
    obtain ⟨i, ⟨p, s, hp, hs, -, hid, -⟩, -⟩ := Relation.TransGen.head'_iff.mp hself
    obtain rfl := Option.some.inj hp
    match i with
    | 0 | 1 | 2 =>
      obtain rfl := Option.some.inj hs
      exact absurd hid (by decide)
    | _ + 3 => cases hs
  have hpositions : positions (entries (besideCycle 2 3 1)) = [(2, 0), (0, 0), (1, 1)] := by cbv
  refine not_standsBelow_of_mem ?_ (h _ 0 2 (isParent_besideCycle 2 3 1) hcycle)
  rw [hpositions]
  exact List.mem_cons_self

end Telemetry.Waterfall
