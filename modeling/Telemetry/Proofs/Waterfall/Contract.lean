import Telemetry.Proofs.Waterfall.Layout

/-! The contract of the waterfall in words of the spans alone: parents are found by depth, siblings and
starts stand in order. It holds for every list of spans. -/
namespace Telemetry.Waterfall

/-- With `between` standing between them, `p` is the nearest node before `n` at a smaller depth. -/
def IsAbove (p : Span × Nat) (between : List (Span × Nat)) (n : Span × Nat) : Prop :=
  p.2 < n.2 ∧ ∀ m ∈ between, n.2 ≤ m.2

/-- Following parents from a span comes to an end, at a root or at an orphan. -/
inductive Grounded (spans : List Span) : Span → Prop
  | start {s : Span} (h : parent? spans s = none) : Grounded spans s
  | step {s p : Span} (h : parent? spans s = some p) (hp : Grounded spans p) : Grounded spans s

/-- What the depths and the order of nodes say about the spans they show. -/
structure IsWaterfall (spans : List Span) (nodes : List (Span × Nat)) : Prop where
  /-- The first node has depth zero. -/
  head_depth : ∀ n rest, nodes = n :: rest → n.2 = 0
  /-- The nearest earlier node of smaller depth lies one higher and has the parent id of the node. -/
  parent_above : ∀ before n after, nodes = before ++ n :: after → 0 < n.2 →
    ∃ front p between, before = front ++ p :: between ∧ IsAbove p between n ∧
      p.2 + 1 = n.2 ∧ p.1.spanID = n.1.parentSpanID
  /-- Nodes below one node stand in order. -/
  siblings : ∀ front p between n between' n' after,
    nodes = front ++ p :: (between ++ n :: (between' ++ n' :: after)) →
      IsAbove p between n → IsAbove p (between ++ n :: between') n' → StartsBefore n.1 n'.1
  /-- Depth zero have all roots, then all orphans, then spans from which following parents never ends. -/
  starts : ∃ roots orphans cyclic,
    (nodes.filter (·.2 == 0)).map (·.1) = roots ++ orphans ++ cyclic ∧
      roots.Perm (spans.filter (·.isRoot)) ∧ roots.Pairwise StartsBefore ∧
      orphans.Perm (spans.filter (isOrphan spans)) ∧ orphans.Pairwise StartsBefore ∧
      (∀ s ∈ cyclic, s ∈ spans ∧ ¬ Grounded spans s) ∧ cyclic.Pairwise StartsBefore

/-- The span at a position. The default is never reached from a visited position. -/
def shown (spans : List Span) (x : Nat × Nat) : Span × Nat := (spans[x.1]?.getD .empty, x.2)

theorem order_eq_map (spans : List Span) :
    order spans = (positions (entries spans)).map (shown spans) := by
  rw [order, ← List.filterMap_eq_map]
  refine List.filterMap_congr fun x hx => ?_
  have hs := List.getElem?_eq_getElem (lt_of_mem_positions hx)
  simp only [hs, shown, Option.map_some, Option.getD_some, Function.comp_apply]

theorem getElem?_shown {spans : List Span} {x : Nat × Nat} (h : x.1 < spans.length) :
    spans[x.1]? = some (shown spans x).1 := by
  rw [shown, List.getElem?_eq_getElem h, Option.getD_some]

/-- A span from which following parents ends is reached by the first walk. -/
theorem Grounded.not_mem_firstWalk_rest {spans : List Span} {s : Span} (h : Grounded spans s) {i : Nat}
    (hi : spans[i]? = some s) : i ∉ (firstWalk spans).2 := by
  induction h generalizing i with
  | start h =>
    have hm := mem_firstStarts.mpr ⟨_, hi, (entry_parent_eq_none_iff spans _ i).mpr h⟩
    exact not_mem_rest_of_mem_stack _ List.nodup_range
      (List.mem_map_of_mem (f := fun k => (k, 0)) hm)
  | @step s p h hp ih =>
    have hb := entry_parent_bind spans s i
    rw [h] at hb
    obtain ⟨j, hj, hjp⟩ := Option.bind_eq_some_iff.mp hb
    have hlt : j < spans.length := (List.getElem?_eq_some_iff.mp hjp).1
    rcases mem_walk_or_rest (children (entries spans)) ((firstStarts spans).map (·, 0))
      (List.mem_range.mpr hlt) with ⟨depth, hv⟩ | hr
    · exact not_mem_rest_of_mem_children _ List.nodup_range hv (mem_children.mpr ⟨s, hi, hj⟩)
    · exact absurd hr (ih hjp)

/-- Every start of the first walk is laid out at depth zero. -/
theorem firstWalk_laid (spans : List Span) :
    Laid (children (entries spans)) (firstStarts spans) 0 (firstWalk spans).1 := by
  obtain ⟨tops, ht, hl⟩ := walk_laid (children (entries spans)) (firstStarts spans) 0 (List.range spans.length)
  have hsub : firstStarts spans ⊆ tops := by
    intro i hi
    obtain ⟨s, hs, hp⟩ := mem_firstStarts.mp hi
    have hm : (i, 0) ∈ (firstStarts spans).map (·, 0) := List.mem_map_of_mem hi
    have hlt := List.mem_range.mpr (List.getElem?_eq_some_iff.mp hs).1
    rcases mem_walk_or_rest (children (entries spans)) ((firstStarts spans).map (·, 0)) hlt with
      ⟨depth, hv⟩ | hr
    · have hd : depth = 0 := by
        rcases mem_stack_or_children_of_mem_walk _ hv with hv | ⟨j, hj⟩
        · obtain ⟨k, _, hk⟩ := List.mem_map.mp hv
          exact (Prod.mk.inj hk).2.symm
        · obtain ⟨t, ht, hq⟩ := mem_children.mp hj
          obtain rfl : s = t := Option.some.inj (hs.symm.trans ht)
          rw [hp] at hq
          cases hq
      rw [hl.starts_eq]
      exact List.mem_map.mpr ⟨(i, depth), List.mem_filter.mpr ⟨hv, by simp [hd]⟩, rfl⟩
    · exact absurd hr (not_mem_rest_of_mem_stack _ List.nodup_range hm)
  have he := ht.eq_of_length_le ((nodup_firstStarts spans).subperm hsub).length_le
  rw [← he]
  exact hl

/-- The whole list of positions is one forest at depth zero. -/
theorem positions_laid (spans : List Span) :
    ∃ tops, tops.Sublist (secondStarts spans) ∧
      Laid (children (entries spans)) (firstStarts spans ++ tops) 0 (positions (entries spans)) := by
  obtain ⟨tops, ht, hl⟩ := walk_laid (children (entries spans)) (secondStarts spans) 0 (firstWalk spans).2
  refine ⟨tops, ht, ?_⟩
  rw [positions_entries]
  exact (firstWalk_laid spans).append hl

/-- The last element with a property splits a list that has one. -/
private theorem exists_split_last {α : Type} (q : α → Bool) {l : List α} {x : α} (hx : x ∈ l) (hq : q x = true) :
    ∃ front y between, l = front ++ y :: between ∧ q y = true ∧ ∀ m ∈ between, q m = false := by
  obtain ⟨y, hy⟩ := Option.isSome_iff_exists.mp
    (List.find?_isSome.mpr ⟨x, List.mem_reverse.mpr hx, hq⟩ : (l.reverse.find? q).isSome = true)
  obtain ⟨hqy, as, bs, he, hn⟩ := List.find?_eq_some_iff_append.mp hy
  refine ⟨bs.reverse, y, as.reverse, ?_, hqy, fun m hm => ?_⟩
  · rw [← List.reverse_reverse l, he]
    simp
  · simpa using hn m (List.mem_reverse.mp hm)

/-- The spans at sorted positions are the spans with the property the positions were chosen by. -/
private theorem filterMap_sortedPositions_perm {spans : List Span} {p : Entry → Bool} {q : Span → Bool}
    (hpq : ∀ s i, spans[i]? = some s → p (entry spans s i) = q s) :
    ((sortedPositions ((entries spans).filter p)).filterMap (spans[·]?)).Perm (spans.filter q) := by
  have hget : ∀ e ∈ (entries spans).filter p, spans[e.position]? = some e.span := by
    intro e he
    obtain ⟨s, i, hs, rfl⟩ := mem_entries.mp (List.mem_of_mem_filter he)
    exact hs
  have hmap : (entries spans).map (·.span) = spans := by
    rw [entries, List.map_map]
    exact List.zipIdx_map_fst 0 spans
  have hcongr : (entries spans).filter p = (entries spans).filter (q ∘ (·.span)) := by
    refine List.filter_congr fun e he => ?_
    obtain ⟨s, i, hs, rfl⟩ := mem_entries.mp he
    exact hpq s i hs
  have hspans : (((entries spans).filter p).map (·.position)).filterMap (spans[·]?) = spans.filter q := by
    calc
      _ = ((entries spans).filter p).filterMap fun e => some e.span := by
        rw [List.filterMap_map]
        exact List.filterMap_congr hget
      _ = ((entries spans).filter (q ∘ (·.span))).map (·.span) := by
        rw [hcongr]
        exact congrFun List.filterMap_eq_map' _
      _ = spans.filter q := by rw [← List.filter_map, hmap]
  rw [← hspans]
  exact (sortedPositions_perm _).filterMap _

private theorem pairwise_filterMap_inOrder {spans : List Span} {is : List Nat}
    (h : is.Pairwise (InOrder spans)) : (is.filterMap (spans[·]?)).Pairwise StartsBefore :=
  List.pairwise_filterMap.mpr (h.imp fun hab s hs t ht => hab s t hs ht)

private theorem rootStarts_spans (spans : List Span) :
    ((rootStarts spans).filterMap (spans[·]?)).Perm (spans.filter (·.isRoot)) :=
  filterMap_sortedPositions_perm fun _ _ _ => rfl

private theorem orphanStarts_spans (spans : List Span) :
    ((orphanStarts spans).filterMap (spans[·]?)).Perm (spans.filter (isOrphan spans)) :=
  filterMap_sortedPositions_perm fun s i _ => entry_isOrphan spans s i

private theorem starts_of_laid {spans : List Span} {tops : List Nat}
    (hl : Laid (children (entries spans)) (firstStarts spans ++ tops) 0 (positions (entries spans))) :
    ((order spans).filter (·.2 == 0)).map (·.1) =
      (rootStarts spans).filterMap (spans[·]?) ++ (orphanStarts spans).filterMap (spans[·]?) ++
        tops.filterMap (spans[·]?) := by
  have hs : ∀ x ∈ (positions (entries spans)).filter (·.2 == 0), some (shown spans x).1 = spans[x.1]? :=
    fun x hx => (getElem?_shown (lt_of_mem_positions (List.mem_of_mem_filter hx))).symm
  rw [← List.filterMap_append, ← List.filterMap_append, ← firstStarts, hl.starts_eq, List.filterMap_map,
    order_eq_map, List.filter_map, List.map_map, ← List.filterMap_eq_map]
  exact List.filterMap_congr hs

/-- A node of the waterfall shows a visited position, and so do the nodes before and after it. -/
private theorem order_split {spans : List Span} {before after : List (Span × Nat)} {n : Span × Nat}
    (h : order spans = before ++ n :: after) :
    ∃ xs x ys, positions (entries spans) = xs ++ x :: ys ∧
      before = xs.map (shown spans) ∧ n = shown spans x ∧ after = ys.map (shown spans) := by
  rw [order_eq_map] at h
  obtain ⟨xs, zs, hp, hb, hz⟩ := List.map_eq_append_iff.mp h
  obtain ⟨x, ys, rfl, hx, hy⟩ := List.map_eq_cons_iff.mp hz
  exact ⟨xs, x, ys, hp, hb.symm, hx.symm, hy.symm⟩

private theorem order_parent_above {spans : List Span} {before after : List (Span × Nat)} {n : Span × Nat}
    (h : order spans = before ++ n :: after) (hn : 0 < n.2) :
    ∃ front p between, before = front ++ p :: between ∧ IsAbove p between n ∧
      p.2 + 1 = n.2 ∧ p.1.spanID = n.1.parentSpanID := by
  obtain ⟨tops, _, hl⟩ := positions_laid spans
  obtain ⟨xs, x, ys, hp, rfl, rfl, rfl⟩ := order_split h
  -- The first position has depth zero, so something higher than `x` stands before it.
  have hfirst : ∃ y ∈ xs, y.2 < x.2 := by
    cases xs with
    | nil =>
      rw [hp, List.nil_append] at hl
      exact absurd hl.head_depth (Nat.ne_of_gt hn)
    | cons y xs =>
      rw [hp, List.cons_append] at hl
      exact ⟨y, List.mem_cons_self, hl.head_depth ▸ hn⟩
  obtain ⟨y, hy, hyx⟩ := hfirst
  obtain ⟨front, p, between, rfl, hpx, hm⟩ :=
    exists_split_last (fun m => decide (m.2 < x.2)) hy (decide_eq_true hyx)
  replace hpx : p.2 < x.2 := of_decide_eq_true hpx
  replace hm : ∀ m ∈ between, x.2 ≤ m.2 := fun m hb => Nat.le_of_not_lt (of_decide_eq_false (hm m hb))
  rw [List.append_assoc, List.cons_append] at hp
  rw [hp] at hl
  have hmem (z : Nat × Nat) (hz : z ∈ front ++ p :: (between ++ x :: ys)) :
      spans[z.1]? = some (shown spans z).1 := getElem?_shown (lt_of_mem_positions (hp ▸ hz))
  refine ⟨front.map (shown spans), shown spans p, between.map (shown spans), ?_, ⟨hpx, ?_⟩, ?_, ?_⟩
  · rw [List.map_append, List.map_cons]
  · intro m hb
    obtain ⟨z, hz, rfl⟩ := List.mem_map.mp hb
    exact hm z hz
  · exact (hl.subtree_above hpx hm).1.symm
  · exact spanID_eq_of_mem_children (hl.mem_children_above hpx hm) (hmem x (by simp)) (hmem p (by simp))

private theorem order_siblings {spans : List Span} {front between between' after : List (Span × Nat)}
    {p n n' : Span × Nat} (h : order spans = front ++ p :: (between ++ n :: (between' ++ n' :: after)))
    (hn : IsAbove p between n) (hn' : IsAbove p (between ++ n :: between') n') : StartsBefore n.1 n'.1 := by
  obtain ⟨tops, _, hl⟩ := positions_laid spans
  obtain ⟨as, q, bs, hp, rfl, rfl, hbs⟩ := order_split h
  obtain ⟨cs, ds, rfl, rfl, hds⟩ := List.map_eq_append_iff.mp hbs.symm
  obtain ⟨x, es, rfl, rfl, hes⟩ := List.map_eq_cons_iff.mp hds
  obtain ⟨fs, gs, rfl, rfl, hgs⟩ := List.map_eq_append_iff.mp hes
  obtain ⟨x', ys, rfl, rfl, rfl⟩ := List.map_eq_cons_iff.mp hgs
  have hordered (i : Nat) : (children (entries spans) i).Pairwise (InOrder spans) :=
    pairwise_sortedPositions spans _
  rw [hp] at hl
  have hmem (z : Nat × Nat) (hz : z ∈ as ++ q :: (cs ++ x :: (fs ++ x' :: ys))) :
      spans[z.1]? = some (shown spans z).1 := getElem?_shown (lt_of_mem_positions (hp ▸ hz))
  have hin : InOrder spans x.1 x'.1 := by
    refine hl.children_inOrder hordered hn.1 (fun m hm => hn.2 _ (List.mem_map_of_mem hm)) hn'.1 ?_
    intro m hm
    refine hn'.2 (shown spans m) ?_
    rw [← List.map_cons, ← List.map_append]
    exact List.mem_map_of_mem hm
  exact hin _ _ (hmem x (by simp)) (hmem x' (by simp))

private theorem order_starts (spans : List Span) :
    ∃ roots orphans cyclic,
      ((order spans).filter (·.2 == 0)).map (·.1) = roots ++ orphans ++ cyclic ∧
        roots.Perm (spans.filter (·.isRoot)) ∧ roots.Pairwise StartsBefore ∧
        orphans.Perm (spans.filter (isOrphan spans)) ∧ orphans.Pairwise StartsBefore ∧
        (∀ s ∈ cyclic, s ∈ spans ∧ ¬ Grounded spans s) ∧ cyclic.Pairwise StartsBefore := by
  obtain ⟨tops, ht, hl⟩ := positions_laid spans
  refine ⟨_, _, _, starts_of_laid hl, rootStarts_spans spans,
    pairwise_filterMap_inOrder (pairwise_sortedPositions spans _), orphanStarts_spans spans,
    pairwise_filterMap_inOrder (pairwise_sortedPositions spans _), ?_,
    pairwise_filterMap_inOrder ((pairwise_sortedPositions spans _).sublist ht)⟩
  intro s hs
  obtain ⟨i, hi, his⟩ := List.mem_filterMap.mp hs
  refine ⟨List.mem_of_getElem? his, fun hg => hg.not_mem_firstWalk_rest his ?_⟩
  exact mem_secondStarts.mp (ht.subset hi)

/-- The waterfall of any list of spans fulfils the contract. -/
theorem order_isWaterfall (spans : List Span) : IsWaterfall spans (order spans) where
  head_depth n rest h := by
    obtain ⟨tops, _, hl⟩ := positions_laid spans
    have hs : order spans = [] ++ n :: rest := h
    obtain ⟨xs, x, ys, hp, hx, rfl, _⟩ := order_split hs
    rw [hp, List.map_eq_nil_iff.mp hx.symm, List.nil_append] at hl
    exact hl.head_depth
  parent_above _ _ _ := order_parent_above
  siblings _ _ _ _ _ _ _ := order_siblings
  starts := order_starts spans

end Telemetry.Waterfall
