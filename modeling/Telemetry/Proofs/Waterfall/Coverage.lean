import Mathlib.Data.List.Nodup
import Mathlib.Data.List.Perm.Subperm
import Telemetry.Proofs.Waterfall.Entries
import Telemetry.Proofs.Waterfall.Walk

/-! Every span is in the waterfall once, whatever the parent links are, and the loops that lay it out end. -/
namespace Telemetry.Waterfall

/-- The roots in order. -/
def rootStarts (spans : List Span) : List Nat :=
  sortedPositions ((entries spans).filter (·.span.isRoot))

/-- The orphans in order. -/
def orphanStarts (spans : List Span) : List Nat :=
  sortedPositions ((entries spans).filter fun e => !e.span.isRoot && e.parent.isNone)

/-- Where the first walk starts. -/
def firstStarts (spans : List Span) : List Nat := rootStarts spans ++ orphanStarts spans

/-- The first walk: what it visits and what it leaves. -/
def firstWalk (spans : List Span) : List (Nat × Nat) × List Nat :=
  walk (children (entries spans)) ((firstStarts spans).map (·, 0)) (List.range spans.length)

/-- What the first walk leaves, in order: where the second walk starts. -/
def secondStarts (spans : List Span) : List Nat :=
  sortedPositions ((entries spans).filter (·.position ∈ (firstWalk spans).2))

/-- The second walk. -/
def secondWalk (spans : List Span) : List (Nat × Nat) × List Nat :=
  walk (children (entries spans)) ((secondStarts spans).map (·, 0)) (firstWalk spans).2

theorem positions_entries (spans : List Span) :
    positions (entries spans) = (firstWalk spans).1 ++ (secondWalk spans).1 := by
  simp only [positions, firstWalk, secondWalk, firstStarts, rootStarts, orphanStarts, secondStarts,
    map_position_entries]
  rfl

theorem mem_firstStarts {spans : List Span} {i : Nat} :
    i ∈ firstStarts spans ↔ ∃ s, spans[i]? = some s ∧ (entry spans s i).parent = none := by
  unfold firstStarts rootStarts orphanStarts
  rw [List.mem_append, mem_sortedPositions, mem_sortedPositions]
  simp only [List.mem_filter, mem_entries]
  constructor
  · rintro (⟨_, ⟨⟨s, i, hs, rfl⟩, hr⟩, rfl⟩ | ⟨_, ⟨⟨s, i, hs, rfl⟩, hp⟩, rfl⟩)
    · refine ⟨s, hs, ?_⟩
      rw [entry_parent_eq_none_iff, parent?_eq_none_iff]
      exact .inl hr
    · exact ⟨s, hs, Option.isNone_iff_eq_none.mp (Bool.and_eq_true_iff.mp hp).2⟩
  · rintro ⟨s, hs, hp⟩
    cases hr : s.isRoot with
    | true => exact .inl ⟨_, ⟨⟨s, i, hs, rfl⟩, hr⟩, rfl⟩
    | false =>
      refine .inr ⟨_, ⟨⟨s, i, hs, rfl⟩, ?_⟩, rfl⟩
      rw [hp]
      simpa [entry] using hr

theorem nodup_firstWalk_rest (spans : List Span) : (firstWalk spans).2.Nodup :=
  (((walk_perm _ _ _).nodup_iff.mpr List.nodup_range).sublist (List.sublist_append_right _ _))

theorem lt_of_mem_firstWalk_rest {spans : List Span} {i : Nat} (h : i ∈ (firstWalk spans).2) :
    i < spans.length :=
  List.mem_range.mp (mem_of_mem_walk_rest _ h)

theorem mem_secondStarts {spans : List Span} {i : Nat} :
    i ∈ secondStarts spans ↔ i ∈ (firstWalk spans).2 := by
  unfold secondStarts
  rw [mem_sortedPositions]
  constructor
  · rintro ⟨e, he, rfl⟩
    simpa using (List.mem_filter.mp he).2
  · intro h
    have hs := List.getElem?_eq_getElem (lt_of_mem_firstWalk_rest h)
    refine ⟨entry spans _ i, List.mem_filter.mpr ⟨mem_entries.mpr ⟨_, i, hs, rfl⟩, ?_⟩, rfl⟩
    exact decide_eq_true h

theorem nodup_firstStarts (spans : List Span) : (firstStarts spans).Nodup := by
  unfold firstStarts rootStarts orphanStarts
  rw [List.nodup_append']
  refine ⟨nodup_sortedPositions (nodup_position_filter spans _),
    nodup_sortedPositions (nodup_position_filter spans _), ?_⟩
  intro i hi hj
  obtain ⟨e, he, rfl⟩ := mem_sortedPositions.mp hi
  obtain ⟨f, hf, hp⟩ := mem_sortedPositions.mp hj
  obtain ⟨he, hr⟩ := List.mem_filter.mp he
  obtain ⟨hf, hq⟩ := List.mem_filter.mp hf
  obtain ⟨s, i, hs, rfl⟩ := mem_entries.mp he
  obtain ⟨t, j, ht, rfl⟩ := mem_entries.mp hf
  obtain rfl : j = i := hp
  obtain rfl : s = t := Option.some.inj (hs.symm.trans ht)
  have hn : s.isRoot = false := by simpa [entry] using (Bool.and_eq_true_iff.mp hq).1
  exact Bool.false_ne_true (hn.symm.trans hr)

theorem nodup_secondStarts (spans : List Span) : (secondStarts spans).Nodup :=
  nodup_sortedPositions (nodup_position_filter spans _)

/-- The second walk leaves nothing. -/
theorem secondWalk_rest (spans : List Span) : (secondWalk spans).2 = [] := by
  rw [List.eq_nil_iff_forall_not_mem]
  intro i hi
  have hm : (i, 0) ∈ (secondStarts spans).map (·, 0) :=
    List.mem_map_of_mem (mem_secondStarts.mpr (mem_of_mem_walk_rest _ hi))
  exact not_mem_rest_of_mem_stack _ (nodup_firstWalk_rest spans) hm hi

/-- Each position is visited once. -/
theorem positions_perm (spans : List Span) :
    ((positions (entries spans)).map (·.1)).Perm (List.range spans.length) := by
  have hfirst : ((firstWalk spans).1.map (·.1) ++ (firstWalk spans).2).Perm (List.range spans.length) :=
    walk_perm _ _ _
  have hsecond : ((secondWalk spans).1.map (·.1) ++ (secondWalk spans).2).Perm (firstWalk spans).2 :=
    walk_perm _ _ _
  rw [secondWalk_rest, List.append_nil] at hsecond
  rw [positions_entries, List.map_append]
  exact (hsecond.append_left _).trans hfirst

theorem lt_of_mem_positions {spans : List Span} {x : Nat × Nat} (h : x ∈ positions (entries spans)) :
    x.1 < spans.length :=
  List.mem_range.mp ((positions_perm spans).mem_iff.mp (List.mem_map_of_mem h))

theorem nodup_positions (spans : List Span) : ((positions (entries spans)).map (·.1)).Nodup :=
  (positions_perm spans).nodup_iff.mpr List.nodup_range

theorem filterMap_getElem?_range (spans : List Span) :
    (List.range spans.length).filterMap (spans[·]?) = spans := by
  induction spans using List.reverseRecOn with
  | nil => rfl
  | append_singleton spans s ih =>
    rw [List.length_append, List.length_singleton, List.range_succ, List.filterMap_append]
    have hinit : (List.range spans.length).filterMap ((spans ++ [s])[·]?) =
        (List.range spans.length).filterMap (spans[·]?) :=
      List.filterMap_congr fun i hi => List.getElem?_append_left (List.mem_range.mp hi)
    rw [hinit, ih]
    simp

theorem map_fst_order (spans : List Span) :
    (order spans).map (·.1) = ((positions (entries spans)).map (·.1)).filterMap (spans[·]?) := by
  unfold order
  rw [List.map_filterMap, List.filterMap_map]
  refine List.filterMap_congr fun x _ => ?_
  simp [Function.comp_def]

/-- A position is the child of at most one other, and a start of the first walk is no child. -/
theorem nodup_starts_and_children (spans : List Span) :
    (firstStarts spans ++
      ((positions (entries spans)).map (·.1)).flatMap (children (entries spans))).Nodup := by
  rw [List.nodup_append']
  refine ⟨nodup_firstStarts spans, List.nodup_flatMap.mpr ⟨fun i _ => ?_, ?_⟩, ?_⟩
  · exact nodup_sortedPositions (nodup_position_filter spans _)
  · refine (nodup_positions spans).imp fun {i j} hne => ?_
    intro k hi hj
    obtain ⟨s, hs, hp⟩ := mem_children.mp hi
    obtain ⟨t, ht, hq⟩ := mem_children.mp hj
    obtain rfl : s = t := Option.some.inj (hs.symm.trans ht)
    exact hne (Option.some.inj (hp.symm.trans hq))
  · intro k hk hc
    obtain ⟨i, _, hi⟩ := List.mem_flatMap.mp hc
    obtain ⟨s, hs, hp⟩ := mem_firstStarts.mp hk
    obtain ⟨t, ht, hq⟩ := mem_children.mp hi
    obtain rfl : s = t := Option.some.inj (hs.symm.trans ht)
    rw [hp] at hq
    cases hq

/-- The walks together push each position at most once, the starts of the second walk apart. -/
theorem length_firstStarts_add_pushes_le (spans : List Span) :
    (firstStarts spans).length +
        pushes (children (entries spans)) ((firstStarts spans).map (·, 0)) (List.range spans.length) +
        pushes (children (entries spans)) ((secondStarts spans).map (·, 0)) (firstWalk spans).2 ≤
      spans.length := by
  have hsub : firstStarts spans ++
      ((positions (entries spans)).map (·.1)).flatMap (children (entries spans)) ⊆
        List.range spans.length := by
    intro k hk
    rw [List.mem_range]
    rcases List.mem_append.mp hk with hk | hk
    · obtain ⟨s, hs, _⟩ := mem_firstStarts.mp hk
      exact (List.getElem?_eq_some_iff.mp hs).1
    · obtain ⟨i, _, hi⟩ := List.mem_flatMap.mp hk
      obtain ⟨s, hs, _⟩ := mem_children.mp hi
      exact (List.getElem?_eq_some_iff.mp hs).1
  have hle := ((nodup_starts_and_children spans).subperm hsub).length_le
  rw [positions_entries] at hle
  simp only [List.length_append, List.map_append, List.flatMap_append, List.length_flatMap,
    List.map_map, List.length_range] at hle
  unfold pushes
  exact (Nat.add_assoc _ _ _).le.trans hle

theorem order_perm (spans : List Span) : ((order spans).map (·.1)).Perm spans := by
  have hp := (positions_perm spans).filterMap (spans[·]?)
  rwa [filterMap_getElem?_range, ← map_fst_order] at hp

/-- Every given span is in the waterfall exactly as often as it was given. The two loops end: together they
pop at most twice as often as there are spans. -/
theorem order_complete (spans : List Span) :
    ((order spans).map (·.1)).Perm spans ∧
      ∃ m n, m + n ≤ 2 * spans.length ∧
        (Loop.step (children (entries spans)))^[m]
            ⟨(firstStarts spans).map (·, 0), List.range spans.length, []⟩ =
          ⟨[], (firstWalk spans).2, (firstWalk spans).1⟩ ∧
        (Loop.step (children (entries spans)))^[n]
            ⟨(secondStarts spans).map (·, 0), (firstWalk spans).2, (firstWalk spans).1⟩ =
          ⟨[], [], positions (entries spans)⟩ := by
  constructor
  · exact order_perm spans
  · have hsecond : (secondStarts spans).length ≤ spans.length := by
      have hs := nodup_secondStarts spans
      have hsub : secondStarts spans ⊆ List.range spans.length := fun i hi =>
        List.mem_range.mpr (lt_of_mem_firstWalk_rest (mem_secondStarts.mp hi))
      simpa using (hs.subperm hsub).length_le
    have hpush := length_firstStarts_add_pushes_le spans
    have hloop := loop_run (children (entries spans)) ((secondStarts spans).map (·, 0))
      (firstWalk spans).2 (firstWalk spans).1
    have hend : walk (children (entries spans)) ((secondStarts spans).map (·, 0)) (firstWalk spans).2 =
        secondWalk spans := rfl
    rw [hend, secondWalk_rest, ← positions_entries] at hloop
    refine ⟨_, _, ?_, loop_run _ _ _ _, hloop⟩
    rw [List.length_map, List.length_map]
    omega

end Telemetry.Waterfall
