import Telemetry.Proofs.Waterfall.First
import Telemetry.Proofs.Waterfall.Placement

/-! The waterfall as a recursion over trees: a span is followed by what hangs below each of its children in turn. The
walk over a stack lays out the same list. Only spans from which following parents never ends are in no tree of a root
or an orphan, and the recursion leaves them out. -/
namespace Telemetry.Waterfall

section Recursion

/-- The positions of the spans with a property, by start and id; spans that are equal in both as they are given. -/
def orderedWhere (spans : List Span) (p : Span → Bool) : List Nat :=
  ((spans.zipIdx.filter (p ·.1)).mergeSort fun x y => x.1.precedes y.1).map (·.2)

/-- The position of the parent of a span: that of the last span with its parent id, unless that id is empty. -/
def parentPosition? (spans : List Span) (s : Span) : Option Nat :=
  if s.parentSpanID = "" then none
  else ((spans.zipIdx.filter (·.1.spanID == s.parentSpanID)).getLast?).map (·.2)

/-- The list gives the spans at the positions one after the other, each at its depth and followed in the same way by
its children at a depth one more. -/
inductive InPreorder (spans : List Span) : List (Nat × Nat) → List (Span × Nat) → Prop
  | nil : InPreorder spans [] []
  | cons {i depth : Nat} {s : Span} {rest : List (Nat × Nat)} {below behind : List (Span × Nat)}
      (hs : spans[i]? = some s)
      (hbelow : InPreorder spans
        ((orderedWhere spans fun k => parentPosition? spans k == some i).map (·, depth + 1)) below)
      (hbehind : InPreorder spans rest behind) :
      InPreorder spans ((i, depth) :: rest) ((s, depth) :: (below ++ behind))

/-- Each root and then each orphan with all that hangs below it. -/
def IsRecursiveOrder (spans : List Span) (out : List (Span × Nat)) : Prop :=
  InPreorder spans ((orderedWhere spans (·.isRoot) ++ orderedWhere spans (isOrphan spans)).map (·, 0)) out

end Recursion

variable {spans : List Span}

section Positions

theorem parentPosition?_eq (spans : List Span) (s : Span) (i : Nat) :
    parentPosition? spans s = (entry spans s i).parent := by
  have hlast : (spans.zipIdx.filter (·.1.spanID == s.parentSpanID)).getLast? =
      spans.zipIdx.reverse.find? (·.1.spanID == s.parentSpanID) := by
    rw [List.getLast?_eq_head?_reverse, ← List.filter_reverse, List.head?_filter]
  simp only [parentPosition?, entry, lastPosition?, hlast, Span.isRoot, String.isEmpty_iff]

/-- A property of spans chooses the positions that the same property of their entries chooses. -/
theorem orderedWhere_eq {p : Span → Bool} {q : Entry → Bool}
    (hpq : ∀ s i, q (entry spans s i) = p s) :
    orderedWhere spans p = sortedPositions ((entries spans).filter q) := by
  let toEntry (x : Span × Nat) : Entry := entry spans x.1 x.2
  have hfilter : (entries spans).filter q = (spans.zipIdx.filter (p ·.1)).map toEntry := by
    have hentries : entries spans = spans.zipIdx.map toEntry := rfl
    rw [hentries, List.filter_map]
    exact congrArg _ (List.filter_congr fun x _ => hpq x.1 x.2)
  have hsort : ((spans.zipIdx.filter (p ·.1)).map toEntry).mergeSort precedes =
      ((spans.zipIdx.filter (p ·.1)).mergeSort fun x y => x.1.precedes y.1).map toEntry :=
    (List.map_mergeSort (f := toEntry) fun _ _ _ _ => rfl).symm
  rw [sortedPositions, hfilter, hsort, List.map_map]
  rfl

theorem orderedWhere_children (spans : List Span) (i : Nat) :
    (orderedWhere spans fun k => parentPosition? spans k == some i) = children (entries spans) i :=
  orderedWhere_eq fun s k => by rw [parentPosition?_eq spans s k]

theorem orderedWhere_starts (spans : List Span) :
    orderedWhere spans (·.isRoot) ++ orderedWhere spans (isOrphan spans) = firstStarts spans :=
  congr (congrArg _ (orderedWhere_eq fun _ _ => rfl)) (orderedWhere_eq (entry_isOrphan spans))

end Positions

namespace InPreorder

variable {xs ys : List (Nat × Nat)} {out out' : List (Span × Nat)}

/-- There is one such list at most. -/
theorem unique (h : InPreorder spans xs out) (h' : InPreorder spans xs out') : out = out' := by
  induction h generalizing out' with
  | nil =>
    cases h'
    rfl
  | cons hs _ _ ihbelow ihbehind =>
    cases h' with
    | cons hs' hbelow' hbehind' =>
      obtain rfl := Option.some.inj (hs.symm.trans hs')
      rw [ihbelow hbelow', ihbehind hbehind']

/-- What comes of some positions is a part of what comes of more. -/
theorem exists_append (h : InPreorder spans (xs ++ ys) out) :
    ∃ front back, out = front ++ back ∧ InPreorder spans xs front ∧ InPreorder spans ys back := by
  induction xs generalizing out with
  | nil => exact ⟨[], out, rfl, .nil, h⟩
  | cons x xs ih =>
    cases h with
    | cons hs hbelow hbehind =>
      obtain ⟨front, back, rfl, hfront, hback⟩ := ih hbehind
      refine ⟨_, back, ?_, .cons hs hbelow hfront, hback⟩
      rw [List.cons_append, List.append_assoc]

end InPreorder

section Simulation

/-- What a stack must be so that the walk does what the recursion does: each position on it is still to be visited,
and only from there. -/
structure Pending (spans : List Span) (stack : List (Nat × Nat)) (remaining : List Nat) : Prop where
  nodup : (stack.map (·.1)).Nodup
  remains : ∀ x ∈ stack, x.1 ∈ remaining
  below_remains : ∀ i ∈ remaining, ∀ k ∈ children (entries spans) i, k ∈ remaining
  not_below : ∀ x ∈ stack, ∀ i ∈ remaining, x.1 ∉ children (entries spans) i

variable {stack : List (Nat × Nat)} {remaining : List Nat} {i depth : Nat}

/-- Once a position is visited, its children are to be visited, and only from the stack. -/
theorem Pending.visit (h : Pending spans ((i, depth) :: stack) remaining) (hr : remaining.Nodup) :
    Pending spans ((children (entries spans) i).map (·, depth + 1) ++ stack) (remaining.erase i) := by
  obtain ⟨hnodup, hremains, hbelow, hnot⟩ := h
  obtain ⟨hi, hstack⟩ := List.forall_mem_cons.mp hremains
  obtain ⟨hnoti, hnotstack⟩ := List.forall_mem_cons.mp hnot
  have hkids : ((children (entries spans) i).map (·, depth + 1)).map (·.1) = children (entries spans) i := by
    rw [List.map_map]
    exact List.map_id _
  have hrest : ∀ k ∈ remaining, k ≠ i → k ∈ remaining.erase i := fun k hk hne =>
    (List.mem_erase_of_ne hne).mpr hk
  constructor
  · rw [List.map_append, hkids, List.nodup_append']
    refine ⟨nodup_sortedPositions (nodup_position_filter spans _), (List.nodup_cons.mp hnodup).2, ?_⟩
    intro k hk hmem
    obtain ⟨x, hx, rfl⟩ := List.mem_map.mp hmem
    exact hnotstack x hx i hi hk
  · refine List.forall_mem_append.mpr ⟨List.forall_mem_map.mpr fun k hk => ?_, fun x hx => ?_⟩
    · exact hrest k (hbelow i hi k hk) fun heq => hnoti i hi (heq ▸ hk)
    · refine hrest x.1 (hstack x hx) fun heq => (List.nodup_cons.mp hnodup).1 ?_
      exact heq ▸ List.mem_map.mpr ⟨x, hx, rfl⟩
  · intro j hj k hk
    have hj := List.mem_of_mem_erase hj
    exact hrest k (hbelow j hj k hk) fun heq => hnoti j hj (heq ▸ hk)
  · refine List.forall_mem_append.mpr ⟨List.forall_mem_map.mpr fun k hk j hj hkj => ?_, fun x hx j hj => ?_⟩
    · have hij : j = i := (isParent_iff.mpr hkj).unique (isParent_iff.mpr hk)
      exact hr.not_mem_erase (hij ▸ hj)
    · exact hnotstack x hx j (List.mem_of_mem_erase hj)

/-- The walk gives the positions on the stack one after the other, each followed by what is below it. -/
theorem inPreorder_of_pending (h : Pending spans stack remaining) (hr : remaining.Nodup)
    (hlt : ∀ i ∈ remaining, i < spans.length) :
    InPreorder spans stack ((walk (children (entries spans)) stack remaining).1.map (shown spans)) := by
  fun_induction walk (children (entries spans)) stack remaining with
  | case1 remaining => exact .nil
  | case2 remaining i depth stack hi visited rest he ih =>
    have hvisited := ih (h.visit hr) (hr.erase i) fun j hj => hlt j (List.mem_of_mem_erase hj)
    rw [he] at hvisited
    -- The walk goes on with one stack; the recursion takes the children and what is behind them apart.
    obtain ⟨below, behind, hparts, hbelow, hbehind⟩ := hvisited.exists_append
    rw [← orderedWhere_children] at hbelow
    rw [List.map_cons, hparts]
    exact .cons (getElem?_shown (x := (i, depth)) (hlt i hi)) hbelow hbehind
  -- No position is met a second time, so the set of visited ones skips nothing.
  | case3 remaining i depth stack hi ih => exact absurd (h.remains _ List.mem_cons_self) hi

theorem pending_firstStarts (spans : List Span) :
    Pending spans ((firstStarts spans).map (·, 0)) (List.range spans.length) := by
  have hstarts : ((firstStarts spans).map (·, 0)).map (·.1) = firstStarts spans := by
    rw [List.map_map]
    exact List.map_id _
  have hlt {k : Nat} {s : Span} (hs : spans[k]? = some s) : k ∈ List.range spans.length :=
    List.mem_range.mpr (List.getElem?_eq_some_iff.mp hs).1
  constructor
  · rw [hstarts]
    exact nodup_firstStarts spans
  · refine List.forall_mem_map.mpr fun k hk => ?_
    obtain ⟨s, hs, -⟩ := mem_firstStarts.mp hk
    exact hlt hs
  · intro i _ k hk
    obtain ⟨s, hs, -⟩ := mem_children.mp hk
    exact hlt hs
  · exact List.forall_mem_map.mpr fun k hk i _ hki => (isParent_iff.mpr hki).not_mem_firstStarts hk

/-- The recursion ends on every list, and gives what the first walk visits. -/
theorem isRecursiveOrder_iff {out : List (Span × Nat)} :
    IsRecursiveOrder spans out ↔ out = (firstWalk spans).1.map (shown spans) := by
  have hwalk : IsRecursiveOrder spans ((firstWalk spans).1.map (shown spans)) := by
    rw [IsRecursiveOrder, orderedWhere_starts]
    exact inPreorder_of_pending (pending_firstStarts spans) List.nodup_range fun i hi => List.mem_range.mp hi
  constructor
  · exact fun h => h.unique hwalk
  · rintro rfl
    exact hwalk

end Simulation

/-- The second walk visits nothing exactly if following parents ends everywhere. -/
theorem secondWalk_eq_nil_iff (spans : List Span) :
    (secondWalk spans).1 = [] ↔ ∀ s ∈ spans, Grounded spans s := by
  have hvisits : ((secondWalk spans).1.map (·.1)).Perm (firstWalk spans).2 := by
    have hperm := walk_perm (children (entries spans)) ((secondStarts spans).map (·, 0)) (firstWalk spans).2
    have hend : walk (children (entries spans)) ((secondStarts spans).map (·, 0)) (firstWalk spans).2 =
        secondWalk spans := rfl
    rwa [hend, secondWalk_rest, List.append_nil] at hperm
  have hnil : (secondWalk spans).1 = [] ↔ (firstWalk spans).2 = [] := by
    rw [← List.length_eq_zero_iff, ← List.length_eq_zero_iff, ← hvisits.length_eq, List.length_map]
  rw [hnil, List.eq_nil_iff_forall_not_mem]
  constructor
  · intro h s hs
    obtain ⟨i, hi⟩ := List.getElem?_of_mem hs
    exact (not_mem_firstWalk_rest_iff hi).mp (h i)
  · intro h i hi
    have hs := List.getElem?_eq_getElem (lt_of_mem_firstWalk_rest hi)
    exact (not_mem_firstWalk_rest_iff hs).mpr (h _ (List.mem_of_getElem? hs)) hi

/-- The waterfall is what the recursion gives exactly if following parents ends from every span. -/
theorem order_recursive_iff (spans : List Span) :
    (∀ out, IsRecursiveOrder spans out ↔ out = order spans) ↔ ∀ s ∈ spans, Grounded spans s := by
  have horder : order spans = (firstWalk spans).1.map (shown spans) ++ (secondWalk spans).1.map (shown spans) := by
    rw [order_eq_map, positions_entries, List.map_append]
  have hsame : (∀ out, IsRecursiveOrder spans out ↔ out = order spans) ↔
      (firstWalk spans).1.map (shown spans) = order spans := by
    simp only [isRecursiveOrder_iff]
    exact ⟨fun h => (h _).mp rfl, fun h out => h ▸ Iff.rfl⟩
  rw [hsame, horder, List.self_eq_append_right, List.map_eq_nil_iff]
  exact secondWalk_eq_nil_iff spans

end Telemetry.Waterfall
