import Mathlib.Data.List.Nodup
import Mathlib.Logic.Equiv.Basic
import Telemetry.Proofs.Waterfall.Coverage

/-! The waterfall does not depend on the order of the spans, as long as spans with one id are identical. A
rearrangement renames the positions; every step of the construction commutes with the renaming. -/
namespace Telemetry.Waterfall

/-- Spans with one id are identical: ids are distinct, or spans came again unchanged. -/
def Consistent (spans : List Span) : Prop :=
  ∀ s ∈ spans, ∀ t ∈ spans, s.spanID = t.spanID → s = t

theorem Consistent.perm {l l' : List Span} (h : Consistent l) (hp : l.Perm l') : Consistent l' :=
  fun s hs t ht he => h s (hp.mem_iff.mpr hs) t (hp.mem_iff.mpr ht) he

/-- Precedence with ties broken by position. -/
def Before (a b : Entry) : Prop :=
  precedes a b = true ∧ (precedes b a = true → a.position < b.position)

/-- Entries stand in the order of their positions. -/
theorem pairwise_position_filter (spans : List Span) (p : Entry → Bool) :
    ((entries spans).filter p).Pairwise (·.position < ·.position) := by
  refine List.Pairwise.filter _ (List.pairwise_map.mp ?_)
  rw [map_position_entries]
  exact List.pairwise_lt_range

/-- Sorting keeps entries that are equal in both keys in the order of their positions. -/
theorem pairwise_mergeSort_before {es : List Entry} (h : es.Pairwise (·.position < ·.position)) :
    (es.mergeSort precedes).Pairwise Before := by
  have hsorted : (es.zipIdx.mergeSort (List.zipIdxLE precedes)).Pairwise
      fun x y => List.zipIdxLE precedes x y = true :=
    List.pairwise_mergeSort (List.zipIdxLE_trans precedes_trans) (List.zipIdxLE_total precedes_total) _
  have hperm : (es.zipIdx.mergeSort (List.zipIdxLE precedes)).Perm es.zipIdx := List.mergeSort_perm _ _
  have hne : (es.zipIdx.mergeSort (List.zipIdxLE precedes)).Pairwise fun x y => x.2 ≠ y.2 := by
    have hnodup : ((es.zipIdx.mergeSort (List.zipIdxLE precedes)).map (·.2)).Nodup := by
      rw [(hperm.map (·.2)).nodup_iff, List.zipIdx_map_snd]
      exact List.nodup_range'
    exact List.pairwise_map.mp hnodup
  rw [← List.mergeSort_zipIdx, List.pairwise_map]
  refine (hsorted.and hne).imp_of_mem ?_
  intro x y hx hy hxy
  have hle := hxy.1
  unfold List.zipIdxLE at hle
  split at hle
  · rename_i hp
    refine ⟨hp, fun hq => ?_⟩
    rw [if_pos hq] at hle
    have hlt : x.2 < y.2 := Nat.lt_of_le_of_ne (of_decide_eq_true hle) hxy.2
    obtain ⟨hix, hex⟩ := List.getElem?_eq_some_iff.mp (List.mem_zipIdx_iff_getElem?.mp (hperm.mem_iff.mp hx))
    obtain ⟨hiy, hey⟩ := List.getElem?_eq_some_iff.mp (List.mem_zipIdx_iff_getElem?.mp (hperm.mem_iff.mp hy))
    have hpos := List.pairwise_iff_getElem.mp h x.2 y.2 hix hiy hlt
    rwa [hex, hey] at hpos
  · cases hle

/-- A renaming of the positions of a list to those of a rearranged one. Copies of one span keep their order. -/
structure Renaming (σ : Nat → Nat) (l l' : List Span) : Prop where
  injective : Function.Injective σ
  perm : l'.zipIdx.Perm (l.zipIdx.map fun x => (x.1, σ x.2))
  stable : ∀ {s i j}, l[i]? = some s → l[j]? = some s → i < j → σ i < σ j

namespace Renaming
variable {σ : Nat → Nat} {l l' : List Span}

theorem getElem?_iff (h : Renaming σ l l') {s : Span} {i : Nat} : l'[σ i]? = some s ↔ l[i]? = some s := by
  rw [← List.mk_mem_zipIdx_iff_getElem?, h.perm.mem_iff, List.mem_map, ← List.mk_mem_zipIdx_iff_getElem?]
  constructor
  · rintro ⟨⟨t, j⟩, hm, he⟩
    simp only [Prod.mk.injEq] at he
    rwa [he.1, h.injective he.2] at hm
  · exact fun hm => ⟨(s, i), hm, rfl⟩

theorem exists_position (h : Renaming σ l l') {s : Span} {k : Nat} (hk : l'[k]? = some s) :
    ∃ i, σ i = k ∧ l[i]? = some s := by
  have hm := h.perm.mem_iff.mp (List.mk_mem_zipIdx_iff_getElem?.mpr hk)
  obtain ⟨⟨t, i⟩, ht, he⟩ := List.mem_map.mp hm
  simp only [Prod.mk.injEq] at he
  exact ⟨i, he.2, he.1 ▸ List.mk_mem_zipIdx_iff_getElem?.mp ht⟩

end Renaming

/-- The position of the last span with an id, by what is at the positions. -/
theorem lastPosition?_eq_some_iff {l : List Span} {id : String} {i : Nat} :
    lastPosition? l.zipIdx id = some i ↔
      (∃ s, l[i]? = some s ∧ s.spanID = id) ∧ ∀ j t, l[j]? = some t → t.spanID = id → j ≤ i := by
  have hlast {k : Nat} (hk : lastPosition? l.zipIdx id = some k) {j : Nat} {t : Span} (ht : l[j]? = some t)
      (he : t.spanID = id) : j ≤ k := by
    obtain ⟨x, hx, rfl⟩ := Option.map_eq_some_iff.mp hk
    obtain ⟨_, as, bs, hsplit, hnot⟩ := List.find?_eq_some_iff_append.mp hx
    have hdesc : l.zipIdx.reverse.Pairwise fun x y => y.2 < x.2 := by
      rw [List.pairwise_reverse]
      refine List.pairwise_map.mp ?_
      rw [List.zipIdx_map_snd]
      exact List.pairwise_lt_range'
    have hm : (t, j) ∈ l.zipIdx.reverse := List.mem_reverse.mpr (List.mk_mem_zipIdx_iff_getElem?.mpr ht)
    rw [hsplit] at hm hdesc
    rcases List.mem_append.mp hm with hm | hm
    · simpa [he] using hnot _ hm
    · rcases List.mem_cons.mp hm with rfl | hm
      · exact Nat.le_refl _
      · exact Nat.le_of_lt (List.rel_of_pairwise_cons (List.pairwise_append.mp hdesc).2.1 hm)
  constructor
  · exact fun h => ⟨getElem?_of_lastPosition? h, fun j t => hlast h⟩
  · rintro ⟨⟨s, hs, he⟩, hmax⟩
    cases hl : lastPosition? l.zipIdx id with
    | none => exact absurd he ((lastPosition?_eq_none_iff l id).mp hl s (List.mem_of_getElem? hs))
    | some k =>
      obtain ⟨t, ht, hte⟩ := getElem?_of_lastPosition? hl
      rw [Nat.le_antisymm (hmax k t ht hte) (hlast hl hs he)]

/-- The entry at the renamed position. -/
def Entry.rename (σ : Nat → Nat) (e : Entry) : Entry := ⟨σ e.position, e.span, e.parent.map σ⟩

/-- The visited positions under their new names. -/
def renameVisited (σ : Nat → Nat) (x : Nat × Nat) : Nat × Nat := (σ x.1, x.2)

/-- A walk over renamed positions visits and leaves the renamed ones. -/
theorem walk_rename {σ : Nat → Nat} (hσ : Function.Injective σ) {children children' : Nat → List Nat}
    (hc : ∀ i, children' (σ i) = (children i).map σ) (stack : List (Nat × Nat)) (remaining : List Nat)
    {remaining' : List Nat} (hr : remaining'.Perm (remaining.map σ)) :
    (walk children' (stack.map (renameVisited σ)) remaining').1 =
        (walk children stack remaining).1.map (renameVisited σ) ∧
      (walk children' (stack.map (renameVisited σ)) remaining').2.Perm
        ((walk children stack remaining).2.map σ) := by
  have hmem {i : Nat} {is is' : List Nat} (h : is'.Perm (is.map σ)) : σ i ∈ is' ↔ i ∈ is := by
    rw [h.mem_iff, List.mem_map_of_injective hσ]
  fun_induction walk children stack remaining generalizing remaining' with
  | case1 remaining =>
    rw [List.map_nil, walk_nil]
    exact ⟨rfl, hr⟩
  | case2 remaining i depth stack h visited rest he ih =>
    have herase : (remaining'.erase (σ i)).Perm ((remaining.erase i).map σ) := by
      rw [List.map_erase hσ]
      exact hr.erase (σ i)
    have hstack : (children' (σ i)).map (·, depth + 1) ++ stack.map (renameVisited σ) =
        ((children i).map (·, depth + 1) ++ stack).map (renameVisited σ) := by
      rw [hc, List.map_append, List.map_map, List.map_map]
      rfl
    obtain ⟨hv, hrest⟩ := ih herase
    rw [he] at hv hrest
    rw [List.map_cons, renameVisited, walk_visit children' ((hmem hr).mpr h), hstack, hv]
    exact ⟨rfl, hrest⟩
  | case3 remaining i depth stack h ih =>
    rw [List.map_cons, renameVisited, walk_skip children' (fun hm => h ((hmem hr).mp hm))]
    exact ih hr

namespace Renaming
variable {σ : Nat → Nat} {l l' : List Span}

theorem lastPosition?_eq (h : Renaming σ l l') (hl : Consistent l) (id : String) :
    lastPosition? l'.zipIdx id = (lastPosition? l.zipIdx id).map σ := by
  cases hp : lastPosition? l.zipIdx id with
  | none =>
    rw [Option.map_none, lastPosition?_eq_none_iff]
    intro s hs
    obtain ⟨k, hk⟩ := List.getElem?_of_mem hs
    obtain ⟨i, _, hi⟩ := h.exists_position hk
    exact (lastPosition?_eq_none_iff l id).mp hp s (List.mem_of_getElem? hi)
  | some i =>
    obtain ⟨⟨s, hs, he⟩, hmax⟩ := lastPosition?_eq_some_iff.mp hp
    rw [Option.map_some, lastPosition?_eq_some_iff]
    refine ⟨⟨s, h.getElem?_iff.mpr hs, he⟩, ?_⟩
    intro k t hk hte
    obtain ⟨j, rfl, hj⟩ := h.exists_position hk
    obtain rfl : t = s := hl t (List.mem_of_getElem? hj) s (List.mem_of_getElem? hs) (hte.trans he.symm)
    rcases Nat.lt_or_eq_of_le (hmax j t hj hte) with hlt | rfl
    · exact Nat.le_of_lt (h.stable hj hs hlt)
    · exact Nat.le_refl _

theorem entries_perm (h : Renaming σ l l') (hl : Consistent l) :
    (entries l').Perm ((entries l).map (Entry.rename σ)) := by
  have hmap : (entries l).map (Entry.rename σ) =
      (l.zipIdx.map fun x => (x.1, σ x.2)).map fun x =>
        ⟨x.2, x.1, if x.1.isRoot then none else lastPosition? l'.zipIdx x.1.parentSpanID⟩ := by
    rw [entries, List.map_map, List.map_map]
    refine List.map_congr_left fun x _ => ?_
    simp only [Function.comp_apply, Entry.rename, h.lastPosition?_eq hl]
    cases x.1.isRoot <;> rfl
  rw [hmap]
  exact h.perm.map _

theorem before_rename (h : Renaming σ l l') (hl : Consistent l) {a b : Entry} (ha : a ∈ entries l)
    (hb : b ∈ entries l) (hab : Before a b) : Before (a.rename σ) (b.rename σ) := by
  refine ⟨hab.1, fun hba => ?_⟩
  obtain ⟨s, i, hs, rfl⟩ := mem_entries.mp ha
  obtain ⟨t, j, ht, rfl⟩ := mem_entries.mp hb
  have hid : s.spanID = t.spanID := ((precedes_iff _ _).mp hab.1).spanID_eq ((precedes_iff _ _).mp hba)
  obtain rfl : s = t := hl s (List.mem_of_getElem? hs) t (List.mem_of_getElem? ht) hid
  exact h.stable hs ht (hab.2 hba)

/-- Sorting commutes with the renaming. -/
theorem sortedPositions_eq (h : Renaming σ l l') (hl : Consistent l) {p p' : Entry → Bool}
    (hp : ∀ e, p' (e.rename σ) = p e) :
    sortedPositions ((entries l').filter p') = (sortedPositions ((entries l).filter p)).map σ := by
  have hleft := pairwise_mergeSort_before (pairwise_position_filter l' p')
  have hright : ((((entries l).filter p).mergeSort precedes).map (Entry.rename σ)).Pairwise Before := by
    refine List.pairwise_map.mpr ((pairwise_mergeSort_before (pairwise_position_filter l p)).imp_of_mem ?_)
    intro a b ha hb
    exact h.before_rename hl (List.mem_of_mem_filter (List.mem_mergeSort.mp ha))
      (List.mem_of_mem_filter (List.mem_mergeSort.mp hb))
  have hperm : (((entries l').filter p').mergeSort precedes).Perm
      ((((entries l).filter p).mergeSort precedes).map (Entry.rename σ)) := by
    have hfilter := (h.entries_perm hl).filter p'
    rw [List.filter_map, show p' ∘ Entry.rename σ = p from funext hp] at hfilter
    exact (List.mergeSort_perm _ _).trans (hfilter.trans ((List.mergeSort_perm _ _).map _).symm)
  have heq := hperm.eq_of_pairwise (fun a b _ _ hab hba =>
    absurd (hab.2 hba.1) (Nat.lt_asymm (hba.2 hab.1))) hleft hright
  rw [sortedPositions, sortedPositions, heq, List.map_map, List.map_map]
  rfl

theorem children_eq (h : Renaming σ l l') (hl : Consistent l) (i : Nat) :
    children (entries l') (σ i) = (children (entries l) i).map σ := by
  refine h.sortedPositions_eq hl fun e => ?_
  cases hp : e.parent with
  | none => simp [Entry.rename, hp]
  | some j => simp [Entry.rename, hp, h.injective.eq_iff]

theorem firstStarts_eq (h : Renaming σ l l') (hl : Consistent l) :
    firstStarts l' = (firstStarts l).map σ := by
  rw [firstStarts, firstStarts, List.map_append, rootStarts, orphanStarts,
    h.sortedPositions_eq hl fun _ => rfl,
    h.sortedPositions_eq hl (p := fun e => !e.span.isRoot && e.parent.isNone) fun e => by
      simp [Entry.rename]]
  rfl

theorem firstWalk_eq (h : Renaming σ l l') (hl : Consistent l) :
    (firstWalk l').1 = (firstWalk l).1.map (renameVisited σ) ∧
      (firstWalk l').2.Perm ((firstWalk l).2.map σ) := by
  have hrange : (List.range l'.length).Perm ((List.range l.length).map σ) := by
    have hp := (h.entries_perm hl).map (·.position)
    rwa [List.map_map, map_position_entries, show (·.position) ∘ Entry.rename σ = σ ∘ (·.position) from rfl,
      ← List.map_map, map_position_entries] at hp
  have hstack : (firstStarts l').map (·, 0) = ((firstStarts l).map (·, 0)).map (renameVisited σ) := by
    rw [h.firstStarts_eq hl, List.map_map, List.map_map]
    rfl
  rw [firstWalk, hstack]
  exact walk_rename h.injective (h.children_eq hl) _ _ hrange

theorem secondStarts_eq (h : Renaming σ l l') (hl : Consistent l) :
    secondStarts l' = (secondStarts l).map σ := by
  refine h.sortedPositions_eq hl fun e => ?_
  rw [Entry.rename, decide_eq_decide, (h.firstWalk_eq hl).2.mem_iff]
  exact List.mem_map_of_injective h.injective

theorem positions_eq (h : Renaming σ l l') (hl : Consistent l) :
    positions (entries l') = (positions (entries l)).map (renameVisited σ) := by
  have hstack : (secondStarts l').map (·, 0) = ((secondStarts l).map (·, 0)).map (renameVisited σ) := by
    rw [h.secondStarts_eq hl, List.map_map, List.map_map]
    rfl
  have hsecond : (secondWalk l').1 = (secondWalk l).1.map (renameVisited σ) := by
    rw [secondWalk, hstack]
    exact (walk_rename h.injective (h.children_eq hl) _ _ (h.firstWalk_eq hl).2).1
  rw [positions_entries, positions_entries, List.map_append, (h.firstWalk_eq hl).1, hsecond]

/-- A rearranged list has the same waterfall. -/
theorem order_eq (h : Renaming σ l l') (hl : Consistent l) : order l' = order l := by
  rw [order, order, h.positions_eq hl, List.filterMap_map]
  refine List.filterMap_congr fun x _ => ?_
  have hget : l'[σ x.1]? = l[x.1]? := Option.ext fun s => h.getElem?_iff
  simp only [Function.comp_apply, renameVisited, hget]

end Renaming
/-- Swapping two neighbours swaps their positions. -/
theorem renaming_swap (front rest : List Span) {x y : Span} (hne : x ≠ y) :
    Renaming (Equiv.swap front.length (front.length + 1)) (front ++ x :: y :: rest)
      (front ++ y :: x :: rest) where
  injective := Equiv.injective _
  perm := by
    have hfix {i : Nat} (h : i ≠ front.length) (h' : i ≠ front.length + 1) :
        Equiv.swap front.length (front.length + 1) i = i := Equiv.swap_apply_of_ne_of_ne h h'
    have hfront : (front.zipIdx.map fun z => (z.1, Equiv.swap front.length (front.length + 1) z.2)) =
        front.zipIdx := by
      refine (List.map_congr_left fun z hz => ?_).trans (List.map_id _)
      have hlt := List.snd_lt_of_mem_zipIdx hz
      rw [hfix (by omega) (by omega), id]
    have hrest : ((rest.zipIdx (front.length + 2)).map fun z =>
        (z.1, Equiv.swap front.length (front.length + 1) z.2)) = rest.zipIdx (front.length + 2) := by
      refine (List.map_congr_left fun z hz => ?_).trans (List.map_id _)
      have hle := List.le_snd_of_mem_zipIdx hz
      rw [hfix (by omega) (by omega), id]
    simp only [List.zipIdx_append, List.zipIdx_cons, List.map_append, List.map_cons, Nat.zero_add,
      Equiv.swap_apply_left, Equiv.swap_apply_right, hfront, hrest]
    exact (List.Perm.swap _ _ _).append_left _
  stable := by
    intro s i j hi hj hij
    have hx : (front ++ x :: y :: rest)[front.length]? = some x := by simp
    have hy : (front ++ x :: y :: rest)[front.length + 1]? = some y := by simp
    have hcase : ¬ (i = front.length ∧ j = front.length + 1) := by
      rintro ⟨rfl, rfl⟩
      rw [hx] at hi
      rw [hy] at hj
      exact hne ((Option.some.inj hi).trans (Option.some.inj hj).symm)
    simp only [Equiv.swap_apply_def]
    split_ifs <;> omega

/-- The waterfall is the same for every arrangement of spans of which those with one id are identical. -/
theorem order_eq_of_perm {l l' : List Span} (hp : l.Perm l') (hl : Consistent l) : order l = order l' := by
  suffices h : ∀ front, Consistent (front ++ l) → order (front ++ l) = order (front ++ l') from h [] hl
  clear hl
  induction hp with
  | nil => exact fun _ _ => rfl
  | @cons x l l' _ ih =>
    intro front hl
    have h := ih (front ++ [x]) (by rwa [List.append_assoc])
    rwa [List.append_assoc, List.append_assoc] at h
  | swap x y l =>
    intro front hl
    by_cases hne : x = y
    · rw [hne]
    · have hl' := hl.perm ((List.Perm.swap x y l).append_left front)
      exact (renaming_swap front l hne).order_eq hl'
  | trans hp _ ih ih' =>
    intro front hl
    exact (ih front hl).trans (ih' front (hl.perm (hp.append_left front)))

/-- A cycle of two spans, of which the first came twice, in two arrangements. -/
theorem order_eq_of_perm_cycle :
    let x := { Span.empty with spanID := "x", parentSpanID := "y", startTime := 2 }
    let y := { Span.empty with spanID := "y", parentSpanID := "x", startTime := 1 }
    [x, y, x].Perm [y, x, x] ∧ Consistent [x, y, x] ∧ order [x, y, x] = order [y, x, x] := by
  intro x y
  have hp : [x, y, x].Perm [y, x, x] := .swap y x [x]
  have hc : Consistent [x, y, x] := by
    unfold Consistent
    decide
  exact ⟨hp, hc, order_eq_of_perm hp hc⟩

end Telemetry.Waterfall
