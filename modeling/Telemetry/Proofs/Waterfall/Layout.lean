import Mathlib.Data.List.TakeWhile
import Telemetry.Proofs.Waterfall.Coverage

/-! What the depths of a waterfall mean: below each node stand its children in order, and the nodes of depth
zero are the roots, the orphans and what only a cycle of parents leads to. -/
namespace Telemetry.Waterfall

private theorem takeWhile_append_of_stop {α : Type} {p : α → Bool} {l m : List α}
    (h : m.takeWhile p = []) : (l ++ m).takeWhile p = l.takeWhile p := by
  induction l with
  | nil => exact h
  | cons x l ih => rw [List.cons_append, List.takeWhile_cons, List.takeWhile_cons, ih]

/-- A list is the pre-order of a forest whose topmost nodes, at the given depth, are the given ones. Directly
below a node stand some of its children in their order. -/
inductive Laid (children : Nat → List Nat) : List Nat → Nat → List (Nat × Nat) → Prop
  | nil (depth : Nat) : Laid children [] depth []
  | node {i depth : Nat} {kids starts : List Nat} {below rest : List (Nat × Nat)}
      (hk : kids.Sublist (children i)) (hb : Laid children kids (depth + 1) below)
      (hr : Laid children starts depth rest) :
      Laid children (i :: starts) depth ((i, depth) :: (below ++ rest))

namespace Laid
variable {children : Nat → List Nat} {starts : List Nat} {depth : Nat}

theorem append {starts' : List Nat} {l m : List (Nat × Nat)} (hl : Laid children starts depth l)
    (hm : Laid children starts' depth m) : Laid children (starts ++ starts') depth (l ++ m) := by
  induction hl with
  | nil => exact hm
  | node hk hb hr _ ih =>
    rw [List.cons_append, List.cons_append, List.append_assoc]
    exact .node hk hb (ih hm)

theorem le_depth {l : List (Nat × Nat)} (h : Laid children starts depth l) {x : Nat × Nat}
    (hx : x ∈ l) : depth ≤ x.2 := by
  induction h with
  | nil => cases hx
  | node hk hb hr ib ir =>
    rcases List.mem_cons.mp hx with rfl | hx
    · exact Nat.le_refl _
    · rcases List.mem_append.mp hx with hx | hx
      · exact Nat.le_of_succ_le (ib hx)
      · exact ir hx

theorem head_depth {x : Nat × Nat} {l : List (Nat × Nat)} (h : Laid children starts depth (x :: l)) :
    x.2 = depth := by
  cases h
  rfl

/-- The topmost nodes are those of the smallest depth. -/
theorem starts_eq {l : List (Nat × Nat)} (h : Laid children starts depth l) :
    starts = (l.filter (·.2 == depth)).map (·.1) := by
  induction h with
  | nil => rfl
  | @node i depth kids starts below rest hk hb hr _ ir =>
    have hn : below.filter (·.2 == depth) = [] := by
      rw [List.filter_eq_nil_iff]
      intro x hx he
      have hd := hb.le_depth hx
      rw [beq_iff_eq] at he
      omega
    rw [List.filter_cons_of_pos (by simp), List.filter_append, hn, List.nil_append, List.map_cons, ← ir]

/-- What follows a node for as long as it lies deeper is laid out below the node. -/
theorem subtree {p : Nat × Nat} {before after : List (Nat × Nat)}
    (h : Laid children starts depth (before ++ p :: after)) :
    ∃ kids, kids.Sublist (children p.1) ∧
      Laid children kids (p.2 + 1) (after.takeWhile fun x => p.2 < x.2) := by
  generalize hl : before ++ p :: after = l at h
  induction h generalizing before after with
  | nil => simp at hl
  | @node i depth kids starts below rest hk hb hr ib ir =>
    -- Beyond a node's subtree the next node is not deeper, so the search for its end stays within the subtree.
    have hstop (d : Nat) (hd : depth ≤ d) : rest.takeWhile (fun x => d < x.2) = [] := by
      cases rest with
      | nil => rfl
      | cons x rest =>
        have hx := hr.head_depth
        rw [List.takeWhile_cons_of_neg (by simpa using hx.trans_le hd)]
    cases before with
    | nil =>
      obtain ⟨rfl, rfl⟩ := List.cons.inj hl
      have hall : ∀ x ∈ below, decide (depth < x.2) = true := fun x hx => decide_eq_true (hb.le_depth hx)
      refine ⟨kids, hk, ?_⟩
      rw [takeWhile_append_of_stop (hstop depth (Nat.le_refl _)), List.takeWhile_eq_self_iff.mpr hall]
      exact hb
    | cons q before =>
      have htail := (List.cons.inj hl).2
      rcases List.append_eq_append_iff.mp htail with ⟨mid, hm, hrest⟩ | ⟨mid, hm, hrest⟩
      · cases mid with
        | nil => exact ir ((List.nil_append _).trans hrest)
        | cons y mid =>
          obtain ⟨rfl, rfl⟩ := List.cons.inj hrest
          obtain ⟨kids', hk', hl'⟩ := ib hm.symm
          refine ⟨kids', hk', ?_⟩
          have hd : depth ≤ p.2 := Nat.le_of_succ_le (hb.le_depth (by rw [hm]; simp))
          rwa [List.append_eq, takeWhile_append_of_stop (hstop p.2 hd)]
      · exact ir hrest.symm

/-- A node with nothing higher before it is one of the topmost. -/
theorem depth_eq {between after : List (Nat × Nat)} {n : Nat × Nat}
    (h : Laid children starts depth (between ++ n :: after)) (hm : ∀ m ∈ between, n.2 ≤ m.2) :
    n.2 = depth := by
  have hle := h.le_depth (List.mem_append_right between List.mem_cons_self)
  cases between with
  | nil => exact h.head_depth
  | cons m between =>
    have hd := h.head_depth
    have hn := hm m List.mem_cons_self
    omega

/-- Below a node, up to a node whose nearest higher one it is, stands part of the node's subtree. -/
theorem subtree_above {front between after : List (Nat × Nat)} {p n : Nat × Nat}
    (h : Laid children starts depth (front ++ p :: (between ++ n :: after)))
    (hpn : p.2 < n.2) (hm : ∀ m ∈ between, n.2 ≤ m.2) :
    n.2 = p.2 + 1 ∧ ∃ kids, kids.Sublist (children p.1) ∧
      Laid children kids (p.2 + 1) (between ++ n :: after.takeWhile fun x => p.2 < x.2) := by
  obtain ⟨kids, hk, hl⟩ := h.subtree
  have hall : ∀ m ∈ between, decide (p.2 < m.2) = true := fun m hmem =>
    decide_eq_true (hpn.trans_le (hm m hmem))
  rw [List.takeWhile_append_of_pos hall, List.takeWhile_cons, if_pos (decide_eq_true hpn)] at hl
  exact ⟨hl.depth_eq hm, kids, hk, hl⟩

/-- A node is a child of the nearest earlier node of smaller depth. -/
theorem mem_children_above {front between after : List (Nat × Nat)} {p n : Nat × Nat}
    (h : Laid children starts depth (front ++ p :: (between ++ n :: after)))
    (hpn : p.2 < n.2) (hm : ∀ m ∈ between, n.2 ≤ m.2) : n.1 ∈ children p.1 := by
  obtain ⟨hd, kids, hk, hl⟩ := h.subtree_above hpn hm
  refine hk.subset ?_
  rw [hl.starts_eq]
  exact List.mem_map.mpr ⟨n, List.mem_filter.mpr ⟨by simp, by simp [hd]⟩, rfl⟩

/-- Two nodes with one nearest higher node are laid out in the order of that node's children. -/
theorem children_inOrder {R : Nat → Nat → Prop} (hR : ∀ i, (children i).Pairwise R)
    {front between between' after : List (Nat × Nat)} {p n n' : Nat × Nat}
    (h : Laid children starts depth (front ++ p :: (between ++ n :: (between' ++ n' :: after))))
    (hpn : p.2 < n.2) (hm : ∀ m ∈ between, n.2 ≤ m.2)
    (hpn' : p.2 < n'.2) (hm' : ∀ m ∈ between ++ n :: between', n'.2 ≤ m.2) : R n.1 n'.1 := by
  have hsplit : between ++ n :: (between' ++ n' :: after) =
      (between ++ n :: between') ++ n' :: after := by simp
  have hd := (h.subtree_above hpn hm).1
  rw [hsplit] at h
  obtain ⟨hd', kids, hk, hl⟩ := h.subtree_above hpn' hm'
  have hp := (hR p.1).sublist hk
  rw [hl.starts_eq, List.pairwise_map, List.pairwise_filter] at hp
  have ha := (List.pairwise_append.mp hp).2.2 n (by simp) n' List.mem_cons_self
  exact ha (by simp [hd]) (by simp [hd'])

end Laid

/-- A walk from a stack of one depth lays out a forest. Its topmost nodes are among those on the stack. -/
theorem walk_laid (children : Nat → List Nat) (starts : List Nat) (depth : Nat) (remaining : List Nat) :
    ∃ tops, tops.Sublist starts ∧
      Laid children tops depth (walk children (starts.map (·, depth)) remaining).1 := by
  induction hn : remaining.length using Nat.strong_induction_on generalizing starts depth remaining with
  | _ n ih =>
    induction starts with
    | nil => exact ⟨[], .refl _, by rw [List.map_nil, walk_nil]; exact .nil depth⟩
    | cons i starts istarts =>
      by_cases hi : i ∈ remaining
      · have hlt : (remaining.erase i).length < n := by
          have hpos := List.length_pos_of_mem hi
          rw [List.length_erase_of_mem hi]
          omega
        have hle := length_walk_rest_le children ((children i).map (·, depth + 1)) (remaining.erase i)
        obtain ⟨kids, hk, hb⟩ := ih _ hlt (children i) (depth + 1) (remaining.erase i) rfl
        obtain ⟨tops, ht, hr⟩ := ih _ (hle.trans_lt hlt) starts depth _ rfl
        refine ⟨i :: tops, ht.cons_cons i, ?_⟩
        rw [List.map_cons, walk_visit children hi, walk_append]
        exact .node hk hb hr
      · obtain ⟨tops, ht, hl⟩ := istarts
        refine ⟨tops, ht.cons i, ?_⟩
        rw [List.map_cons, walk_skip children hi]
        exact hl

end Telemetry.Waterfall
