import Mathlib
import Telemetry.Waterfall

/-! The walk over a stack of positions: what it visits, what it leaves, and how long its loop runs.
Nothing is assumed of the children but where a statement says so. -/
namespace Telemetry.Waterfall

variable (children : Nat → List Nat)

theorem walk_nil (remaining : List Nat) : walk children [] remaining = ([], remaining) := by
  rw [walk]

theorem walk_visit {i depth : Nat} {stack : List (Nat × Nat)} {remaining : List Nat}
    (h : i ∈ remaining) :
    walk children ((i, depth) :: stack) remaining =
      ((i, depth) :: (walk children ((children i).map (·, depth + 1) ++ stack) (remaining.erase i)).1,
        (walk children ((children i).map (·, depth + 1) ++ stack) (remaining.erase i)).2) := by
  rw [walk, if_pos h]

theorem walk_skip {i depth : Nat} {stack : List (Nat × Nat)} {remaining : List Nat}
    (h : i ∉ remaining) :
    walk children ((i, depth) :: stack) remaining = walk children stack remaining := by
  rw [walk, if_neg h]

/-- What is on top of the stack is walked to its end before the rest is begun. -/
theorem walk_append (upper lower : List (Nat × Nat)) (remaining : List Nat) :
    walk children (upper ++ lower) remaining =
      ((walk children upper remaining).1 ++ (walk children lower (walk children upper remaining).2).1,
        (walk children lower (walk children upper remaining).2).2) := by
  fun_induction walk children upper remaining with
  | case1 remaining => rfl
  | case2 remaining i depth stack h visited rest he ih =>
    rw [List.cons_append, walk_visit children h, ← List.append_assoc, ih, he]
    rfl
  | case3 remaining i depth stack h ih =>
    rw [List.cons_append, walk_skip children h, ih]

/-- Every remaining position is either visited, once for each time it remained, or left. -/
theorem walk_perm (stack : List (Nat × Nat)) (remaining : List Nat) :
    ((walk children stack remaining).1.map (·.1) ++ (walk children stack remaining).2).Perm remaining := by
  fun_induction walk children stack remaining with
  | case1 remaining => exact .refl _
  | case2 remaining i depth stack h visited rest he ih =>
    rw [he] at ih
    exact (ih.cons i).trans (List.perm_cons_erase h).symm
  | case3 remaining i depth stack h ih => exact ih

theorem mem_of_mem_walk_rest {stack : List (Nat × Nat)} {remaining : List Nat} {i : Nat}
    (h : i ∈ (walk children stack remaining).2) : i ∈ remaining :=
  (walk_perm children stack remaining).mem_iff.mp (List.mem_append_right _ h)

theorem length_walk_rest_le (stack : List (Nat × Nat)) (remaining : List Nat) :
    (walk children stack remaining).2.length ≤ remaining.length := by
  have h := (walk_perm children stack remaining).length_eq
  rw [List.length_append] at h
  omega

/-- A remaining position is visited or left. -/
theorem mem_walk_or_rest (stack : List (Nat × Nat)) {remaining : List Nat} {i : Nat}
    (h : i ∈ remaining) :
    (∃ depth, (i, depth) ∈ (walk children stack remaining).1) ∨
      i ∈ (walk children stack remaining).2 := by
  have hm := (walk_perm children stack remaining).mem_iff.mpr h
  rcases List.mem_append.mp hm with hm | hm
  · obtain ⟨x, hx, rfl⟩ := List.mem_map.mp hm
    exact .inl ⟨x.2, hx⟩
  · exact .inr hm

/-- Nothing that stood on the stack is left. -/
theorem not_mem_rest_of_mem_stack {stack : List (Nat × Nat)} {remaining : List Nat}
    (hr : remaining.Nodup) {x : Nat × Nat} (hx : x ∈ stack) :
    x.1 ∉ (walk children stack remaining).2 := by
  fun_induction walk children stack remaining with
  | case1 remaining => simp at hx
  | case2 remaining i depth stack h visited rest he ih =>
    rw [he] at ih
    rcases List.mem_cons.mp hx with rfl | hx
    · intro hm
      have hle := mem_of_mem_walk_rest children (by rw [he]; exact hm)
      exact hr.not_mem_erase hle
    · exact ih (hr.erase i) (List.mem_append_right _ hx)
  | case3 remaining i depth stack h ih =>
    rcases List.mem_cons.mp hx with rfl | hx
    · exact fun hm => h (mem_of_mem_walk_rest children hm)
    · exact ih hr hx

/-- No child of a visited position is left. -/
theorem not_mem_rest_of_mem_children {stack : List (Nat × Nat)} {remaining : List Nat}
    (hr : remaining.Nodup) {x : Nat × Nat} (hx : x ∈ (walk children stack remaining).1)
    {k : Nat} (hk : k ∈ children x.1) : k ∉ (walk children stack remaining).2 := by
  fun_induction walk children stack remaining with
  | case1 remaining => simp at hx
  | case2 remaining i depth stack h visited rest he ih =>
    rw [he] at ih
    rcases List.mem_cons.mp hx with rfl | hx
    · have hs := not_mem_rest_of_mem_stack children (hr.erase i)
        (List.mem_append_left stack (List.mem_map_of_mem (f := fun k => (k, depth + 1)) hk))
      rwa [he] at hs
    · exact ih (hr.erase i) hx
  | case3 remaining i depth stack h ih => exact ih hr hx

/-- What is visited stood on the stack at the same depth, or comes after a position whose child it is, at a depth
one more. -/
theorem mem_stack_or_below_of_mem_walk {stack : List (Nat × Nat)} {remaining : List Nat} {x : Nat × Nat}
    (hx : x ∈ (walk children stack remaining).1) :
    x ∈ stack ∨ ∃ front i depth between after, x.1 ∈ children i ∧ x.2 = depth + 1 ∧
      (walk children stack remaining).1 = front ++ (i, depth) :: (between ++ x :: after) := by
  fun_induction walk children stack remaining with
  | case1 remaining => simp at hx
  | case2 remaining i depth stack h visited rest he ih =>
    rw [he] at ih
    rcases List.mem_cons.mp hx with rfl | hx
    · exact .inl List.mem_cons_self
    · rcases ih hx with hs | ⟨front, j, d, between, after, hc, hd, hv⟩
      · rcases List.mem_append.mp hs with hs | hs
        · obtain ⟨k, hk, rfl⟩ := List.mem_map.mp hs
          obtain ⟨between, after, hv⟩ := List.append_of_mem hx
          exact .inr ⟨[], i, depth, between, after, hk, rfl, by rw [hv, List.nil_append]⟩
        · exact .inl (List.mem_cons_of_mem _ hs)
      · exact .inr ⟨(i, depth) :: front, j, d, between, after, hc, hd, congrArg ((i, depth) :: ·) hv⟩
  | case3 remaining i depth stack h ih => exact (ih hx).imp (List.mem_cons_of_mem _) id

/-- What is visited stood on the stack at the same depth, or is a child. -/
theorem mem_stack_or_children_of_mem_walk {stack : List (Nat × Nat)} {remaining : List Nat} {x : Nat × Nat}
    (hx : x ∈ (walk children stack remaining).1) :
    x ∈ stack ∨ ∃ i, x.1 ∈ children i :=
  (mem_stack_or_below_of_mem_walk children hx).imp_right fun ⟨_, i, _, _, _, hc, _⟩ => ⟨i, hc⟩

/-- What holds on the stack and passes on to children holds of all that is visited. -/
theorem forall_mem_walk {P : Nat → Prop} {stack : List (Nat × Nat)} {remaining : List Nat}
    (hstack : ∀ x ∈ stack, P x.1) (hchildren : ∀ i, P i → ∀ k ∈ children i, P k) :
    ∀ x ∈ (walk children stack remaining).1, P x.1 := by
  fun_induction walk children stack remaining with
  | case1 remaining => simp
  | case2 remaining i depth stack h visited rest he ih =>
    rw [he] at ih
    obtain ⟨hi, hstack⟩ := List.forall_mem_cons.mp hstack
    refine List.forall_mem_cons.mpr ⟨hi, ih (List.forall_mem_append.mpr ⟨?_, hstack⟩)⟩
    exact List.forall_mem_map.mpr fun k hk => hchildren i hi k hk
  | case3 remaining i depth stack h ih => exact ih (List.forall_mem_cons.mp hstack).2

/-- If the children of what does not remain do not remain, then neither do they after a walk. -/
theorem not_mem_children_of_not_mem_rest {stack : List (Nat × Nat)} {remaining : List Nat}
    (hr : remaining.Nodup) (hclosed : ∀ i ∉ remaining, ∀ k ∈ children i, k ∉ remaining) :
    ∀ i ∉ (walk children stack remaining).2, ∀ k ∈ children i, k ∉ (walk children stack remaining).2 := by
  intro i hi k hk
  by_cases hm : i ∈ remaining
  · obtain ⟨depth, hv⟩ := (mem_walk_or_rest children stack hm).resolve_right hi
    exact not_mem_rest_of_mem_children children hr hv hk
  · exact fun h => hclosed i hm k hk (mem_of_mem_walk_rest children h)

/-- The state of the loop between two pops. -/
structure Loop where
  stack : List (Nat × Nat)
  remaining : List Nat
  visited : List (Nat × Nat)

/-- Pops once. A loop with an empty stack stands still. -/
def Loop.step (l : Loop) : Loop :=
  match l.stack with
  | [] => l
  | (i, depth) :: stack =>
    if i ∈ l.remaining then
      ⟨(children i).map (·, depth + 1) ++ stack, l.remaining.erase i, l.visited ++ [(i, depth)]⟩
    else ⟨stack, l.remaining, l.visited⟩

/-- The number of positions a walk pushes. -/
def pushes (stack : List (Nat × Nat)) (remaining : List Nat) : Nat :=
  ((walk children stack remaining).1.map fun x => (children x.1).length).sum

/-- The loop ends with what the walk gives, after one pop for each position on the stack and each pushed one. -/
theorem loop_run (stack : List (Nat × Nat)) (remaining : List Nat) (visited : List (Nat × Nat)) :
    (Loop.step children)^[stack.length + pushes children stack remaining] ⟨stack, remaining, visited⟩ =
      ⟨[], (walk children stack remaining).2, visited ++ (walk children stack remaining).1⟩ := by
  fun_induction walk children stack remaining generalizing visited with
  | case1 remaining => simp [pushes, walk_nil]
  | case2 remaining i depth stack h found rest he ih =>
    have hp : ((i, depth) :: stack).length + pushes children ((i, depth) :: stack) remaining =
        (((children i).map (·, depth + 1) ++ stack).length +
          pushes children ((children i).map (·, depth + 1) ++ stack) (remaining.erase i)) + 1 := by
      simp only [pushes, walk_visit children h, List.map_cons, List.sum_cons, List.length_cons,
        List.length_append, List.length_map]
      omega
    rw [hp, Function.iterate_succ_apply]
    simp only [Loop.step, if_pos h, ih, he, List.append_assoc, List.singleton_append]
  | case3 remaining i depth stack h ih =>
    have hp : ((i, depth) :: stack).length + pushes children ((i, depth) :: stack) remaining =
        (stack.length + pushes children stack remaining) + 1 := by
      simp only [pushes, walk_skip children h, List.length_cons]
      omega
    rw [hp, Function.iterate_succ_apply]
    simp only [Loop.step, if_neg h, ih]

end Telemetry.Waterfall
