import Mathlib.Data.List.Perm.Basic

/-! Stable sorting. Items may be chosen before or after it, and records stand by their times and then by their ids. -/
namespace Telemetry

section Sorting

variable {α : Type} {le : α → α → Bool}

/-- What stands before the place of an item in a stably sorted list is what may not stand behind it. -/
private theorem filter_eq_front (trans : ∀ a b c, le a b = true → le b c = true → le a c = true)
    (total : ∀ a b, (le a b || le b a) = true) {a : α} {l front back : List α}
    (h : (a :: l).mergeSort le = front ++ a :: back) (hfront : ∀ b ∈ front, (!le a b) = true) (p : α → Bool) :
    (front.filter p ++ back.filter p).filter (fun b => !le a b) = front.filter p := by
  have hsorted := List.pairwise_mergeSort trans total (a :: l)
  rw [h, List.pairwise_append, List.pairwise_cons] at hsorted
  have hkeep : (front.filter p).filter (fun b => !le a b) = front.filter p :=
    List.filter_eq_self.2 fun b hb => hfront b (List.mem_of_mem_filter hb)
  have hdrop : (back.filter p).filter (fun b => !le a b) = [] := by
    refine List.filter_eq_nil_iff.2 fun b hb => ?_
    simp [hsorted.2.1.1 b (List.mem_of_mem_filter hb)]
  rw [List.filter_append, hkeep, hdrop, List.append_nil]

/-- The chosen items of a stably sorted list are the chosen items, stably sorted. -/
theorem filter_mergeSort (trans : ∀ a b c, le a b = true → le b c = true → le a c = true)
    (total : ∀ a b, (le a b || le b a) = true) (p : α → Bool) (l : List α) :
    (l.mergeSort le).filter p = (l.filter p).mergeSort le := by
  induction l with
  | nil => simp
  | cons a l ih =>
    obtain ⟨front, back, hcons, hl, hfront⟩ := List.mergeSort_cons trans total a l
    rw [hl, List.filter_append] at ih
    rw [hcons, List.filter_append]
    cases ha : p a with
    | false =>
      rw [List.filter_cons_of_neg (by simp [ha]), List.filter_cons_of_neg (by simp [ha]), ih]
    | true =>
      obtain ⟨front', back', hcons', hl', hfront'⟩ := List.mergeSort_cons trans total a (l.filter p)
      rw [List.filter_cons_of_pos ha, List.filter_cons_of_pos ha, hcons']
      -- Both lists are parted at the new item, by which items may stand behind it.
      have hparts : front.filter p ++ back.filter p = front' ++ back' := ih.trans hl'
      have hfirst : front.filter p = front' := by
        have hbefore := filter_eq_front trans total hcons hfront p
        have hbefore' := filter_eq_front trans total hcons' hfront' fun _ => true
        rw [List.filter_true, List.filter_true] at hbefore'
        rw [← hbefore, hparts, hbefore']
      have hlast : back.filter p = back' := by
        rw [hfirst] at hparts
        exact List.append_cancel_left hparts
      rw [hfirst, hlast]

/-- The head of a stably sorted list, by recursion on the list: a new element takes the place of a head that it
may stand before. -/
theorem head?_mergeSort_cons (trans : ∀ a b c, le a b = true → le b c = true → le a c = true)
    (total : ∀ a b, (le a b || le b a) = true) (a : α) (l : List α) :
    ((a :: l).mergeSort le).head? =
      some ((l.mergeSort le).head?.elim a fun b => if le a b then a else b) := by
  obtain ⟨front, back, hcons, hl, hfront⟩ := List.mergeSort_cons trans total a l
  rw [hcons, hl]
  cases front with
  | cons b front =>
    have hb : le a b = false := by simpa using hfront b List.mem_cons_self
    simp [hb]
  | nil =>
    have hsorted := List.pairwise_mergeSort trans total (a :: l)
    rw [hcons, List.nil_append, List.pairwise_cons] at hsorted
    cases back with
    | nil => rfl
    | cons b back => simp [hsorted.1 b List.mem_cons_self]

end Sorting

section Times

variable {α : Type} {before : Int64 → Int64 → Prop} {time : α → Int64} {id : α → String}

/-- The time of one comes before that of the other; of equal times the smaller id. -/
def TimeThenID (before : Int64 → Int64 → Prop) (time : α → Int64) (id : α → String) (a b : α) : Prop :=
  before (time a) (time b) ∨ (time a = time b ∧ id a ≤ id b)

theorem TimeThenID.trans {a b c : α} (hab : TimeThenID before time id a b)
    (htrans : ∀ x y z, before x y → before y z → before x z) (hbc : TimeThenID before time id b c) :
    TimeThenID before time id a c := by
  rcases hab with hab | ⟨hab, hid⟩ <;> rcases hbc with hbc | ⟨hbc, hid'⟩
  · exact .inl (htrans _ _ _ hab hbc)
  · exact .inl (hbc ▸ hab)
  · exact .inl (hab ▸ hbc)
  · exact .inr ⟨hab.trans hbc, String.le_trans hid hid'⟩

theorem TimeThenID.total (htotal : ∀ x y, before x y ∨ x = y ∨ before y x) (a b : α) :
    TimeThenID before time id a b ∨ TimeThenID before time id b a := by
  rcases htotal (time a) (time b) with h | h | h
  · exact .inl (.inl h)
  · exact (String.le_total (id a) (id b)).imp (fun hid => .inr ⟨h, hid⟩) (fun hid => .inr ⟨h.symm, hid⟩)
  · exact .inr (.inl h)

theorem lt_or_eq_or_gt_time (x y : Int64) : x < y ∨ x = y ∨ y < x :=
  (Int64.lt_or_le x y).imp_right fun h => (Int64.lt_or_eq_of_le h).elim .inr fun h => .inl h.symm

/-- Later time first; of equal times the smaller id. -/
def LaterFirst (time : α → Int64) (id : α → String) : α → α → Prop := TimeThenID (fun x y => y < x) time id

theorem LaterFirst.trans {a b c : α} (hab : LaterFirst time id a b) (hbc : LaterFirst time id b c) :
    LaterFirst time id a c :=
  TimeThenID.trans hab (fun _ _ _ hxy hyz => Int64.lt_trans hyz hxy) hbc

theorem LaterFirst.total (a b : α) : LaterFirst time id a b ∨ LaterFirst time id b a :=
  TimeThenID.total (fun x y => (lt_or_eq_or_gt_time y x).imp_right (.imp_left Eq.symm)) a b

variable {le : α → α → Bool} (hle : ∀ a b, le a b = true ↔ LaterFirst time id a b)

include hle

/-- A test for the order may be sorted by. -/
theorem LaterFirst.trans_of_iff (a b c : α) (hab : le a b = true) (hbc : le b c = true) : le a c = true :=
  (hle a c).2 (((hle a b).1 hab).trans ((hle b c).1 hbc))

theorem LaterFirst.total_of_iff (a b : α) : (le a b || le b a) = true := by
  rw [Bool.or_eq_true, hle, hle]
  exact total a b

end Times
end Telemetry
