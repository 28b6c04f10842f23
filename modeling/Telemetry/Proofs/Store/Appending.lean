import Mathlib.Algebra.Order.Group.Nat
import Mathlib.Logic.Function.Iterate
import Telemetry.Store.Appender

/-! How a batch reaches its table. After any number of rows, as many whole groups of them as there are stand in the
table and the others wait in the buffer, so that what is left by a batch that ends early is a matter of counting, and
what is left by a whole batch does not depend on the size of the groups. -/
namespace Telemetry.Store

namespace Appender

variable {α ρ ε : Type}

section Stages

/-- Where the appending of items stands. -/
inductive Stage (α ρ ε : Type)
  /-- before the first of the items that are left, or past the last one -/
  | between (position : Nat) (a : Appender ρ) (items : List α)
  /-- a row is buffered and its item is counted, but the buffer is not flushed yet -/
  | buffered (position : Nat) (a : Appender ρ) (items : List α)
  | ended (result : Appender ρ × Except ε Unit)

namespace Stage

/-- The appender at a stage. -/
def appender : Stage α ρ ε → Appender ρ
  | between _ a _ | buffered _ a _ => a
  | ended result => result.1

/-- The stage that follows, in which a row has been buffered or the buffer has been flushed. Nothing follows the end. -/
def next (flushEvery : Nat) (row : α → Except ε ρ) : Stage α ρ ε → Stage α ρ ε
  | between _ a [] => ended (a.flush, .ok ())
  | between position a (x :: xs) =>
    match row x with
    | .error e => ended (a, .error e)
    | .ok r => buffered (position + 1) (a.push r) xs
  | buffered position a xs => between position (if position % flushEvery = 0 then a.flush else a) xs
  | ended result => ended result

/-- The stage before the first item of a batch. Nothing waits for the table. -/
def first (table : List ρ) (items : List α) : Stage α ρ ε := between 0 ⟨table, []⟩ items

end Stage

variable {flushEvery : Nat} {row : α → Except ε ρ}

/-- From any stage on, the stages lead to what the appending of the items that are left comes to. -/
theorem iterate_next_ended (position : Nat) (a : Appender ρ) (items : List α) :
    (Stage.next flushEvery row)^[2 * items.length + 1] (.between position a items) =
      .ended (appendFrom flushEvery row position a items) := by
  induction items generalizing position a with
  | nil => rfl
  | cons x xs ih =>
    -- an item with a row is behind after two stages, and an item without one ends all that follow at once
    rw [List.length_cons, Nat.mul_succ, Nat.add_right_comm, Function.iterate_succ_apply, Function.iterate_succ_apply,
      appendFrom, Stage.next]
    cases row x with
    | error e => exact Function.iterate_fixed rfl _
    | ok r => exact ih _ _

end Stages

section Groups

variable {table rows : List ρ}

/-- The appender after rows that were appended to a table: the whole groups of them are flushed, the others wait. -/
def grouped (flushEvery : Nat) (table rows : List ρ) : Appender ρ :=
  ⟨table ++ rows.take (flushEvery * (rows.length / flushEvery)), rows.drop (flushEvery * (rows.length / flushEvery))⟩

theorem flush_grouped (flushEvery : Nat) (table rows : List ρ) :
    (grouped flushEvery table rows).flush = ⟨table ++ rows, []⟩ := by
  rw [grouped, flush, List.append_assoc, List.take_append_drop]

theorem length_buffer_grouped (flushEvery : Nat) (table rows : List ρ) :
    (grouped flushEvery table rows).buffer.length = rows.length % flushEvery := by
  rw [grouped, List.length_drop, Nat.mod_eq_sub]

/-- One more row either completes a group or waits with those before it. -/
theorem push_grouped (flushEvery : Nat) (table rows : List ρ) (r : ρ) :
    (if (rows.length + 1) % flushEvery = 0 then ((grouped flushEvery table rows).push r).flush
      else (grouped flushEvery table rows).push r) = grouped flushEvery table (rows ++ [r]) := by
  have hlength : (rows ++ [r]).length = rows.length + 1 := List.length_append
  split
  · -- all groups are whole, so all rows are in them
    rename_i hfull
    have hgroups : flushEvery * ((rows.length + 1) / flushEvery) = (rows ++ [r]).length :=
      (Nat.mul_div_cancel' (Nat.dvd_of_mod_eq_zero hfull)).trans hlength.symm
    rw [grouped, grouped, push, flush, hlength, hgroups, List.take_length, List.drop_length, List.append_assoc,
      ← List.append_assoc (List.take _ _), List.take_append_drop]
  · -- there is no new group, and the row stands behind those there are
    rename_i hfull
    have hgroups : (rows.length + 1) / flushEvery = rows.length / flushEvery :=
      Nat.succ_div_of_not_dvd fun h => hfull (Nat.mod_eq_zero_of_dvd h)
    have hle : flushEvery * (rows.length / flushEvery) ≤ rows.length := Nat.mul_div_le _ _
    rw [grouped, grouped, push, hlength, hgroups, List.take_append_of_le_length hle,
      List.drop_append_of_le_length hle]

/-- At every stage the appender is as it is after the rows so far, but for a flush that is due or the last one. -/
def Stage.IsGrouped (flushEvery : Nat) (table : List ρ) : Stage α ρ ε → Prop
  | .between position a _ => ∃ rows, position = rows.length ∧ a = grouped flushEvery table rows
  | .buffered position a _ => ∃ rows r, position = rows.length + 1 ∧ a = (grouped flushEvery table rows).push r
  | .ended (a, _) => ∃ rows, a = grouped flushEvery table rows ∨ a = (grouped flushEvery table rows).flush

theorem Stage.IsGrouped.next {s : Stage α ρ ε} (h : s.IsGrouped flushEvery table) (row : α → Except ε ρ) :
    (s.next flushEvery row).IsGrouped flushEvery table := by
  cases s with
  | between position a items =>
    obtain ⟨rows, rfl, rfl⟩ := h
    cases items with
    | nil => exact ⟨rows, .inr rfl⟩
    | cons x xs =>
      rw [Stage.next]
      cases row x with
      | error e => exact ⟨rows, .inl rfl⟩
      | ok r => exact ⟨rows, r, rfl, rfl⟩
  | buffered position a items =>
    obtain ⟨rows, r, rfl, rfl⟩ := h
    have hlength : (rows ++ [r]).length = rows.length + 1 := List.length_append
    exact ⟨rows ++ [r], hlength.symm, push_grouped flushEvery table rows r⟩
  | ended result => exact h

theorem Stage.IsGrouped.iterate_next {s : Stage α ρ ε} (h : s.IsGrouped flushEvery table) (row : α → Except ε ρ)
    (n : Nat) : ((Stage.next flushEvery row)^[n] s).IsGrouped flushEvery table :=
  Function.Iterate.rec (Stage.IsGrouped flushEvery table) h (fun _ hs => hs.next row) n

theorem Stage.IsGrouped.length_buffer_le {s : Stage α ρ ε} (h : s.IsGrouped flushEvery table)
    (hpos : 0 < flushEvery) : s.appender.buffer.length ≤ flushEvery := by
  have hgrouped (rows : List ρ) : (grouped flushEvery table rows).buffer.length < flushEvery := by
    rw [length_buffer_grouped]
    exact Nat.mod_lt _ hpos
  cases s with
  | between position a items =>
    obtain ⟨rows, -, rfl⟩ := h
    exact (hgrouped rows).le
  | buffered position a items =>
    obtain ⟨rows, r, -, rfl⟩ := h
    rw [appender, push, List.length_append]
    exact hgrouped rows
  | ended result =>
    obtain ⟨rows, hrows | hrows⟩ := h
    · rw [appender, hrows]
      exact (hgrouped rows).le
    · rw [appender, hrows]
      exact Nat.zero_le _

end Groups

section Batches

variable {row : α → Except ε ρ}

theorem grouped_nil (flushEvery : Nat) (table : List ρ) : grouped flushEvery table [] = ⟨table, []⟩ := by
  rw [grouped, List.take_nil, List.drop_nil, List.append_nil]

/-- Items that have rows are passed over, and their rows are grouped with those before. -/
theorem appendFrom_append (flushEvery : Nat) (table rows : List ρ) {done : List α} {added : List ρ}
    (h : done.map row = added.map .ok) (rest : List α) :
    appendFrom flushEvery row rows.length (grouped flushEvery table rows) (done ++ rest) =
      appendFrom flushEvery row (rows ++ added).length (grouped flushEvery table (rows ++ added)) rest := by
  induction done generalizing added rows with
  | nil =>
    obtain rfl := List.map_eq_nil_iff.1 h.symm
    rw [List.nil_append, List.append_nil]
  | cons x done ih =>
    cases added with
    | nil => cases h
    | cons r added =>
      obtain ⟨hx, hdone⟩ := List.cons.inj h
      have hlength : (rows ++ [r]).length = rows.length + 1 := List.length_append
      have hrest := ih (rows ++ [r]) hdone
      rw [← push_grouped, hlength, List.append_assoc, List.singleton_append] at hrest
      rw [List.cons_append, appendFrom, hx]
      exact hrest

/-- A batch whose items all have rows is moved to the table whole. -/
theorem appendFrom_of_rows (flushEvery : Nat) (table : List ρ) {items : List α} {rows : List ρ}
    (h : items.map row = rows.map .ok) :
    appendFrom flushEvery row 0 ⟨table, []⟩ items = (⟨table ++ rows, []⟩, .ok ()) := by
  have hrun := appendFrom_append flushEvery table [] h []
  rw [grouped_nil, List.append_nil, List.nil_append, appendFrom, flush_grouped] at hrun
  exact hrun

/-- A batch that ends at an item without a row leaves the rows before it in their groups. -/
theorem appendFrom_of_error (flushEvery : Nat) (table : List ρ) {items : List α} {k : Nat} {rows : List ρ} {e : ε}
    (h : (items.take k).map row = rows.map .ok) (herror : items[k]?.map row = some (.error e)) :
    appendFrom flushEvery row 0 ⟨table, []⟩ items =
      (⟨table ++ rows.take (flushEvery * (k / flushEvery)), rows.drop (flushEvery * (k / flushEvery))⟩, .error e) := by
  obtain ⟨x, hx, he⟩ := Option.map_eq_some_iff.1 herror
  obtain ⟨hk, rfl⟩ := List.getElem?_eq_some_iff.1 hx
  have hlength : rows.length = k := by
    have hlengths := congrArg List.length h
    rw [List.length_map, List.length_map, List.length_take_of_le hk.le] at hlengths
    exact hlengths.symm
  have hrun := appendFrom_append flushEvery table [] h (items[k] :: items.drop (k + 1))
  rw [grouped_nil, List.nil_append, List.getElem_cons_drop, List.take_append_drop, ← List.getElem_cons_drop hk,
    appendFrom, he, grouped, hlength] at hrun
  exact hrun

/-- Whatever the size of the groups, a batch whose items all have rows stands at the end of the table and nothing waits.
A batch whose first item without a row is at some position leaves the whole groups before that position in the table.
At no stage does the buffer hold more than one group, and the stages are those of the batch: they lead to what is left
by it. -/
theorem appendFrom_inGroups {flushEvery : Nat} (hpos : 0 < flushEvery) (row : α → Except ε ρ) (table : List ρ)
    (items : List α) :
    (∀ rows : List ρ, items.map row = rows.map .ok →
      appendFrom flushEvery row 0 ⟨table, []⟩ items = (⟨table ++ rows, []⟩, .ok ())) ∧
    (∀ (rows : List ρ) (k : Nat) (e : ε), (items.take k).map row = rows.map .ok →
      items[k]?.map row = some (.error e) →
      appendFrom flushEvery row 0 ⟨table, []⟩ items =
        (⟨table ++ rows.take (flushEvery * (k / flushEvery)), rows.drop (flushEvery * (k / flushEvery))⟩,
          .error e)) ∧
    (∀ n, ((Stage.next flushEvery row)^[n] (.first table items)).appender.buffer.length ≤ flushEvery) ∧
    (Stage.next flushEvery row)^[2 * items.length + 1] (.first table items) =
      .ended (appendFrom flushEvery row 0 ⟨table, []⟩ items) := by
  have hfirst : (Stage.first table items : Stage α ρ ε).IsGrouped flushEvery table :=
    ⟨[], rfl, (grouped_nil flushEvery table).symm⟩
  refine ⟨fun rows h => ?_, fun rows k e h herror => ?_, fun n => ?_, ?_⟩
  · exact appendFrom_of_rows flushEvery table h
  · exact appendFrom_of_error flushEvery table h herror
  · exact (hfirst.iterate_next row n).length_buffer_le hpos
  · exact iterate_next_ended 0 ⟨table, []⟩ items

/-- Numbers below a limit are their own rows, the others have none. -/
def rowBelow (limit n : Nat) : Except String Nat := if n < limit then .ok n else .error "no row"

/-- With groups of three, a batch of seven numbers is moved to the table whole. Of nine, whose eighth has no row, two
groups are in the table and one row waits. -/
theorem appendFrom_inGroups_eighth :
    0 < 3 ∧ (List.range 7).map (rowBelow 7) = (List.range 7).map .ok ∧
      ((List.range 9).take 7).map (rowBelow 7) = (List.range 7).map .ok ∧
      (List.range 9)[7]?.map (rowBelow 7) = some (.error "no row") ∧
      appendFrom 3 (rowBelow 7) 0 ⟨[9], []⟩ (List.range 7) = (⟨[9, 0, 1, 2, 3, 4, 5, 6], []⟩, .ok ()) ∧
      appendFrom 3 (rowBelow 7) 0 ⟨[9], []⟩ (List.range 9) =
        (⟨[9, 0, 1, 2, 3, 4, 5], [6]⟩, .error "no row") := by
  have hrows : (List.range 7).map (rowBelow 7) = (List.range 7).map .ok := rfl
  have hfront : ((List.range 9).take 7).map (rowBelow 7) = (List.range 7).map .ok := rfl
  obtain ⟨hwhole, -⟩ := appendFrom_inGroups (by decide : 0 < 3) (rowBelow 7) [9] (List.range 7)
  obtain ⟨-, hfailed, -⟩ := appendFrom_inGroups (by decide : 0 < 3) (rowBelow 7) [9] (List.range 9)
  exact ⟨by decide, hrows, hfront, rfl, hwhole _ hrows, hfailed _ 7 _ hfront rfl⟩

end Batches

end Appender
end Telemetry.Store
