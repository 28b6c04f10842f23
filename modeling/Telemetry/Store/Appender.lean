/-! Appending rows to a table through a buffer that is emptied at regular intervals. -/
namespace Telemetry.Store

/-- A table and the rows that wait to be moved to its end. -/
structure Appender (ρ : Type) where
  table : List ρ
  buffer : List ρ

namespace Appender

variable {α ρ ε : Type}

/-- Moves the buffered rows to the end of the table. -/
def flush (a : Appender ρ) : Appender ρ := ⟨a.table ++ a.buffer, []⟩

/-- Buffers one more row. -/
def push (a : Appender ρ) (row : ρ) : Appender ρ := ⟨a.table, a.buffer ++ [row]⟩

/-- Appends the rows of items, the first of them at the given position of the batch. The buffer is flushed
after every `flushEvery` rows and at the end. An item without a row ends the batch without a flush. -/
def appendFrom (flushEvery : Nat) (row : α → Except ε ρ) (position : Nat) (a : Appender ρ) :
    List α → Appender ρ × Except ε Unit
  | [] => (a.flush, .ok ())
  | x :: xs =>
    match row x with
    | .error e => (a, .error e)
    | .ok r =>
      let a := a.push r
      let a := if (position + 1) % flushEvery = 0 then a.flush else a
      appendFrom flushEvery row (position + 1) a xs

end Appender

/-- The table after a batch whose items all have rows. -/
def appendBatch {α ρ : Type} (flushEvery : Nat) (row : α → ρ) (table : List ρ) (items : List α) : List ρ :=
  (Appender.appendFrom flushEvery (fun x => (.ok (row x) : Except Empty ρ)) 0 ⟨table, []⟩ items).1.table

end Telemetry.Store
