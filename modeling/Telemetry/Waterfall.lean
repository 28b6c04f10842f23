import Telemetry.Trace

/-! The waterfall order of a trace: each root or orphan with its subtree in pre-order, siblings by start.
Spans are told apart by their position in the input, since span ids may repeat. -/
namespace Telemetry.Waterfall

/-- A span at its position in the input. The parent is the position of the last span that has the
parent id. -/
structure Entry where
  position : Nat
  span : Span
  parent : Option Nat

/-- The position of the last span with an id. -/
def lastPosition? (spans : List (Span × Nat)) (id : String) : Option Nat :=
  (spans.reverse.find? (·.1.spanID == id)).map (·.2)

/-- The spans with their positions and parents. -/
def entries (spans : List Span) : List Entry :=
  spans.zipIdx.map fun (s, i) =>
    ⟨i, s, if s.isRoot then none else lastPosition? spans.zipIdx s.parentSpanID⟩

/-- Earlier start first; of equal starts the smaller span id. -/
def precedes (a b : Entry) : Bool :=
  a.span.startTime < b.span.startTime ||
    (a.span.startTime == b.span.startTime && a.span.spanID ≤ b.span.spanID)

/-- The positions of entries by start and span id; entries equal in both keep their order. -/
def sortedPositions (es : List Entry) : List Nat := (es.mergeSort precedes).map (·.position)

/-- The positions of the spans whose parent is at the given position. -/
def children (es : List Entry) (i : Nat) : List Nat :=
  sortedPositions (es.filter (·.parent == some i))

/-- Visits the positions on the stack in turn, each with its depth, and the children of a visited one
before what is below it on the stack. A position that is no longer among the remaining ones is passed
over. Gives the visited positions and those that remain. -/
def walk (children : Nat → List Nat) (stack : List (Nat × Nat)) (remaining : List Nat) :
    List (Nat × Nat) × List Nat :=
  match stack with
  | [] => ([], remaining)
  | (i, depth) :: stack =>
    if i ∈ remaining then
      let (visited, rest) :=
        walk children ((children i).map (·, depth + 1) ++ stack) (remaining.erase i)
      ((i, depth) :: visited, rest)
    else walk children stack remaining
termination_by (remaining.length, stack.length)
decreasing_by
  · rename_i h
    have := List.length_erase_of_mem h
    have := List.length_pos_of_mem h
    exact Prod.Lex.left _ _ (by omega)
  · exact Prod.Lex.right _ (by simp)

/-- The positions of the spans in waterfall order, each with its depth: the roots and then the orphans
with what hangs below them, then what only a cycle of parents leads to. -/
def positions (es : List Entry) : List (Nat × Nat) :=
  let roots := sortedPositions (es.filter (·.span.isRoot))
  let orphans := sortedPositions (es.filter fun e => !e.span.isRoot && e.parent.isNone)
  let (reached, rest) :=
    walk (children es) ((roots ++ orphans).map (·, 0)) (es.map (·.position))
  let starts := sortedPositions (es.filter (·.position ∈ rest))
  reached ++ (walk (children es) (starts.map (·, 0)) rest).1

/-- The spans in waterfall order, each with its depth. -/
def order (spans : List Span) : List (Span × Nat) :=
  (positions (entries spans)).filterMap fun (i, depth) => spans[i]?.map (·, depth)

/-- The trace of its spans in waterfall order. -/
def trace (traceID : String) (spans : List Span) : Trace where
  traceID := traceID
  spans := (order spans).map fun (s, depth) => ⟨s, UInt64.ofNat depth⟩

end Telemetry.Waterfall
