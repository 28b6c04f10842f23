import Telemetry.Proofs.Ingest.Records
import Telemetry.Proofs.Text.Hex

/-! The parent links among the spans of requests. Ids are told apart by their texts as they are by their bytes, but for
those without a set byte: of any length, they have the empty text, which stands for no parent. -/
namespace Telemetry

namespace Identity

/-- Whether the bytes of an id are all zero, as those of an empty id are. -/
def IsUnset (bytes : List UInt8) : Prop := ∀ b ∈ bytes, b = 0

instance : DecidablePred IsUnset := fun bytes => inferInstanceAs (Decidable (∀ b ∈ bytes, b = 0))

variable {a b : List UInt8}

theorem hexId_of_isUnset (h : IsUnset a) : hexId a = "" :=
  if_pos (List.all_eq_true.2 fun b hb => beq_iff_eq.2 (h b hb))

theorem hexId_of_not_isUnset (h : ¬IsUnset a) : hexId a = Text.hex a := by
  refine if_neg fun hall => h fun b hb => ?_
  exact beq_iff_eq.1 (List.all_eq_true.1 hall b hb)

/-- Only ids without a set byte have the empty text. -/
theorem hexId_eq_empty_iff : hexId a = "" ↔ IsUnset a := by
  refine ⟨fun h => ?_, hexId_of_isUnset⟩
  by_contra hset
  have hempty : Text.hex a = Text.hex [] := (hexId_of_not_isUnset hset).symm.trans h
  exact hset (Text.hex_injective hempty ▸ List.forall_mem_nil _)

theorem hexId_eq_iff : hexId a = hexId b ↔ a = b ∨ (IsUnset a ∧ IsUnset b) := by
  constructor
  · intro h
    by_cases ha : IsUnset a
    · have hb : hexId b = "" := h.symm.trans (hexId_of_isUnset ha)
      exact .inr ⟨ha, hexId_eq_empty_iff.1 hb⟩
    · have hb : ¬IsUnset b := fun hb => ha (hexId_eq_empty_iff.1 (h.trans (hexId_of_isUnset hb)))
      rw [hexId_of_not_isUnset ha, hexId_of_not_isUnset hb] at h
      exact .inl (Text.hex_injective h)
  · rintro (rfl | ⟨ha, hb⟩)
    · rfl
    · rw [hexId_of_isUnset ha, hexId_of_isUnset hb]

end Identity

namespace Otlp

open Identity

/-- The record of a span at its place in a request. -/
def recordedSpan (m : Placed SpanMessage) : Span :=
  (span (resource m.resource).value (scope m.scope).value m.item).value

theorem value_spans (resources : List (ResourceItems SpanMessage)) :
    (spans resources).value = (placed resources).map recordedSpan :=
  value_eachItem span resources

/-- The spans of a request are the records of its items, one for each and in nesting order. -/
theorem forall₂_spans (resources : List (ResourceItems SpanMessage)) :
    List.Forall₂ (fun m s => s = recordedSpan m) (placed resources) (spans resources).value := by
  rw [value_spans, List.forall₂_map_right_iff]
  exact List.forall₂_same.2 fun _ _ => rfl

theorem isRoot_recordedSpan (m : Placed SpanMessage) :
    (recordedSpan m).isRoot = true ↔ IsUnset m.item.parentSpanID := by
  have hempty : (recordedSpan m).isRoot = true ↔ hexId m.item.parentSpanID = "" := String.isEmpty_iff
  exact hempty.trans hexId_eq_empty_iff

/-- Two ids have one text exactly if their bytes are equal or neither has a set byte, and the text of any other id is
its lowercase digits, from which it is read back. Hence the spans of requests are linked as their messages are: a span
is a root if no byte of its parent id is set, and another one has the id of its parent if the bytes are equal or none
of either is set. -/
theorem spans_keepLinks :
    (∀ a b, hexId a = hexId b ↔ a = b ∨ (IsUnset a ∧ IsUnset b)) ∧
    (∀ a, ¬IsUnset a →
      (hexId a).toList = a.flatMap (fun b => [(b.toNat / 16).digitChar, (b.toNat % 16).digitChar]) ∧
        Text.unhex (hexId a) = some a) ∧
    ∀ resources others : List (ResourceItems SpanMessage),
      (placed resources).length = (spans resources).value.length ∧
        ∀ m s, (m, s) ∈ (placed resources).zip (spans resources).value →
          (s.isRoot = true ↔ IsUnset m.item.parentSpanID) ∧
            ∀ n t, (n, t) ∈ (placed others).zip (spans others).value →
              (s.parentSpanID = t.spanID ↔ m.item.parentSpanID = n.item.spanID ∨
                (IsUnset m.item.parentSpanID ∧ IsUnset n.item.spanID)) := by
  refine ⟨fun a b => hexId_eq_iff, fun a ha => ?_, fun resources others => ?_⟩
  · rw [hexId_of_not_isUnset ha]
    exact ⟨Text.toList_hex a, Text.unhex_hex a⟩
  · refine ⟨(forall₂_spans resources).length_eq, fun m s hs => ?_⟩
    obtain rfl := List.forall₂_zip (forall₂_spans resources) hs
    refine ⟨isRoot_recordedSpan m, fun n t ht => ?_⟩
    obtain rfl := List.forall₂_zip (forall₂_spans others) ht
    exact hexId_eq_iff

/-- A span without attributes, events and links. -/
def bareSpan (spanID parentSpanID : List UInt8) : SpanMessage where
  traceID := [1]
  traceState := ""
  spanID := spanID
  parentSpanID := parentSpanID
  name := ""
  kind := 0
  startTime := 1
  endTime := 2
  attributes := []
  events := []
  links := []
  status := none
  droppedAttributesCount := 0
  droppedEventsCount := 0
  droppedLinksCount := 0

/-- A root whose id starts with a byte that is not set, and a span below it that has no id. -/
def linkedRequest : List (ResourceItems SpanMessage) :=
  [⟨none, [⟨none, [bareSpan [0, 1] [0, 0], bareSpan [] [0, 1]]⟩]⟩]

/-- The second span is below the first. The first one's parent id has the text of the second one's id, though the bytes
differ, since no byte of either is set. -/
theorem spans_keepLinks_unset :
    ¬IsUnset [0, 1] ∧ Text.unhex (hexId [0, 1]) = some [0, 1] ∧
      ∃ m s n t, (m, s) ∈ (placed linkedRequest).zip (spans linkedRequest).value ∧
        (n, t) ∈ (placed linkedRequest).zip (spans linkedRequest).value ∧ s.isRoot = true ∧
          t.parentSpanID = s.spanID ∧ s.parentSpanID = t.spanID := by
  obtain ⟨-, htext, hlinks⟩ := spans_keepLinks
  obtain ⟨-, hspan⟩ := hlinks linkedRequest linkedRequest
  have hset : ¬IsUnset [0, 1] := by decide
  have hunset : IsUnset [0, 0] := by simp [IsUnset]
  have hempty : IsUnset [] := List.forall_mem_nil _
  have hfirst : (⟨none, none, bareSpan [0, 1] [0, 0]⟩, recordedSpan ⟨none, none, bareSpan [0, 1] [0, 0]⟩) ∈
      (placed linkedRequest).zip (spans linkedRequest).value := List.mem_cons_self
  have hsecond : (⟨none, none, bareSpan [] [0, 1]⟩, recordedSpan ⟨none, none, bareSpan [] [0, 1]⟩) ∈
      (placed linkedRequest).zip (spans linkedRequest).value := List.mem_cons_of_mem _ List.mem_cons_self
  obtain ⟨hroot, hparent⟩ := hspan _ _ hfirst
  obtain ⟨-, hchild⟩ := hspan _ _ hsecond
  refine ⟨hset, (htext _ hset).2, _, _, _, _, hfirst, hsecond, hroot.2 hunset, ?_, ?_⟩
  · exact (hchild _ _ hfirst).2 (.inl rfl)
  · exact (hparent _ _ hsecond).2 (.inr ⟨hunset, hempty⟩)

end Otlp
end Telemetry
