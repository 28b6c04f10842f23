import Mathlib.Data.List.Perm.Basic
import Mathlib.Data.List.Range
import Telemetry.Proofs.Sorting
import Telemetry.Waterfall

/-! Spans at their positions: parents, siblings and the order among siblings, in words of the spans. -/
namespace Telemetry.Waterfall

/-- Whether a span starts earlier than another, or at the same time under a smaller or equal id. -/
def StartsBefore (a b : Span) : Prop :=
  a.startTime < b.startTime ∨ (a.startTime = b.startTime ∧ a.spanID ≤ b.spanID)

theorem precedes_iff (a b : Entry) : precedes a b = true ↔ StartsBefore a.span b.span := by
  simp [precedes, StartsBefore]

theorem startsBefore_iff (a b : Span) :
    StartsBefore a b ↔ TimeThenID (· < ·) Span.startTime Span.spanID a b := .rfl

theorem StartsBefore.trans {a b c : Span} (hab : StartsBefore a b) (hbc : StartsBefore b c) :
    StartsBefore a c := by
  rw [startsBefore_iff] at hab hbc ⊢
  exact hab.trans (fun _ _ _ => Int64.lt_trans) hbc

theorem StartsBefore.total (a b : Span) : StartsBefore a b ∨ StartsBefore b a := by
  rw [startsBefore_iff, startsBefore_iff]
  exact TimeThenID.total lt_or_eq_or_gt_time a b

/-- Spans that start before each other share their id. -/
theorem StartsBefore.spanID_eq {a b : Span} (hab : StartsBefore a b) (hba : StartsBefore b a) :
    a.spanID = b.spanID := by
  rcases hab with hab | ⟨_, hi⟩ <;> rcases hba with hba | ⟨hba, hj⟩
  · exact absurd hba (Int64.lt_asymm hab)
  · exact absurd (hba ▸ hab) Int64.lt_irrefl
  · exact absurd (by simp_all : a.startTime < a.startTime) Int64.lt_irrefl
  · exact String.le_antisymm hi hj

theorem precedes_trans (a b c : Entry) (hab : precedes a b = true) (hbc : precedes b c = true) :
    precedes a c = true :=
  (precedes_iff a c).mpr (((precedes_iff a b).mp hab).trans ((precedes_iff b c).mp hbc))

theorem precedes_total (a b : Entry) : (precedes a b || precedes b a) = true := by
  rw [Bool.or_eq_true, precedes_iff, precedes_iff]
  exact StartsBefore.total a.span b.span

/-- The parent of a span: the last span with its parent id. A root has none. -/
def parent? (spans : List Span) (s : Span) : Option Span :=
  if s.isRoot then none else spans.reverse.find? (·.spanID == s.parentSpanID)

/-- Whether a span has a parent id that is the id of no span. -/
def isOrphan (spans : List Span) (s : Span) : Bool :=
  !s.isRoot && !spans.any (·.spanID == s.parentSpanID)

theorem parent?_eq_none_iff (spans : List Span) (s : Span) :
    parent? spans s = none ↔ s.isRoot = true ∨ isOrphan spans s = true := by
  unfold parent? isOrphan
  cases h : s.isRoot <;> simp

theorem lastPosition?_map (spans : List Span) (id : String) :
    (lastPosition? spans.zipIdx id).bind (spans[·]?) = spans.reverse.find? (·.spanID == id) := by
  unfold lastPosition?
  cases hf : spans.zipIdx.reverse.find? (·.1.spanID == id) with
  | none =>
    have hn : ∀ s ∈ spans, s.spanID ≠ id := by
      intro s hs he
      obtain ⟨i, hi⟩ := List.getElem?_of_mem hs
      have hm : (s, i) ∈ spans.zipIdx.reverse :=
        List.mem_reverse.mpr (List.mk_mem_zipIdx_iff_getElem?.mpr hi)
      simpa [he] using List.find?_eq_none.mp hf _ hm
    symm
    simpa using hn
  | some x =>
    have hx : spans[x.2]? = some x.1 :=
      List.mem_zipIdx_iff_getElem?.mp (List.mem_reverse.mp (List.mem_of_find?_eq_some hf))
    have hr : spans.reverse = spans.zipIdx.reverse.map (·.1) := by
      rw [List.map_reverse, List.zipIdx_map_fst]
    rw [hr, List.find?_map]
    simp only [Option.map_some, Option.bind_some, hx, Function.comp_def, hf]

/-- The last span with an id is where its position says. -/
theorem getElem?_of_lastPosition? {spans : List Span} {id : String} {i : Nat}
    (h : lastPosition? spans.zipIdx id = some i) : ∃ s, spans[i]? = some s ∧ s.spanID = id := by
  unfold lastPosition? at h
  obtain ⟨x, hx, rfl⟩ := Option.map_eq_some_iff.mp h
  refine ⟨x.1, ?_, by simpa using List.find?_some hx⟩
  exact List.mem_zipIdx_iff_getElem?.mp (List.mem_reverse.mp (List.mem_of_find?_eq_some hx))

theorem lastPosition?_eq_none_iff (spans : List Span) (id : String) :
    lastPosition? spans.zipIdx id = none ↔ ∀ s ∈ spans, s.spanID ≠ id := by
  constructor
  · intro h s hs he
    have hb := lastPosition?_map spans id
    rw [h, Option.bind_none] at hb
    simpa [he] using List.find?_eq_none.mp hb.symm s (List.mem_reverse.mpr hs)
  · intro h
    cases hl : lastPosition? spans.zipIdx id with
    | none => rfl
    | some i =>
      obtain ⟨s, hs, he⟩ := getElem?_of_lastPosition? hl
      exact absurd he (h s (List.mem_of_getElem? hs))

/-- The entry made for a span at a position. -/
def entry (spans : List Span) (s : Span) (i : Nat) : Entry :=
  ⟨i, s, if s.isRoot then none else lastPosition? spans.zipIdx s.parentSpanID⟩

theorem mem_entries {spans : List Span} {e : Entry} :
    e ∈ entries spans ↔ ∃ s i, spans[i]? = some s ∧ e = entry spans s i := by
  constructor
  · intro h
    obtain ⟨⟨s, i⟩, hm, rfl⟩ := List.mem_map.mp h
    exact ⟨s, i, List.mk_mem_zipIdx_iff_getElem?.mp hm, rfl⟩
  · rintro ⟨s, i, hs, rfl⟩
    exact List.mem_map.mpr ⟨(s, i), List.mk_mem_zipIdx_iff_getElem?.mpr hs, rfl⟩

theorem map_position_entries (spans : List Span) :
    (entries spans).map (·.position) = List.range spans.length := by
  rw [entries, List.map_map]
  exact (List.zipIdx_map_snd 0 spans).trans List.range_eq_range'.symm

/-- The entry of a span that is neither root nor orphan has the position of its parent. -/
theorem entry_parent_bind (spans : List Span) (s : Span) (i : Nat) :
    (entry spans s i).parent.bind (spans[·]?) = parent? spans s := by
  unfold entry parent?
  cases h : s.isRoot with
  | true => rfl
  | false => exact lastPosition?_map spans s.parentSpanID

theorem entry_parent_eq_none_iff (spans : List Span) (s : Span) (i : Nat) :
    (entry spans s i).parent = none ↔ parent? spans s = none := by
  rw [parent?_eq_none_iff]
  unfold entry isOrphan
  cases h : s.isRoot with
  | true => simp
  | false => simp [lastPosition?_eq_none_iff]

/-- An orphan is an entry that has a parent id but no parent. -/
theorem entry_isOrphan (spans : List Span) (s : Span) (i : Nat) :
    (!(entry spans s i).span.isRoot && (entry spans s i).parent.isNone) = isOrphan spans s := by
  have hn := entry_parent_eq_none_iff spans s i
  rw [parent?_eq_none_iff] at hn
  have hs : (entry spans s i).span = s := rfl
  rw [hs, Bool.eq_iff_iff, Bool.and_eq_true, Option.isNone_iff_eq_none, hn]
  unfold isOrphan
  cases s.isRoot <;> simp

/-- Sorting keeps exactly the given positions. -/
theorem sortedPositions_perm (es : List Entry) : (sortedPositions es).Perm (es.map (·.position)) :=
  (List.mergeSort_perm es precedes).map _

theorem mem_sortedPositions {es : List Entry} {i : Nat} :
    i ∈ sortedPositions es ↔ ∃ e ∈ es, e.position = i := by
  rw [(sortedPositions_perm es).mem_iff, List.mem_map]

theorem nodup_sortedPositions {es : List Entry} (h : (es.map (·.position)).Nodup) :
    (sortedPositions es).Nodup :=
  (sortedPositions_perm es).nodup_iff.mpr h

theorem nodup_position_filter (spans : List Span) (p : Entry → Bool) :
    (((entries spans).filter p).map (·.position)).Nodup := by
  have h : ((entries spans).map (·.position)).Nodup := by
    rw [map_position_entries]
    exact List.nodup_range
  exact h.sublist (List.filter_sublist.map _)

/-- Whether the spans at two positions stand in order. -/
def InOrder (spans : List Span) (i j : Nat) : Prop :=
  ∀ s t, spans[i]? = some s → spans[j]? = some t → StartsBefore s t

/-- Sorted positions stand in order. -/
theorem pairwise_sortedPositions (spans : List Span) (p : Entry → Bool) :
    (sortedPositions ((entries spans).filter p)).Pairwise (InOrder spans) := by
  have hs : (((entries spans).filter p).mergeSort precedes).Pairwise fun a b => precedes a b = true :=
    List.pairwise_mergeSort precedes_trans precedes_total _
  refine List.pairwise_map.mpr (hs.imp_of_mem ?_)
  intro a b ha hb hab s t hs ht
  have hentry (e : Entry) (he : e ∈ ((entries spans).filter p).mergeSort precedes) :
      spans[e.position]? = some e.span := by
    obtain ⟨s, i, hi, rfl⟩ := mem_entries.mp (List.mem_of_mem_filter (List.mem_mergeSort.mp he))
    exact hi
  rw [hentry a ha, Option.some.injEq] at hs
  rw [hentry b hb, Option.some.injEq] at ht
  exact hs ▸ ht ▸ (precedes_iff a b).mp hab

theorem mem_children {spans : List Span} {i k : Nat} :
    k ∈ children (entries spans) i ↔
      ∃ s, spans[k]? = some s ∧ (entry spans s k).parent = some i := by
  unfold children
  rw [mem_sortedPositions]
  constructor
  · rintro ⟨e, he, rfl⟩
    obtain ⟨hm, hp⟩ := List.mem_filter.mp he
    obtain ⟨s, j, hs, rfl⟩ := mem_entries.mp hm
    exact ⟨s, hs, beq_iff_eq.mp hp⟩
  · rintro ⟨s, hs, hp⟩
    refine ⟨entry spans s k, List.mem_filter.mpr ⟨mem_entries.mpr ⟨s, k, hs, rfl⟩, ?_⟩, rfl⟩
    simpa using hp

/-- A child names its parent. -/
theorem spanID_eq_of_mem_children {spans : List Span} {i k : Nat} {s t : Span}
    (h : k ∈ children (entries spans) i) (hs : spans[k]? = some s) (ht : spans[i]? = some t) :
    t.spanID = s.parentSpanID := by
  obtain ⟨s', hs', hp⟩ := mem_children.mp h
  obtain rfl : s = s' := Option.some.inj (hs.symm.trans hs')
  unfold entry at hp
  cases hr : s.isRoot with
  | true => simp [hr] at hp
  | false =>
    obtain ⟨t', ht', he⟩ := getElem?_of_lastPosition? (by simpa [hr] using hp)
    obtain rfl : t = t' := Option.some.inj (ht.symm.trans ht')
    exact he

end Telemetry.Waterfall
