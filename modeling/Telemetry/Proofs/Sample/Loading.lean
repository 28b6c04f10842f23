import Telemetry.Proofs.Sample.Bookkeeping
import Telemetry.Service.Handler

/-! Loading demo data while the caller cancels. A load that is broken off after its first batch cannot be rolled
back, since the caller has cancelled by then. -/
namespace Telemetry

namespace Store

variable {store : Store}

/-- The store with demo telemetry at the end of its tables. -/
def withSample (store : Store) (data : SampleData) : Store :=
  ((store.withSpans data.spans).withLogs data.logs).withMetrics data.metrics

/-- Spans of demo resources are found as demo data. -/
theorem any_isMarked_withSpans (store : Store) {spans : List Span} (h : spans.any (·.resource.isSample) = true) :
    (store.withSpans spans).origins.any (·.isMarked) = true := by
  obtain ⟨s, hs, hsample⟩ := List.any_eq_true.1 h
  refine List.any_eq_true.2 ⟨.ofRecords s.resource s.scope, ?_, ?_⟩
  · refine List.mem_append_left _ (List.mem_map.2 ⟨.ofSpan s, ?_, rfl⟩)
    exact List.mem_append_right _ (List.mem_map_of_mem hs)
  · rw [OriginColumns.isMarked_ofRecords, hsample, Bool.true_or]

theorem any_isMarked_withLogs {logs : List Log} (h : store.origins.any (·.isMarked) = true) :
    (store.withLogs logs).origins.any (·.isMarked) = true := by
  simp only [origins, withLogs, List.any_append, List.map_append, Bool.or_eq_true] at h ⊢
  tauto

theorem any_isMarked_withMetrics {metrics : List Metric} (h : store.origins.any (·.isMarked) = true) :
    (store.withMetrics metrics).origins.any (·.isMarked) = true := by
  simp only [origins, withMetrics, List.any_append, List.map_append, Bool.or_eq_true] at h ⊢
  tauto

end Store

namespace SampleData

variable (now : Int64)

theorem spans_generate : (generate now).value.spans = (Otlp.spans Sample.spans).value := rfl

/-- The demo telemetry has spans, and they come from demo resources. -/
theorem any_isSample_spans_generate : (generate now).value.spans.any (·.resource.isSample) = true := by
  rw [spans_generate]
  decide +kernel

end SampleData

namespace Service

open Store (Operation)

/-- A caller that cancels before a call checks for the given time, counted from zero. -/
def Token.after (n : Nat) : Token := fun look => decide (n ≤ look)

variable {store : Store} {token : Token} {data : SampleData} {now : Int64}

/-- A load stops at the first check that finds the caller's cancellation, with the batches written before it. -/
theorem writeSampleData_open (h : store.isOpen = true) :
    writeSampleData store token data =
      if token 1 then .error ⟨.cancelled Operation.addSpans.text, store, 2⟩
      else if token 2 then .error ⟨.cancelled Operation.addLogs.text, store.withSpans data.spans, 3⟩
      else if token 3 then
        .error ⟨.cancelled Operation.addMetrics.text, (store.withSpans data.spans).withLogs data.logs, 4⟩
      else .ok (store.withSample data) := by
  have hlogs := Store.addLogs_open ((store.isOpen_withSpans data.spans).trans h) (token 2) data.logs
  have hmetrics := Store.addMetrics_open (((store.withSpans data.spans).isOpen_withLogs data.logs).trans h)
    (token 3) data.metrics
  rw [writeSampleData, Store.addSpans_open h]
  cases token 1 with
  | true => rfl
  | false =>
    show (((store.withSpans data.spans).addLogs (token 2) data.logs).mapError _ >>= _) = _
    rw [hlogs]
    cases token 2 with
    | true => rfl
    | false =>
      show (((store.withSpans data.spans).withLogs data.logs).addMetrics (token 3) data.metrics).mapError _ = _
      rw [hmetrics]
      cases token 3 <;> rfl

/-- A caller that has cancelled cannot roll a load back. -/
theorem rollBack_cancelled {interrupted : Interrupted} (h : interrupted.store.isOpen = true)
    (hcancelled : token interrupted.checks = true) : (rollBack interrupted token).value = interrupted.store := by
  have hclear : interrupted.store.clearSampleData true = .error (.cancelled Operation.clearSampleData.text) :=
    Store.check_bind_open h true _ _
  rw [rollBack, hcancelled, hclear]
  rfl

theorem loadSampleData_cancelled (h : store.isOpen = true) (hcancelled : token 0 = true) :
    (loadSampleData store token now).value = (.error (.cancelled Operation.findSampleData.text), store) := by
  have hcheck : store.sampleDataExists true = .error (.cancelled Operation.findSampleData.text) :=
    Store.check_bind_open h true _ _
  rw [loadSampleData, hcancelled, hcheck]
  rfl

/-- Nothing is loaded into a store in which demo data is found. -/
theorem loadSampleData_marked (h : store.isOpen = true) (hmarked : store.origins.any (·.isMarked) = true)
    (hlive : token 0 = false) : (loadSampleData store token now).value = (.ok false, store) := by
  rw [loadSampleData, hlive, Store.sampleDataExists_open h, hmarked]
  rfl

/-- In a store in which no demo data is found the load is written, or broken off and rolled back. -/
theorem loadSampleData_unmarked (h : store.isOpen = true) (hunmarked : store.origins.any (·.isMarked) = false)
    (hlive : token 0 = false) :
    (loadSampleData store token now).value =
      match writeSampleData store token (SampleData.generate now).value with
      | .ok next => (.ok true, next)
      | .error interrupted => (.error interrupted.failure, (rollBack interrupted token).value) := by
  rw [loadSampleData, hlive, Store.sampleDataExists_open h, hunmarked]
  show (match writeSampleData store token (SampleData.generate now).value with
    | .ok next => (pure (.ok true, next) : Reported (Except Failure Bool × Store))
    | .error interrupted => do
      let store ← rollBack interrupted token
      return (.error interrupted.failure, store)).value = _
  cases writeSampleData store token (SampleData.generate now).value <;> rfl

/-- How a load ends in a store in which no demo data is found, by the number of checks before the caller
cancels. -/
theorem loadSampleData_after (h : store.isOpen = true) (hunmarked : store.origins.any (·.isMarked) = false)
    (n : Nat) (now : Int64) :
    (loadSampleData store (.after n) now).value =
      let data := (SampleData.generate now).value
      match n with
      | 0 => (.error (.cancelled Operation.findSampleData.text), store)
      | 1 => (.error (.cancelled Operation.addSpans.text), store)
      | 2 => (.error (.cancelled Operation.addLogs.text), store.withSpans data.spans)
      | 3 => (.error (.cancelled Operation.addMetrics.text), (store.withSpans data.spans).withLogs data.logs)
      | _ + 4 => (.ok true, store.withSample data) := by
  match n with
  | 0 => exact loadSampleData_cancelled h rfl
  | 1 | 2 | 3 =>
    rw [loadSampleData_unmarked h hunmarked rfl, writeSampleData_open h]
    exact congrArg _ (rollBack_cancelled h rfl)
  | k + 4 =>
    have hlive : ∀ look < 4, Token.after (k + 4) look = false := by
      intro look hlook
      exact decide_eq_false (by omega)
    rw [loadSampleData_unmarked h hunmarked (hlive 0 (by decide)), writeSampleData_open h,
      hlive 1 (by decide), hlive 2 (by decide), hlive 3 (by decide)]
    rfl

/-- A load that nobody cancels is written whole. -/
theorem loadSampleData_live (h : store.isOpen = true) (hunmarked : store.origins.any (·.isMarked) = false)
    (now : Int64) :
    (loadSampleData store .live now).value =
      (.ok true, store.withSample (SampleData.generate now).value) := by
  rw [loadSampleData_unmarked h hunmarked rfl, writeSampleData_open h]
  rfl

/-- If a load fails, the tables are as they were, and any later load writes the demo telemetry whole. -/
def LeavesNothing (store : Store) (token : Token) (now : Int64) : Prop :=
  ∀ failure next, (loadSampleData store token now).value = (.error failure, next) →
    next.tables = store.tables ∧ ∀ later,
      (loadSampleData next .live later).value = (.ok true, next.withSample (SampleData.generate later).value)

/-- What a failed load left behind stands in the way of every later one. -/
private theorem not_leavesNothing {next : Store} {failure : Failure}
    (hload : (loadSampleData store token now).value = (.error failure, next)) (hopen : next.isOpen = true)
    (hmarked : next.origins.any (·.isMarked) = true) : ¬LeavesNothing store token now := by
  intro h
  have hlater := (h failure next hload).2 0
  rw [loadSampleData_marked hopen hmarked rfl] at hlater
  cases hlater

private theorem leavesNothing_of_unchanged {failure : Failure} (hopen : store.isOpen = true)
    (hunmarked : store.origins.any (·.isMarked) = false)
    (hload : (loadSampleData store token now).value = (.error failure, store)) :
    LeavesNothing store token now := by
  intro failure next hnext
  obtain ⟨-, rfl⟩ := Prod.mk.inj (hload.symm.trans hnext)
  exact ⟨rfl, loadSampleData_live hopen hunmarked⟩

private theorem leavesNothing_of_ok {written : Bool} {next : Store}
    (hload : (loadSampleData store token now).value = (.ok written, next)) : LeavesNothing store token now := by
  intro failure next hnext
  cases hload.symm.trans hnext

/-- A load into a store without demo rows leaves nothing behind if it fails, unless the caller cancels between its
batches. If the store has a look-alike of the mark, nothing is ever written, and only a failed first check goes
against it. -/
theorem leavesNothing_iff {W : Written → Prop} (h : Store.Reachable W store) (hopen : store.isOpen = true)
    (hnone : ∀ c ∈ store.origins, c.isSample = false) (n : Nat) (now : Int64) :
    LeavesNothing store (.after n) now ↔
      if store.origins.any (·.hasLookalike) then n ≠ 0 else n ≠ 2 ∧ n ≠ 3 := by
  have hmarks : store.origins.any (·.isMarked) = store.origins.any (·.hasLookalike) :=
    Store.any_eq_of_forall_mem fun c hc => by rw [h.isMarked_eq hc, hnone c hc, Bool.false_or]
  cases hlookalike : store.origins.any (·.hasLookalike) with
  | true =>
    rw [hlookalike] at hmarks
    rw [if_pos rfl]
    cases n with
    | zero =>
      refine iff_of_false (not_leavesNothing (loadSampleData_cancelled hopen rfl) hopen hmarks) ?_
      exact fun hne => hne rfl
    | succ k => exact iff_of_true (leavesNothing_of_ok (loadSampleData_marked hopen hmarks rfl)) k.succ_ne_zero
  | false =>
    rw [hlookalike] at hmarks
    rw [if_neg Bool.false_ne_true]
    have hload := loadSampleData_after hopen hmarks n now
    have hspans := store.any_isMarked_withSpans (SampleData.any_isSample_spans_generate now)
    match n with
    | 0 | 1 => exact iff_of_true (leavesNothing_of_unchanged hopen hmarks hload) (by decide)
    | 2 => exact iff_of_false (not_leavesNothing hload hopen hspans) (by decide)
    | 3 => exact iff_of_false (not_leavesNothing hload hopen (Store.any_isMarked_withLogs hspans)) (by decide)
    | k + 4 => exact iff_of_true (leavesNothing_of_ok hload) (by omega)

/-- A caller that cancels before the first batch is written can load again. -/
theorem leavesNothing_first :
    Store.Reachable (fun _ => True) Store.fresh ∧ Store.fresh.isOpen = true ∧
      (∀ c ∈ Store.fresh.origins, c.isSample = false) ∧ LeavesNothing Store.fresh (.after 1) 0 := by
  have hnone : ∀ c ∈ Store.fresh.origins, c.isSample = false := List.forall_mem_nil _
  exact ⟨Store.reachable_fresh _, rfl, hnone,
    (leavesNothing_iff (Store.reachable_fresh fun _ => True) rfl hnone 1 0).2 (by decide)⟩

/-- A caller that cancels once the spans are written leaves them behind. -/
theorem not_forall_leavesNothing :
    ¬∀ store : Store, Store.Reachable (fun _ => True) store → store.isOpen = true →
      (∀ c ∈ store.origins, c.isSample = false) → ∀ n now, LeavesNothing store (.after n) now := by
  intro h
  have hspans := Store.any_isMarked_withSpans Store.fresh (SampleData.any_isSample_spans_generate 0)
  refine not_leavesNothing (loadSampleData_after rfl rfl 2 0) rfl hspans ?_
  exact h _ (Store.reachable_fresh _) rfl (List.forall_mem_nil _) 2 0

end Service
end Telemetry
