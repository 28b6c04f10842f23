import Telemetry.Proofs.Store.Exactness

/-! The stores that can come about, and what their tables hold: the rows of records that were written. -/
namespace Telemetry

/-- The tables that hold the rows of the records. -/
def Records.tables (r : Records) : Store.Tables where
  spans := r.spans.map .ofSpan
  logs := r.logs.map .ofLog
  metrics := r.metrics.map .ofMetric

namespace Store

/-- A new store in memory, with the usual buffer. -/
def fresh : Store := ⟨memoryPath, defaultFlushEvery, by decide, true, .empty⟩

/-- A store that can come about if only records of a class are written: a new one, or what an operation makes of
one that can. An operation that fails or is cancelled leaves the store alone, and so do reads. -/
inductive Reachable (W : Written → Prop) : Store → Prop
  | start {path : String} {flushEvery : Nat} {store : Store}
      (hstart : start path flushEvery .empty = .ok store) : Reachable W store
  | perform {store : Store} (h : Reachable W store) (c : Command) (hc : ∀ w ∈ c.written, W w) :
      Reachable W (store.perform c).2
  | clearSampleData {store next : Store} {count : Nat} (h : Reachable W store)
      (hclear : store.clearSampleData false = .ok (count, next)) : Reachable W next
  | close {store : Store} (h : Reachable W store) : Reachable W store.close
  | reopen {store next : Store} (h : Reachable W store) (hreopen : store.reopen = .ok next) :
      Reachable W next
  /-- A file holds the tables of the store that was kept in it, whatever buffer it is opened with. -/
  | openFile {store next : Store} {flushEvery : Nat} {path : String} (h : Reachable W store)
      (hopen : openFile flushEvery path (.database store.tables) = .ok next) : Reachable W next

theorem reachable_fresh (W : Written → Prop) : Reachable W fresh :=
  .start (show start memoryPath defaultFlushEvery .empty = .ok fresh from rfl)

variable {store : Store} {r : Records}

theorem represents_iff : store.Represents r ↔ store.isOpen = true ∧ store.tables = r.tables := by
  constructor
  · rintro ⟨hopen, hspans, hlogs, hmetrics⟩
    refine ⟨hopen, ?_⟩
    rw [Records.tables, ← hspans, ← hlogs, ← hmetrics]
  · rintro ⟨hopen, htables⟩
    exact ⟨hopen, congrArg Tables.spans htables, congrArg Tables.logs htables,
      congrArg Tables.metrics htables⟩

theorem check_closed (h : store.isOpen = false) (cancelled : Bool) (operation : Operation) :
    store.check cancelled operation = .error (.connectionClosed operation.text) :=
  if_pos h

/-- The store with more spans at the end of its table. -/
def withSpans (store : Store) (spans : List Span) : Store :=
  { store with tables := { store.tables with spans := store.tables.spans ++ spans.map .ofSpan } }

/-- The store with more logs at the end of its table. -/
def withLogs (store : Store) (logs : List Log) : Store :=
  { store with tables := { store.tables with logs := store.tables.logs ++ logs.map .ofLog } }

/-- The store with more metrics at the end of its table. -/
def withMetrics (store : Store) (metrics : List Metric) : Store :=
  { store with tables := { store.tables with metrics := store.tables.metrics ++ metrics.map .ofMetric } }

@[simp] theorem isOpen_withSpans (store : Store) (spans : List Span) :
    (store.withSpans spans).isOpen = store.isOpen := rfl

@[simp] theorem isOpen_withLogs (store : Store) (logs : List Log) :
    (store.withLogs logs).isOpen = store.isOpen := rfl

/-- An operation on an open store goes on after its check unless the caller has cancelled. -/
theorem check_bind_open {α : Type} (h : store.isOpen = true) (cancelled : Bool) (operation : Operation)
    (next : Unit → Except Failure α) :
    (store.check cancelled operation >>= next) =
      if cancelled then .error (.cancelled operation.text) else next () := by
  rw [check, h, if_neg (by decide)]
  cases cancelled <;> rfl

theorem addSpans_open (h : store.isOpen = true) (cancelled : Bool) (spans : List Span) :
    store.addSpans cancelled spans =
      if cancelled then .error (.cancelled Operation.addSpans.text) else .ok (store.withSpans spans) := by
  simp only [addSpans, check_bind_open h, appendBatch_eq]
  rfl

theorem addLogs_open (h : store.isOpen = true) (cancelled : Bool) (logs : List Log) :
    store.addLogs cancelled logs =
      if cancelled then .error (.cancelled Operation.addLogs.text) else .ok (store.withLogs logs) := by
  simp only [addLogs, check_bind_open h, appendBatch_eq]
  rfl

theorem addMetrics_open (h : store.isOpen = true) (cancelled : Bool) (metrics : List Metric) :
    store.addMetrics cancelled metrics =
      if cancelled then .error (.cancelled Operation.addMetrics.text) else .ok (store.withMetrics metrics) := by
  simp only [addMetrics, check_bind_open h, appendBatch_eq]
  rfl

/-- A closed store stays as it is, whatever is asked of it. -/
theorem perform_closed (h : store.isOpen = false) (c : Command) : (store.perform c).2 = store := by
  cases c with
  | addSpans | addLogs | addMetrics =>
    simp only [perform, addSpans, addLogs, addMetrics, check_closed h]
    rfl
  | clearTraces | clearLogs | clearMetrics =>
    simp only [perform, clearTraces, clearLogs, clearMetrics, check_closed h]
    rfl
  | deleteSpansOfTraces | deleteSpans | deleteLogs | deleteMetrics =>
    simp only [perform, deleteSpansOfTraces, deleteSpans, deleteLogs, deleteMetrics, check_closed h]
    rfl
  | trace | traceSummaries | logs | logsOfTrace | logsOfSpan | log | metrics | metric => rfl

theorem tables_start {path : String} {flushEvery : Nat} {tables : Tables}
    (h : start path flushEvery tables = .ok store) : store.tables = tables := by
  unfold start at h
  split at h
  · cases h
    rfl
  · cases h

theorem clearSampleData_open (h : store.isOpen = true) :
    store.clearSampleData false =
      .ok (store.removeWhere (·.origin.isMarked) (·.origin.isMarked) (·.origin.isMarked)) := by
  simp only [clearSampleData, check_open h]
  rfl

/-- A store that can be cleared of demo data is open. -/
private theorem isOpen_of_clearSampleData {next : Store} {count : Nat}
    (h : store.clearSampleData false = .ok (count, next)) : store.isOpen = true := by
  by_contra hopen
  rw [Bool.not_eq_true] at hopen
  simp only [clearSampleData, check_closed hopen] at h
  cases h

/-- The tables after a reopening are those from before, or empty. -/
private theorem tables_reopen {next : Store} (h : store.reopen = .ok next) :
    next.tables = store.tables ∨ next.tables = .empty := by
  unfold reopen at h
  split at h
  · cases h
    exact .inr rfl
  · split at h
    · cases h
    · cases h
      exact .inl rfl

/-- The tables of an opened file are those that it held, unless the path stands for memory. -/
private theorem tables_openFile {next : Store} {flushEvery : Nat} {path : String} {tables : Tables}
    (h : openFile flushEvery path (.database tables) = .ok next) : next.tables = tables ∨ next.tables = .empty := by
  unfold openFile at h
  split at h
  · exact .inr (tables_start h)
  · exact .inl (tables_start h)

variable {W : Written → Prop}

private theorem exists_empty_records : ∃ r : Records, Tables.empty = r.tables ∧ ∀ w ∈ r.written, W w :=
  ⟨.empty, rfl, List.forall_mem_nil _⟩

/-- The tables of a store that can come about hold rows of records of the class. -/
theorem Reachable.exists_records (h : Reachable W store) :
    ∃ r : Records, store.tables = r.tables ∧ ∀ w ∈ r.written, W w := by
  induction h with
  | start hstart => exact tables_start hstart ▸ exists_empty_records
  | @perform store h c hc ih =>
    obtain ⟨r, htables, hr⟩ := ih
    cases hopen : store.isOpen with
    | false => exact ⟨r, by rw [perform_closed hopen, htables], hr⟩
    | true =>
      have hnext := (perform_refines (represents_iff.2 ⟨hopen, htables⟩) c).2
      exact ⟨_, (represents_iff.1 hnext).2, Records.written_perform hr hc⟩
  | clearSampleData h hclear ih =>
    obtain ⟨r, htables, hr⟩ := ih
    have hopen := isOpen_of_clearSampleData hclear
    rw [clearSampleData_open hopen] at hclear
    have hnext := (removeWhere_represents (represents_iff.2 ⟨hopen, htables⟩) (·.origin.isMarked)
      (·.origin.isMarked) (·.origin.isMarked)).2
    rw [Except.ok.inj hclear] at hnext
    refine ⟨_, (represents_iff.1 hnext).2, ?_⟩
    obtain ⟨hspans, hlogs, hmetrics⟩ := Records.forall_mem_written.1 hr
    exact Records.forall_mem_written.2 ⟨fun s hs => hspans s (List.mem_of_mem_filter hs),
      fun l hl => hlogs l (List.mem_of_mem_filter hl), fun m hm => hmetrics m (List.mem_of_mem_filter hm)⟩
  | close h ih => exact ih
  | reopen h hreopen ih =>
    rcases tables_reopen hreopen with htables | htables
    · rwa [htables]
    · exact htables ▸ exists_empty_records
  | openFile h hopen ih =>
    rcases tables_openFile hopen with htables | htables
    · rwa [htables]
    · exact htables ▸ exists_empty_records

/-- An open store that can come about represents records of the class. -/
theorem Reachable.exists_represents (h : Reachable W store) (hopen : store.isOpen = true) :
    ∃ r : Records, store.Represents r ∧ ∀ w ∈ r.written, W w := by
  obtain ⟨r, htables, hr⟩ := h.exists_records
  exact ⟨r, represents_iff.2 ⟨hopen, htables⟩, hr⟩

/-- A read that is answered well succeeds. -/
theorem eq_ok_of_answered {α : Type} {answer : α → Answer} (hinjective : Function.Injective answer)
    (hanswer : ∀ x e, answer x ≠ .failed e) {result : Except Failure α} {x : α}
    (h : answered answer result = answer x) : result = .ok x := by
  cases result with
  | ok y => exact congrArg _ (hinjective h)
  | error e => exact absurd h.symm (hanswer x e)

end Store
end Telemetry
