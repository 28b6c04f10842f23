import Telemetry.Proofs.Service.Dispatch

/-! The stores that a service can come to have, whatever is sent to it, written past it and asked of it. Operations on
the store alone lead to no fewer. -/
namespace Telemetry

open Store (Call)

namespace Store.Reachable

variable {store : Store} {W : Written → Prop}

theorem withSpans (h : Reachable W store) (hopen : store.isOpen = true) (spans : List Span)
    (hspans : ∀ s ∈ spans, W (.span s)) : Reachable W (store.withSpans spans) := by
  have hnext := h.perform (.addSpans spans) (List.forall_mem_map.2 hspans)
  rwa [Store.perform, addSpans_open hopen] at hnext

theorem withLogs (h : Reachable W store) (hopen : store.isOpen = true) (logs : List Log)
    (hlogs : ∀ l ∈ logs, W (.log l)) : Reachable W (store.withLogs logs) := by
  have hnext := h.perform (.addLogs logs) (List.forall_mem_map.2 hlogs)
  rwa [Store.perform, addLogs_open hopen] at hnext

theorem withMetrics (h : Reachable W store) (hopen : store.isOpen = true) (metrics : List Metric)
    (hmetrics : ∀ m ∈ metrics, W (.metric m)) : Reachable W (store.withMetrics metrics) := by
  have hnext := h.perform (.addMetrics metrics) (List.forall_mem_map.2 hmetrics)
  rwa [Store.perform, addMetrics_open hopen] at hnext

end Store.Reachable

namespace Service

/-- A store that a service can come to have: a new one, or what becomes of one that it can have by an export request, a
request of a client, the loading of demo data or a call past the service, whether the callers cancel or not, or when the
store is closed and opened again. -/
inductive Reachable : Store → Prop
  | start {path : String} {flushEvery : Nat} {store : Store}
      (hstart : Store.start path flushEvery .empty = .ok store) : Reachable store
  | call {store : Store} (h : Reachable store) (cancelled : Bool) (c : Call) :
      Reachable (store.call cancelled c).2
  | ingestTraces {store next : Store} {token : Token} {count : Nat} {resources}
      (h : Reachable store) (hingest : (ingestTraces store token resources).value = .ok (count, next)) :
      Reachable next
  | ingestLogs {store next : Store} {token : Token} {count : Nat} {resources}
      (h : Reachable store) (hingest : (ingestLogs store token resources).value = .ok (count, next)) :
      Reachable next
  | ingestMetrics {store next : Store} {token : Token} {now : Int64} {count : Nat} {resources}
      (h : Reachable store) (hingest : (ingestMetrics store token now resources).value = .ok (count, next)) :
      Reachable next
  | handle {store : Store} (h : Reachable store) (token : Token) (now : Int64) (request : Request) :
      Reachable (handle store token now request).value.2
  | loadSampleData {store : Store} (h : Reachable store) (token : Token) (now : Int64) :
      Reachable (loadSampleData store token now).value.2
  | close {store : Store} (h : Reachable store) : Reachable store.close
  | reopen {store next : Store} (h : Reachable store) (hreopen : store.reopen = .ok next) : Reachable next
  | openFile {store next : Store} {flushEvery : Nat} {path : String} (h : Reachable store)
      (hopen : Store.openFile flushEvery path (.database store.tables) = .ok next) : Reachable next

theorem reachable_fresh : Reachable Store.fresh :=
  .start (show Store.start Store.memoryPath Store.defaultFlushEvery .empty = .ok Store.fresh from rfl)

variable {store : Store} {token : Token} {now : Int64}

/-- Rolling back is one call. -/
theorem value_rollBack (interrupted : Interrupted) :
    (rollBack interrupted token).value =
      (interrupted.store.call (token interrupted.checks) .clearSampleData).2 := by
  rw [rollBack, Store.call]
  cases interrupted.store.clearSampleData (token interrupted.checks) <;> rfl

theorem loadSampleData_closed (h : store.isOpen = false) :
    (loadSampleData store token now).value =
      (.error (.connectionClosed Store.Operation.findSampleData.text), store) := by
  rw [loadSampleData, Store.sampleDataExists, Store.check_closed h]
  rfl

/-- A store that can come about by any operations, whatever is written. -/
private abbrev Grows (store : Store) : Prop := Store.Reachable (fun _ => True) store

private theorem grows_rollBack {interrupted : Interrupted} (h : Grows interrupted.store) (token : Token) :
    Grows (rollBack interrupted token).value := by
  rw [value_rollBack]
  exact h.call _ fun _ _ => trivial

private theorem grows_loadSampleData (h : Grows store) (token : Token) (now : Int64) :
    Grows (loadSampleData store token now).value.2 := by
  cases hopen : store.isOpen with
  | false => rwa [loadSampleData_closed hopen]
  | true =>
    cases hlive : token 0 with
    | true => rwa [loadSampleData_cancelled hopen hlive]
    | false =>
      cases hmarked : store.origins.any (·.isMarked) with
      | true => rwa [loadSampleData_marked hopen hmarked hlive]
      | false =>
        let data := (SampleData.generate now).value
        have hspans := h.withSpans hopen data.spans fun _ _ => trivial
        have hlogs := hspans.withLogs hopen data.logs fun _ _ => trivial
        have hmetrics := hlogs.withMetrics hopen data.metrics fun _ _ => trivial
        rw [loadSampleData_unmarked hopen hmarked hlive, writeSampleData_open hopen]
        cases token 1 with
        | true => exact grows_rollBack h token
        | false =>
          cases token 2 with
          | true => exact grows_rollBack hspans token
          | false =>
            cases token 3 with
            | true => exact grows_rollBack hlogs token
            | false => exact hmetrics

/-- The tables a request leaves do not depend on how it is answered. -/
theorem store_handle (store : Store) (token : Token) (now : Int64) (request : Request) :
    (handle store token now request).value.2 = (dispatch store token now request).value.2 := by
  rw [value_handle]
  generalize (dispatch store token now request).value = outcome
  obtain ⟨result, next⟩ := outcome
  cases result <;> rfl

private theorem grows_handle (h : Grows store) (token : Token) (now : Int64) (request : Request) :
    Grows (handle store token now request).value.2 := by
  rw [store_handle]
  cases hblank : request.blankID? with
  | some name => rwa [dispatch_blank hblank]
  | none =>
    cases hcall : request.call? with
    | some c =>
      rw [dispatch_call hcall hblank]
      exact h.call _ fun _ _ => trivial
    | none =>
      cases request with
      | getSampleData => exact h
      | loadSampleData => exact grows_loadSampleData h token now
      | _ => cases hcall

/-- An export request that is accepted leaves what one call leaves. -/
private theorem grows_ingested {cancelled : Bool} {c : Store.Command} {added : Except Failure Store} {n count : Nat}
    {next : Store} (h : Grows store) (hadded : store.performFor cancelled c = store.changed added)
    (hingest : (n, ·) <$> added = .ok (count, next)) : Grows next := by
  cases added with
  | error e => cases hingest
  | ok grown =>
    obtain rfl : grown = next := congrArg Prod.snd (Except.ok.inj hingest)
    have hnext := h.call cancelled (c := .command c) fun _ _ => trivial
    rwa [Store.call, hadded] at hnext

/-- Whatever a service does to a store, operations on the store alone can do too. -/
theorem Reachable.onStore (h : Reachable store) : Store.Reachable (fun _ => True) store := by
  induction h with
  | start hstart => exact .start hstart
  | call _ cancelled c ih => exact ih.call cancelled fun _ _ => trivial
  | ingestTraces _ hingest ih => exact grows_ingested (c := .addSpans _) ih rfl hingest
  | ingestLogs _ hingest ih => exact grows_ingested (c := .addLogs _) ih rfl hingest
  | ingestMetrics _ hingest ih => exact grows_ingested (c := .addMetrics _) ih rfl hingest
  | handle _ token now request ih => exact grows_handle ih token now request
  | loadSampleData _ token now ih => exact grows_loadSampleData ih token now
  | close _ ih => exact ih.close
  | reopen _ hreopen ih => exact ih.reopen hreopen
  | openFile _ hopen ih => exact ih.openFile hopen

end Service
end Telemetry
