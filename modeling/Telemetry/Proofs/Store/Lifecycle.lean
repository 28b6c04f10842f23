import Telemetry.Proofs.Store.Call

/-! The life of a store from its opening to its reopening. All handles of a store share it, so that a run is the list of
what is done through any of them. From the first closing on nothing is answered and nothing changes, and a file that is
opened again answers as before. -/
namespace Telemetry.Store

/-- What is done with a store through one of its handles. -/
inductive Action
  | call (cancelled : Bool) (c : Call)
  /-- closing, with what the engine reports when it lets go of the rows -/
  | close (engine : Except String Unit)

namespace Action

/-- The reply on a store that is closed already. -/
def closedReply : Action → Reply
  | .call _ c => .failed (.connectionClosed c.operation.text)
  | .close _ => .answer .done

end Action

/-- The reply to a closing. -/
def closeReply : Except Failure Unit → Reply
  | .ok () => .answer .done
  | .error e => .failed e

/-- One action: its reply and the store after it. -/
def act (store : Store) : Action → Reply × Store
  | .call cancelled c => store.call cancelled c
  | .close engine => (closeReply (store.closing engine), store.close)

/-- The store after a run. -/
def after (store : Store) : List Action → Store
  | [] => store
  | a :: rest => (store.act a).2.after rest

/-- The replies of a run. -/
def replies (store : Store) : List Action → List Reply
  | [] => []
  | a :: rest => (store.act a).1 :: (store.act a).2.replies rest

/-- Both stores answer every read alike, whether the caller has cancelled or not. -/
def ReadsAlike (store other : Store) : Prop :=
  ∀ c : Call, c.IsRead → ∀ cancelled, (store.call cancelled c).1 = (other.call cancelled c).1

/-- A run of calls only, each with whether its caller has cancelled. -/
def calls (run : List (Bool × Call)) : List Action := run.map fun (cancelled, c) => .call cancelled c

variable {store : Store}

section Open

private theorem perform_frame (h : store.isOpen = true) (c : Command) :
    (store.perform c).2 = { store with tables := (store.perform c).2.tables } := by
  cases c with
  | addSpans | addLogs | addMetrics =>
    simp only [perform, addSpans_open h, addLogs_open h, addMetrics_open h]
    rfl
  | clearTraces | clearLogs | clearMetrics =>
    simp only [perform, clearTraces, clearLogs, clearMetrics, check_open h]
    rfl
  | deleteSpansOfTraces | deleteSpans | deleteLogs | deleteMetrics =>
    simp only [perform, deleteSpansOfTraces, deleteSpans, deleteLogs, deleteMetrics, check_open h]
    rfl
  | trace | traceSummaries | logs | logsOfTrace | logsOfSpan | log | metrics | metric => rfl

/-- A call changes nothing of a store but its tables. -/
theorem call_frame (h : store.isOpen = true) (cancelled : Bool) (c : Call) :
    (store.call cancelled c).2 = { store with tables := (store.call cancelled c).2.tables } := by
  cases cancelled with
  | true => rw [call_cancelled h]
  | false =>
    cases c with
    | command c =>
      rw [call_live]
      exact perform_frame h c
    | findSampleData => rfl
    | clearSampleData =>
      rw [call, clearSampleData_open h]
      rfl

/-- A run of calls leaves a store open and under its path. -/
theorem after_calls (h : store.isOpen = true) (run : List (Bool × Call)) :
    (store.after (calls run)).isOpen = true ∧ (store.after (calls run)).path = store.path := by
  induction run generalizing store with
  | nil => exact ⟨h, rfl⟩
  | cons turn rest ih =>
    obtain ⟨cancelled, c⟩ := turn
    have hframe := call_frame h cancelled c
    have hopen : (store.call cancelled c).2.isOpen = true := by
      rw [hframe]
      exact h
    have hpath : (store.call cancelled c).2.path = store.path := by rw [hframe]
    obtain ⟨hrest, hplace⟩ := ih hopen
    exact ⟨hrest, hplace.trans hpath⟩

end Open

section Closed

theorem close_closed (h : store.isOpen = false) : store.close = store := by
  rw [close, ← h]

/-- Closing again succeeds, whatever the engine would report, and all else is refused. -/
theorem act_closed (h : store.isOpen = false) (a : Action) : store.act a = (a.closedReply, store) := by
  cases a with
  | call cancelled c => exact call_closed h cancelled c
  | close engine =>
    have hclosing : store.closing engine = .ok () := if_neg (by simp [h])
    rw [act, hclosing, close_closed h]
    rfl

theorem after_closed (h : store.isOpen = false) (rest : List Action) : store.after rest = store := by
  induction rest with
  | nil => rfl
  | cons a rest ih => rw [after, act_closed h, ih]

theorem replies_closed (h : store.isOpen = false) (rest : List Action) :
    store.replies rest = rest.map Action.closedReply := by
  induction rest with
  | nil => rfl
  | cons a rest ih => rw [replies, act_closed h, ih, List.map_cons]

end Closed

section Reopening

/-- A store in a file that is closed is opened again as it was, unless its path ends in a slash. -/
theorem reopen_close (h : store.isOpen = true) (hfile : isMemoryPath store.path = false) :
    store.close.reopen = if store.path.endsWith "/" then .error (.storage openFailure) else .ok store := by
  have hopened : { store.close with isOpen := true } = store := by rw [close, ← h]
  have hclosed : isMemoryPath store.close.path = false := hfile
  rw [reopen, hclosed, hopened]
  rfl

/-- A store in memory that is closed is a new one when it is opened again. -/
theorem reopen_close_memory (h : store.isOpen = true) (hmemory : isMemoryPath store.path = true) :
    store.close.reopen = .ok { store with tables := .empty } := by
  have hclosed : isMemoryPath store.close.path = true := hmemory
  rw [reopen, if_pos hclosed, close, ← h]

theorem ReadsAlike.refl (store : Store) : store.ReadsAlike store := fun _ _ _ => rfl

/-- The buffer a file is opened with makes no difference to reads. -/
theorem exists_openFile (h : store.isOpen = true) {flushEvery : Nat} (hpos : 0 < flushEvery) {path : String}
    (hfile : isMemoryPath path = false) :
    ∃ next, openFile flushEvery path (.database store.tables) = .ok next ∧ next.ReadsAlike store := by
  refine ⟨⟨path, flushEvery, hpos, true, store.tables⟩, ?_, ?_⟩
  · rw [openFile, hfile]
    exact dif_pos hpos
  · intro c hc cancelled
    refine call_read_congr ?_ ?_ hc cancelled
    · exact h.symm
    · rfl

end Reopening

/-- The file of a closed store is opened again, with its own buffer or another one, and every read is answered as it
was by the other store. -/
structure ReopensAs (store last : Store) : Prop where
  reopen : ∃ next, store.reopen = .ok next ∧ next.ReadsAlike last
  openFile : ∀ flushEvery, 0 < flushEvery → ∃ next,
    openFile flushEvery store.path (.database store.tables) = .ok next ∧ next.ReadsAlike last

/-- Through whichever handles a store is used, it is open up to its first closing, and a caller that has cancelled is
refused until then. From the first closing on it is closed, each closing succeeds and each call is refused as the
operation it is, and nothing changes. The file answers as it did just before, if its path can be opened again; what was
in memory is gone. -/
theorem lifecycle (hopen : store.isOpen = true) (before : List (Bool × Call)) (engine : Except String Unit)
    (rest : List Action) :
    let last := store.after (calls before)
    let final := last.after (.close engine :: rest)
    (last.isOpen = true ∧ ∀ c, last.call true c = (.failed (.cancelled c.operation.text), last)) ∧
      (final.isOpen = false ∧ final.tables = last.tables ∧
        last.close.replies rest = rest.map Action.closedReply) ∧
      if isMemoryPath last.path then final.reopen = .ok { last with tables := .empty }
      else if last.path.endsWith "/" then final.reopen = .error (.storage openFailure)
      else final.ReopensAs last := by
  intro last final
  have hlast : last.isOpen = true := (after_calls hopen before).1
  have hclosed : last.close.isOpen = false := rfl
  have hfinal : final = last.close := after_closed hclosed rest
  refine ⟨⟨hlast, call_cancelled hlast⟩, ⟨?_, ?_, replies_closed hclosed rest⟩, ?_⟩
  · rw [hfinal]
    exact hclosed
  · rw [hfinal]
    rfl
  · rw [hfinal]
    cases hmemory : isMemoryPath last.path with
    | true => exact reopen_close_memory hlast hmemory
    | false =>
      have hreopen := reopen_close hlast hmemory
      rw [if_neg Bool.false_ne_true]
      split at hreopen
      · rw [if_pos ‹_›]
        exact hreopen
      · rw [if_neg ‹_›]
        exact ⟨⟨last, hreopen, .refl last⟩, fun _ hpos => exists_openFile hlast hpos hmemory⟩

/-- A new store in a file with the given path. -/
def inFile (path : String) : Store := { fresh with path := path }

/-- A log is written and a cancelled clearing refused before the store is closed; afterwards an empty batch and a
second closing, which the engine would fail. -/
theorem lifecycle_inFile :
    (inFile "x.db").isOpen = true ∧
      let last := (inFile "x.db").after
        (calls [(false, .command (.addLogs [Log.empty])), (true, .command .clearLogs)])
      let rest : List Action := [.call true (.command (.addLogs [])), .close (.error "busy")]
      last.tables.logs = [.ofLog Log.empty] ∧
        last.close.replies rest =
          [.failed (.connectionClosed "failed to add logs"), .answer .done] ∧
        (last.after (.close (.ok ()) :: rest)).ReopensAs last := by
  obtain ⟨-, ⟨-, -, hreplies⟩, hreopens⟩ := lifecycle (rfl : (inFile "x.db").isOpen = true)
    [(false, .command (.addLogs [Log.empty])), (true, .command .clearLogs)] (.ok ())
    [.call true (.command (.addLogs [])), .close (.error "busy")]
  rw [if_neg (by decide +kernel), if_neg (by decide +kernel)] at hreopens
  exact ⟨rfl, rfl, hreplies, hreopens⟩

/-- A path that ends in a slash is good for a new file but not for opening it again. -/
theorem not_forall_reopensAs :
    ¬∀ (flushEvery : Nat) (path : String) (found : Found) (store : Store), isMemoryPath path = false →
      openFile flushEvery path found = .ok store → store.close.ReopensAs store := by
  intro h
  have hfile : isMemoryPath "x.db/" = false := by decide +kernel
  have hfound : openFile defaultFlushEvery "x.db/" .nothing = .ok (inFile "x.db/") := by
    rw [openFile, hfile]
    rfl
  obtain ⟨next, hnext, -⟩ := (h _ _ _ _ hfile hfound).reopen
  have hreopen : (inFile "x.db/").close.reopen = _ := reopen_close rfl hfile
  have hslash : (inFile "x.db/").path.endsWith "/" = true := by decide +kernel
  rw [if_pos hslash, hnext] at hreopen
  cases hreopen

end Telemetry.Store
