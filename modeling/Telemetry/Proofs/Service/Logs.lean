import Telemetry.Proofs.Service.Listing
import Telemetry.Proofs.Store.Addressing

/-! The logs that clients list: all of them, those of a trace and those of a span. The shorter lists are parts of the
list of all logs, in its order. -/
namespace Telemetry

/-- A log as a store holds it, with the id it was written under. -/
structure StoredLog where
  id : String
  log : Log

namespace StoredLog

/-- Later effective time first; of equal times the smaller stored id. -/
def ListedBefore : StoredLog → StoredLog → Prop := LaterFirst (·.log.effectiveTimestamp) (·.id)

/-- What is held of a log that is written. -/
def ofLog (l : Log) : StoredLog := ⟨l.id, l.restored⟩

/-- Logs that may stand in either order. -/
def ties (a b : StoredLog) : Bool := a.log.effectiveTimestamp == b.log.effectiveTimestamp && a.id == b.id

@[simp] theorem id_ofLog (l : Log) : (ofLog l).id = l.id := rfl

@[simp] theorem effectiveTimestamp_ofLog (l : Log) :
    (ofLog l).log.effectiveTimestamp = l.effectiveTimestamp := rfl

end StoredLog

namespace Store

/-- The logs of a store in the order they were written; none if one of the rows cannot be read. -/
def storedLogs? (store : Store) : Option (List StoredLog) :=
  store.tables.logs.mapM fun row => row.toLog?.map (⟨row.id, ·⟩)

/-- The logs of a store in the order in which they are listed, and what each reading shows of them. -/
structure ListsLogs (store : Store) (listed : List StoredLog) : Prop where
  /-- Listed is every stored log, as often as it is stored, and logs that tie stay in the order they were written. -/
  stored : ∃ stored, store.storedLogs? = some stored ∧ listed.Perm stored ∧
    ∀ l : StoredLog, listed.filter l.ties = stored.filter l.ties
  ordered : listed.Pairwise StoredLog.ListedBefore
  all : store.logs false = .ok (listed.map (·.log))
  ofTrace : ∀ traceID, store.logsOfTrace false traceID =
    .ok ((listed.map (·.log)).filter (·.traceID == traceID))
  ofSpan : ∀ traceID spanID, store.logsOfSpan false traceID spanID =
    .ok (((listed.map (·.log)).filter (·.traceID == traceID)).filter (·.spanID == spanID))

end Store

theorem Log.precedes_iff (a b : Log) :
    a.precedes b = true ↔ LaterFirst Log.effectiveTimestamp Log.id a b := by
  simp [precedes, LaterFirst, TimeThenID]

namespace Records

variable (r : Records)

/-- The logs in the order in which they are listed. -/
def listedLogs : List StoredLog := (r.logs.mergeSort Log.precedes).map .ofLog

theorem perm_listedLogs : r.listedLogs.Perm (r.logs.map .ofLog) := (List.mergeSort_perm _ _).map _

theorem pairwise_listedLogs : r.listedLogs.Pairwise StoredLog.ListedBefore := by
  have hsorted : (r.logs.mergeSort Log.precedes).Pairwise fun a b => a.precedes b = true :=
    List.pairwise_mergeSort (LaterFirst.trans_of_iff Log.precedes_iff)
      (LaterFirst.total_of_iff Log.precedes_iff) _
  exact List.pairwise_map.2 (hsorted.imp fun h => (Log.precedes_iff _ _).1 h)

/-- Logs that are chosen and listed are those of the list that would be chosen. -/
theorem filter_listedLogs (keep : StoredLog → Bool) :
    r.listedLogs.filter keep =
      ((r.logs.filter fun l => keep (.ofLog l)).mergeSort Log.precedes).map .ofLog := by
  rw [listedLogs, List.filter_map, filter_mergeSort (LaterFirst.trans_of_iff Log.precedes_iff)
    (LaterFirst.total_of_iff Log.precedes_iff)]
  rfl

/-- Sorting leaves logs that tie where they are. -/
theorem filter_ties_listedLogs (l : StoredLog) :
    r.listedLogs.filter l.ties = (r.logs.map .ofLog).filter l.ties := by
  rw [filter_listedLogs, List.filter_map, List.mergeSort_of_pairwise]
  · rfl
  have hties : ∀ a ∈ r.logs.filter fun a => l.ties (.ofLog a),
      l.log.effectiveTimestamp = a.effectiveTimestamp ∧ l.id = a.id := by
    intro a ha
    simpa [StoredLog.ties] using (List.mem_filter.1 ha).2
  refine List.pairwise_of_forall_mem_list fun a ha b hb => (Log.precedes_iff a b).2 (.inr ?_)
  obtain ⟨htime, hid⟩ := hties a ha
  obtain ⟨htime', hid'⟩ := hties b hb
  exact ⟨htime.symm.trans htime', (hid.symm.trans hid').le⟩

end Records

namespace Store

variable {W : Written → Prop} {store : Store} {r : Records}

theorem Represents.storedLogs?_eq (h : store.Represents r) : store.storedLogs? = some (r.logs.map .ofLog) := by
  rw [storedLogs?, h.logs]
  exact mapM_map (fun l => by rw [LogRow.toLog?_ofLog]; rfl) _

theorem Represents.logs_eq_listedLogs (h : store.Represents r) :
    store.logs false = .ok (r.listedLogs.map (·.log)) := by
  rw [h.logs_eq, Records.listedLogs, List.map_map]
  rfl

private theorem eq_ok_of_logsWhere {result : Except Failure (List Log)} {keep : Log → Bool}
    (h : answered .logs result = Records.logsWhere .restored r.logs fun l => keep l.restored) :
    result = .ok ((r.listedLogs.map (·.log)).filter keep) := by
  refine eq_ok_of_answered (fun _ _ => Answer.logs.inj) (fun _ _ => Answer.noConfusion) (h.trans ?_)
  rw [List.filter_map, Records.filter_listedLogs, List.map_map]
  rfl

theorem Represents.logsOfTrace_eq (h : store.Represents r) (traceID : String) :
    store.logsOfTrace false traceID = .ok ((r.listedLogs.map (·.log)).filter (·.traceID == traceID)) :=
  eq_ok_of_logsWhere (perform_refines h (.logsOfTrace traceID)).1

theorem Represents.logsOfSpan_eq (h : store.Represents r) (traceID spanID : String) :
    store.logsOfSpan false traceID spanID =
      .ok (((r.listedLogs.map (·.log)).filter (·.traceID == traceID)).filter (·.spanID == spanID)) := by
  have hboth : store.logsOfSpan false traceID spanID =
      .ok ((r.listedLogs.map (·.log)).filter fun l => l.traceID == traceID && l.spanID == spanID) :=
    eq_ok_of_logsWhere (perform_refines h (.logsOfSpan traceID spanID)).1
  rw [hboth, List.filter_filter]
  simp only [Bool.and_comm]

theorem Represents.listsLogs (h : store.Represents r) : store.ListsLogs r.listedLogs where
  stored := ⟨_, h.storedLogs?_eq, r.perm_listedLogs, r.filter_ties_listedLogs⟩
  ordered := r.pairwise_listedLogs
  all := h.logs_eq_listedLogs
  ofTrace := h.logsOfTrace_eq
  ofSpan := h.logsOfSpan_eq

end Store

namespace Service

variable {W : Written → Prop} {store : Store} {token : Token} {now : Int64}

/-- The part of the list of logs that a request for the logs of a trace asks for: those of the span if one is named. -/
def askedLogs (logs : List Log) (traceID : String) (spanID : Option String) : List Log :=
  let ofTrace := logs.filter (·.traceID == traceID)
  match spanID.filter (· ≠ "") with
  | some spanID => ofTrace.filter (·.spanID == spanID)
  | none => ofTrace

private theorem call_getLogsOfTrace {listed : List StoredLog} (h : store.ListsLogs listed) (traceID : String)
    (spanID : Option String) :
    store.call false (.command (if spanID.getD "" = "" then .logsOfTrace traceID
        else .logsOfSpan traceID (spanID.getD ""))) =
      (.answer (.logs (askedLogs (listed.map (·.log)) traceID spanID)), store) := by
  have htrace : store.call false (.command (.logsOfTrace traceID)) =
      (.answer (.logs ((listed.map (·.log)).filter (·.traceID == traceID))), store) := by
    simp only [Store.call, Store.performFor, h.ofTrace, Store.answered]
  cases spanID with
  | none => exact htrace
  | some spanID =>
    by_cases hspan : spanID = ""
    · rw [Option.getD_some, if_pos hspan, htrace, askedLogs, Option.filter_some]
      simp [hspan]
    · rw [Option.getD_some, if_neg hspan, askedLogs, Option.filter_some]
      simp [hspan, Store.call, Store.performFor, h.ofSpan, Store.answered]

theorem handle_getLogsOfTrace {listed : List StoredLog} (h : store.ListsLogs listed) (hlive : token 0 = false)
    {traceID : String} (hblank : Text.trimChars traceID.toList ≠ []) (spanID : Option String) :
    (handle store token now (.getLogsOfTrace traceID spanID)).value =
      (.logs (askedLogs (listed.map (·.log)) traceID spanID), store) := by
  have hid : (Request.getLogsOfTrace traceID spanID).blankID? = none := if_neg hblank
  rw [value_handle, dispatch_call rfl hid, hlive, call_getLogsOfTrace h]
  rfl

/-- The logs of an open store have one order, in which each reading shows its part of them. A request for the logs of a
trace that is not left blank is answered with that part. -/
theorem exists_listsLogs (h : Store.Reachable W store) (hopen : store.isOpen = true) :
    ∃ listed : List StoredLog, store.ListsLogs listed ∧
      ∀ (token : Token) (now : Int64) (traceID : String) (spanID : Option String), token 0 = false →
        (handle store token now (.getLogsOfTrace traceID spanID)).value =
          (if Text.trimChars traceID.toList = [] then .error blankTraceID
            else .logs (askedLogs (listed.map (·.log)) traceID spanID), store) := by
  obtain ⟨r, hrep, -⟩ := h.exists_represents hopen
  refine ⟨r.listedLogs, hrep.listsLogs, fun token now traceID spanID hlive => ?_⟩
  split
  · exact handle_blankTrace (if_pos ‹_›)
  · exact handle_getLogsOfTrace hrep.listsLogs hlive ‹_› spanID

/-- A store with a log of no trace, and logs of one trace, two of which have the same time and one of which has only
the time it was observed. -/
def partlyTracedLogs : Store :=
  Store.fresh.withLogs [
    .empty,
    { Log.empty with traceID := "t", spanID := "s", timestamp := 5 },
    { Log.empty with traceID := "t", timestamp := 5, body := some (.string "x") },
    { Log.empty with traceID := "t", observedTimestamp := 7 }]

theorem reachable_partlyTracedLogs : Store.Reachable (fun _ => True) partlyTracedLogs :=
  (Store.reachable_fresh _).withLogs rfl _ fun _ _ => trivial

theorem exists_listsLogs_partlyTraced :
    Store.Reachable (fun _ => True) partlyTracedLogs ∧ partlyTracedLogs.isOpen = true ∧
      ∃ listed : List StoredLog, partlyTracedLogs.ListsLogs listed ∧
        (handle partlyTracedLogs .live 0 (.getLogsOfTrace "t" (some "s"))).value =
          (.logs (((listed.map (·.log)).filter (·.traceID == "t")).filter (·.spanID == "s")), partlyTracedLogs) := by
  obtain ⟨listed, hlisted, hanswer⟩ := exists_listsLogs reachable_partlyTracedLogs rfl
  exact ⟨reachable_partlyTracedLogs, rfl, listed, hlisted, hanswer .live 0 "t" (some "s") rfl⟩

/-- The log of no trace is listed, but a request for the logs without a trace is refused. -/
theorem not_forall_handle_askedLogs :
    ¬∀ store : Store, Store.Reachable (fun _ => True) store → store.isOpen = true → ∀ logs now traceID spanID,
      store.logs false = .ok logs →
        (handle store .live now (.getLogsOfTrace traceID spanID)).value.1 =
          .logs (askedLogs logs traceID spanID) := by
  intro h
  obtain ⟨r, hrep, -⟩ := reachable_partlyTracedLogs.exists_represents rfl
  have hanswer := h _ reachable_partlyTracedLogs rfl _ 0 "" none hrep.listsLogs.all
  rw [handle_blankTrace rfl] at hanswer
  cases hanswer

end Service
end Telemetry
