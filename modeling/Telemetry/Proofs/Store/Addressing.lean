import Telemetry.Proofs.Store.Reachable

/-! When clients find a record again under the content id of what they read. Ids are digests of texts, among them
the body of a log and the name of a service; a record that comes back with another text has another id. -/
namespace Telemetry

open Json (stored)

namespace Written

/-- The record comes back with the content id it was written under. A span is not found by one. -/
def KeepsID : Written → Prop
  | span _ => True
  | log l => l.restored.id = l.id
  | metric m => m.restored.id = m.id

/-- The doubles that show in the content id: those of the name of the service, and the body of a log. -/
def idDoubles : Written → List Float
  | span _ => []
  | log l => l.body.elim [] Body.doubles ++ (l.resource.attributes.get? serviceNameKey).elim [] (·.doubles)
  | metric m => (m.resource.attributes.get? serviceNameKey).elim [] (·.doubles)

end Written

section Texts

theorem Attributes.stringValue_restored {a : Attributes} {key : String}
    (h : ∀ x ∈ (a.get? key).elim [] (·.doubles), stored x = x) :
    a.restored.stringValue key = a.stringValue key := by
  have hget : a.restored.get? key = a.get? key := by
    rw [get?_restored]
    cases hv : a.get? key with
    | none => rfl
    | some v => rw [Option.map_some, v.restored_eq_self_iff.2 (by simpa [hv] using h)]
  rw [stringValue, stringValue, hget]

theorem Log.bodyText_restored {l : Log} (h : ∀ x ∈ l.body.elim [] Body.doubles, stored x = x) :
    l.restored.bodyText = l.bodyText := by
  have hbody : l.restored.body = l.body := by
    show l.body.map Body.restored = l.body
    cases hb : l.body with
    | none => rfl
    | some b => rw [Option.map_some, b.restored_eq_self_iff.2 (by simpa [hb] using h)]
  rw [bodyText, bodyText, hbody]

end Texts

/-- Ids without doubles, or with doubles that are read back, are kept. -/
theorem Written.keepsID_of_stored {w : Written} (h : ∀ x ∈ w.idDoubles, stored x = x) : w.KeepsID := by
  cases w with
  | span s => trivial
  | log l =>
    obtain ⟨hbody, hservice⟩ := List.forall_mem_append.1 h
    show Identity.contentId [_, l.resource.attributes.restored.stringValue _, l.restored.bodyText, _] = _
    rw [Attributes.stringValue_restored hservice, Log.bodyText_restored hbody]
    rfl
  | metric m =>
    show Identity.contentId [_, m.resource.attributes.restored.stringValue _, _, _] = _
    rw [Attributes.stringValue_restored h]
    rfl

namespace Store

/-- Every log and metric that is read is found again under its id. -/
structure Addressable (store : Store) : Prop where
  logs : ∃ logs, store.logs false = .ok logs ∧ ∀ l ∈ logs,
    (∃ found, store.log false l.id = .ok found ∧ found.id = l.id) ∧
      ∃ count next, store.deleteLogs false [l.id] = .ok (count, next) ∧ 0 < count
  metrics : ∃ metrics, store.metrics false = .ok metrics ∧ ∀ m ∈ metrics.value,
    ∃ found, store.metric false m.id = .ok found ∧ found.value.id = m.id

variable {W : Written → Prop} {store : Store} {r : Records}

theorem Represents.logs_eq (h : store.Represents r) :
    store.logs false = .ok ((r.logs.mergeSort Log.precedes).map Log.restored) := by
  refine eq_ok_of_answered (fun _ _ => Answer.logs.inj) (fun _ _ => Answer.noConfusion) ?_
  refine (perform_refines h .logs).1.trans ?_
  show Answer.logs _ = _
  rw [List.filter_true]
  rfl

theorem Represents.metrics_eq (h : store.Represents r) :
    store.metrics false =
      .ok (Reported.each Readback.restored.metric (r.metrics.mergeSort Metric.precedes)) :=
  eq_ok_of_answered (fun _ _ => Answer.metrics.inj) (fun _ _ => Answer.noConfusion)
    (perform_refines h .metrics).1

/-- The first metric under an id is read as it comes back. -/
theorem Represents.metric_eq (h : store.Represents r) {id : String} {m : Metric}
    (hm : r.metrics.find? (·.id == id) = some m) :
    store.metric false id = .ok (Readback.restored.metric m) := by
  refine eq_ok_of_answered (fun _ _ => Answer.metric.inj) (fun _ _ => Answer.noConfusion) ?_
  refine (perform_refines h (.metric id)).1.trans ?_
  show Records.first ("metric " ++ id) .metric Readback.restored.metric r.metrics (·.id == id) = _
  rw [Records.first, hm]

section First

variable {α β : Type} {answer : β → Answer} {read : α → β} {readID : β → String} {writtenID : α → String}
variable {records : List α} {what : String}

/-- Among records that keep their id the first one under an id comes back with it. -/
private theorem exists_first (hkeep : ∀ x ∈ records, readID (read x) = writtenID x) {id : String}
    (hid : ∃ x ∈ records, writtenID x = id) :
    ∃ y, Records.first what answer read records (writtenID · == id) = answer y ∧ readID y = id := by
  obtain ⟨x, hx, hwritten⟩ := hid
  obtain ⟨y, hy⟩ := Option.isSome_iff_exists.1
    (List.find?_isSome.2 ⟨x, hx, beq_iff_eq.2 hwritten⟩ : (records.find? (writtenID · == id)).isSome = true)
  refine ⟨read y, by rw [Records.first, hy], ?_⟩
  have hkey : (writtenID y == id) = true := List.find?_some (p := (writtenID · == id)) hy
  rw [hkeep y (List.mem_of_find?_eq_some hy), eq_of_beq hkey]

/-- A single record is not found under another id than its own. -/
private theorem id_eq_of_first {x : α} {id : String} {y : β} (hanswer : ∀ y e, answer y ≠ .failed e)
    (h : Records.first what answer read [x] (writtenID · == id) = answer y) : writtenID x = id := by
  by_contra hne
  rw [Records.first, List.find?_singleton, if_neg (by simpa using hne)] at h
  exact hanswer y _ h.symm

end First

private theorem log_eq_ok {id : String} {l : Log}
    (h : (store.perform (.log id)).1 = .log l) : store.log false id = .ok l :=
  eq_ok_of_answered (fun _ _ => Answer.log.inj) (fun _ _ => Answer.noConfusion) h

private theorem metric_eq_ok {id : String} {m : Reported Metric}
    (h : (store.perform (.metric id)).1 = .metric m) : store.metric false id = .ok m :=
  eq_ok_of_answered (fun _ _ => Answer.metric.inj) (fun _ _ => Answer.noConfusion) h

theorem deleteLogs_open (h : store.isOpen = true) (ids : List String) :
    store.deleteLogs false ids =
      .ok (store.removeWhere (fun _ => false) (ids.contains ·.id) (fun _ => false)) := by
  simp only [deleteLogs, check_open h]
  rfl

/-- The log a client deletes by the id it was written under is removed. -/
private theorem Represents.deleteLogs_pos (h : store.Represents r) {l : Log} (hl : l ∈ r.logs) :
    ∃ count next, store.deleteLogs false [l.id] = .ok (count, next) ∧ 0 < count := by
  refine ⟨_, _, deleteLogs_open h.isOpen _, ?_⟩
  have hrow : LogRow.ofLog l ∈ store.tables.logs := h.logs ▸ List.mem_map_of_mem hl
  have hpos : 0 < store.tables.logs.countP ([l.id].contains ·.id) :=
    List.countP_pos_iff.2 ⟨_, hrow, List.elem_cons_self⟩
  omega

/-- Records that keep their ids are found again. -/
private theorem Represents.addressable (h : store.Represents r) (hr : ∀ w ∈ r.written, w.KeepsID) :
    store.Addressable := by
  obtain ⟨-, hlogs, hmetrics⟩ := Records.forall_mem_written.1 hr
  refine ⟨⟨_, h.logs_eq, fun found hfound => ?_⟩, ⟨_, h.metrics_eq, fun found hfound => ?_⟩⟩
  · obtain ⟨l, hmem, rfl⟩ := List.mem_map.1 hfound
    have hl : l ∈ r.logs := List.mem_mergeSort.1 hmem
    have hid : l.restored.id = l.id := hlogs l hl
    rw [hid]
    have hfirst : ∃ y, Records.first ("log " ++ l.id) .log Log.restored r.logs (·.id == l.id) =
        Answer.log y ∧ y.id = l.id := exists_first hlogs ⟨l, hl, rfl⟩
    obtain ⟨found, hanswer, hkey⟩ := hfirst
    exact ⟨⟨found, log_eq_ok ((perform_refines h (.log l.id)).1.trans hanswer), hkey⟩, h.deleteLogs_pos hl⟩
  · rw [Reported.value_each] at hfound
    obtain ⟨m, hmem, rfl⟩ := List.mem_map.1 hfound
    have hm : m ∈ r.metrics := List.mem_mergeSort.1 hmem
    have hid : m.restored.id = m.id := hmetrics m hm
    show ∃ found, store.metric false m.restored.id = .ok found ∧ found.value.id = m.restored.id
    rw [hid]
    have hfirst : ∃ y, Records.first ("metric " ++ m.id) .metric Readback.restored.metric r.metrics
        (·.id == m.id) = Answer.metric y ∧ y.value.id = m.id := by
      refine exists_first ?_ ⟨m, hm, rfl⟩
      exact hmetrics
    obtain ⟨found, hanswer, hkey⟩ := hfirst
    exact ⟨found, metric_eq_ok ((perform_refines h (.metric m.id)).1.trans hanswer), hkey⟩

/-- Records whose ids show no doubles, or only such that are read back, are found again. -/
theorem Reachable.addressable (h : Reachable W store) (hopen : store.isOpen = true)
    (hW : ∀ w, W w → ∀ x ∈ w.idDoubles, stored x = x) : store.Addressable := by
  obtain ⟨r, hrep, hr⟩ := h.exists_represents hopen
  exact hrep.addressable fun w hw => Written.keepsID_of_stored (hW w (hr w hw))

/-- A store that was given one record. -/
def holding (w : Written) : Store :=
  match w with
  | .span s => (fresh.perform (.addSpans [s])).2
  | .log l => (fresh.perform (.addLogs [l])).2
  | .metric m => (fresh.perform (.addMetrics [m])).2

theorem reachable_holding {w : Written} (hw : W w) : Reachable W (holding w) := by
  cases w with
  | span | log | metric =>
    refine .perform (reachable_fresh W) _ fun v hv => ?_
    rwa [List.mem_singleton.1 hv]

private theorem represents_fresh : fresh.Represents .empty := ⟨rfl, rfl, rfl, rfl⟩

theorem represents_holding_metric (m : Metric) : (holding (.metric m)).Represents ⟨[], [], [m]⟩ :=
  (perform_refines represents_fresh (.addMetrics [m])).2

/-- A record that is found again alone in a store keeps its id. -/
private theorem keepsID_of_addressable {w : Written} (h : (holding w).Addressable) : w.KeepsID := by
  cases w with
  | span s => trivial
  | log l =>
    have hrep : (holding (.log l)).Represents ⟨[], [l], []⟩ := (perform_refines represents_fresh (.addLogs [l])).2
    obtain ⟨logs, hlogs, hfound⟩ := h.logs
    obtain rfl : [l.restored] = logs := by
      simpa using hrep.logs_eq.symm.trans hlogs
    obtain ⟨found, hfound, -⟩ := (hfound _ (List.mem_singleton_self _)).1
    have hanswer := (perform_refines hrep (.log l.restored.id)).1
    simp only [perform, hfound, answered] at hanswer
    exact (id_eq_of_first (fun _ _ => Answer.noConfusion) hanswer.symm).symm
  | metric m =>
    have hrep := represents_holding_metric m
    obtain ⟨metrics, hmetrics, hfound⟩ := h.metrics
    obtain rfl : Reported.each Readback.restored.metric [m] = metrics := by
      simpa using hrep.metrics_eq.symm.trans hmetrics
    obtain ⟨found, hfound, -⟩ := hfound m.restored (by simp [Readback.restored])
    have hanswer := (perform_refines hrep (.metric m.restored.id)).1
    simp only [perform, hfound, answered] at hanswer
    exact (id_eq_of_first (fun _ _ => Answer.noConfusion) hanswer.symm).symm

/-- In every store of records of a class what is read is found again by its id exactly if each record of the class
comes back with the id it was written under. -/
theorem addressable_iff :
    (∀ store : Store, Reachable W store → store.isOpen = true → store.Addressable) ↔
      ∀ w, W w → w.KeepsID := by
  constructor
  · intro h w hw
    refine keepsID_of_addressable (h _ (reachable_holding hw) ?_)
    cases w <;> rfl
  · intro h store hreachable hopen
    obtain ⟨r, hrep, hr⟩ := hreachable.exists_represents hopen
    exact hrep.addressable fun w hw => h w (hr w hw)

/-- A log with a double that is read as its neighbour is not found under the id it comes back with. -/
theorem not_forall_addressable :
    ¬∀ store : Store, Reachable (fun _ => True) store → store.isOpen = true → store.Addressable := by
  intro h
  have hkeeps : (Written.ofDouble 4187098643069247488).KeepsID :=
    keepsID_of_addressable (h _ (reachable_holding trivial) rfl)
  have hchanged : ¬(Written.ofDouble 4187098643069247488).KeepsID := by
    show ¬(Log.restored _).id = Log.id _
    decide +kernel
  exact hchanged hkeeps

end Store
end Telemetry
