import Telemetry.Proofs.Store.Refinement
import Telemetry.Proofs.Waterfall.Coverage

/-! When a store gives back exactly what was written. Only doubles stand in the way: runs are answered as on
the written records if each of their doubles is read back from its stored text, and not otherwise. -/
namespace Telemetry

open Json (stored)

/-- A record that a store is given to keep. -/
inductive Written
  | span (s : Span)
  | log (l : Log)
  | metric (m : Metric)

/-- A metric whose points are of its kind is read without a warning. -/
theorem Metric.readback_eq_pure_iff {m n : Metric} (huniform : m.IsUniform) :
    Readback.restored.metric m = pure n ↔ m.restored = n := by
  have hback : Readback.restored.metric m = pure m.restored := by
    show (⟨m.restored, m.mismatches⟩ : Reported Metric) = _
    rw [mismatches_eq_nil huniform]
    rfl
  rw [hback]
  exact ⟨congrArg Reported.value, congrArg pure⟩

namespace Written

def doubles : Written → List Float
  | span s => s.doubles
  | log l => l.doubles
  | metric m => m.doubles

/-- All doubles are finite, and the points of a metric are of its kind. -/
structure IsRegular (w : Written) : Prop where
  finite : ∀ x ∈ w.doubles, x.isFinite = true
  uniform : ∀ m, w = metric m → m.IsUniform

/-- The record comes back as it was written, with no warning. -/
def IsExact : Written → Prop
  | span s => s.restored = s
  | log l => l.restored = l
  | metric m => Readback.restored.metric m = pure m

theorem isExact_iff {w : Written} (h : w.IsRegular) : w.IsExact ↔ ∀ x ∈ w.doubles, stored x = x := by
  cases w with
  | span s => exact s.restored_eq_self_iff
  | log l => exact l.restored_eq_self_iff
  | metric m =>
    have huniform := h.uniform m rfl
    exact (Metric.readback_eq_pure_iff huniform).trans (Metric.restored_eq_self_iff huniform h.finite)

end Written

/-- The records a command gives a store to keep. -/
def Store.Command.written : Store.Command → List Written
  | .addSpans batch => batch.map .span
  | .addLogs batch => batch.map .log
  | .addMetrics batch => batch.map .metric
  | _ => []

namespace Records

open Store (Answer Command)

/-- All records, whatever they are. -/
def written (r : Records) : List Written :=
  r.spans.map .span ++ (r.logs.map .log ++ r.metrics.map .metric)

variable {r : Records}

theorem forall_mem_written {P : Written → Prop} :
    (∀ w ∈ r.written, P w) ↔
      (∀ s ∈ r.spans, P (.span s)) ∧ (∀ l ∈ r.logs, P (.log l)) ∧ ∀ m ∈ r.metrics, P (.metric m) := by
  simp only [written, List.forall_mem_append, List.forall_mem_map]

/-- After a command there are no records but those from before and those it brings. -/
theorem written_perform {P : Written → Prop} {back : Readback} {c : Command} (h : ∀ w ∈ r.written, P w)
    (hc : ∀ w ∈ c.written, P w) : ∀ w ∈ (r.perform back c).2.written, P w := by
  obtain ⟨hspans, hlogs, hmetrics⟩ := forall_mem_written.1 h
  rw [forall_mem_written]
  cases c with
  | addSpans spans =>
    exact ⟨List.forall_mem_append.2 ⟨hspans, List.forall_mem_map.1 hc⟩, hlogs, hmetrics⟩
  | addLogs logs =>
    exact ⟨hspans, List.forall_mem_append.2 ⟨hlogs, List.forall_mem_map.1 hc⟩, hmetrics⟩
  | addMetrics metrics =>
    exact ⟨hspans, hlogs, List.forall_mem_append.2 ⟨hmetrics, List.forall_mem_map.1 hc⟩⟩
  | clearTraces => exact ⟨List.forall_mem_nil _, hlogs, hmetrics⟩
  | clearLogs => exact ⟨hspans, List.forall_mem_nil _, hmetrics⟩
  | clearMetrics => exact ⟨hspans, hlogs, List.forall_mem_nil _⟩
  | deleteSpansOfTraces | deleteSpans =>
    exact ⟨fun s hs => hspans s (List.mem_of_mem_filter hs), hlogs, hmetrics⟩
  | deleteLogs => exact ⟨hspans, fun l hl => hlogs l (List.mem_of_mem_filter hl), hmetrics⟩
  | deleteMetrics => exact ⟨hspans, hlogs, fun m hm => hmetrics m (List.mem_of_mem_filter hm)⟩
  | trace | traceSummaries | logs | logsOfTrace | logsOfSpan | log | metrics | metric =>
    exact ⟨hspans, hlogs, hmetrics⟩

private theorem each_congr {α β : Type} {f g : α → Reported β} {xs : List α} (h : ∀ x ∈ xs, f x = g x) :
    Reported.each f xs = Reported.each g xs := by
  induction xs with
  | nil => rfl
  | cons x xs ih =>
    have hxs := ih fun y hy => h y (List.mem_cons_of_mem x hy)
    rw [Reported.each, Reported.each, h x List.mem_cons_self, hxs]

private theorem first_congr {α β : Type} {what : String} {answer : β → Answer} {f g : α → β} {xs : List α}
    (h : ∀ x ∈ xs, f x = g x) (test : α → Bool) : first what answer f xs test = first what answer g xs test := by
  unfold first
  split
  · rename_i x hx
    rw [h x (List.mem_of_find?_eq_some hx)]
  · rfl

private theorem line?_congr {f g : Readback} {spans : List Span} (h : ∀ s ∈ spans, f.span s = g.span s) :
    line? f spans = line? g spans := by
  unfold line?
  cases hleader : (spans.mergeSort Span.leads).head? with
  | none => rfl
  | some leader =>
    have hmem : leader ∈ spans := List.mem_mergeSort.1 (List.mem_of_head? hleader)
    simp only [Option.bind_eq_bind, Option.bind_some, h leader hmem]

private theorem summaries_congr {f g : Readback} {spans : List Span}
    (h : ∀ s ∈ spans, f.span s = g.span s) : summaries f spans = summaries g spans := by
  have hlines : (fun id => line? f (spans.filter (·.traceID == id))) =
      fun id => line? g (spans.filter (·.traceID == id)) :=
    funext fun id => line?_congr fun s hs => h s (List.mem_of_mem_filter hs)
  simp only [summaries, hlines]

private theorem logsWhere_congr {f g : Readback} {logs : List Log} (h : ∀ l ∈ logs, f.log l = g.log l)
    (keep : Log → Bool) : logsWhere f logs keep = logsWhere g logs keep := by
  refine congrArg Answer.logs (List.map_congr_left fun l hl => h l ?_)
  exact List.mem_of_mem_filter (List.mem_mergeSort.1 hl)

private theorem trace_congr {f g : Readback} {spans : List Span} (h : ∀ s ∈ spans, f.span s = g.span s)
    (traceID : String) : trace f spans traceID = trace g spans traceID := by
  have hmap : (spans.filter (·.traceID == traceID)).map f.span =
      (spans.filter (·.traceID == traceID)).map g.span :=
    List.map_congr_left fun s hs => h s (List.mem_of_mem_filter hs)
  simp only [trace, hmap]

/-- A command is answered alike if every record comes back as it was written. -/
theorem perform_exact (h : ∀ w ∈ r.written, w.IsExact) (c : Command) :
    r.perform .restored c = r.perform .exact c := by
  obtain ⟨hspans, hlogs, hmetrics⟩ := forall_mem_written.1 h
  cases c with
  | addSpans | addLogs | addMetrics | clearTraces | clearLogs | clearMetrics => rfl
  | deleteSpansOfTraces | deleteSpans | deleteLogs | deleteMetrics => rfl
  | trace traceID => exact congrArg (·, r) (trace_congr hspans traceID)
  | traceSummaries => exact congrArg (fun lines => (Answer.summaries lines, r)) (summaries_congr hspans)
  | logs | logsOfTrace | logsOfSpan => exact congrArg (·, r) (logsWhere_congr hlogs _)
  | log id => exact congrArg (·, r) (first_congr hlogs _)
  | metrics =>
    refine congrArg (fun ms => (Answer.metrics ms, r)) (each_congr fun m hm => hmetrics m ?_)
    exact List.mem_mergeSort.1 hm
  | metric id => exact congrArg (·, r) (first_congr hmetrics _)

/-- A run is answered alike if every record comes back as it was written. -/
theorem answers_exact {commands : List Command} (h : ∀ w ∈ r.written, w.IsExact)
    (hcommands : ∀ c ∈ commands, ∀ w ∈ c.written, w.IsExact) :
    r.answers .restored commands = r.answers .exact commands := by
  induction commands generalizing r with
  | nil => rfl
  | cons c rest ih =>
    obtain ⟨hc, hrest⟩ := List.forall_mem_cons.1 hcommands
    rw [answers, answers, perform_exact h c, ih (written_perform h hc) hrest]

end Records

namespace Written

/-- Writing a record and reading all there is. -/
def roundTrip : Written → List Store.Command
  | span s => [.addSpans [s], .trace s.traceID]
  | log l => [.addLogs [l], .logs]
  | metric m => [.addMetrics [m], .metrics]

/-- The answer in which a record is alone. -/
def answer (back : Readback) : Written → Store.Answer
  | span s => .trace (Waterfall.trace s.traceID [back.span s])
  | log l => .logs [back.log l]
  | metric m => .metrics (Reported.each back.metric [m])

theorem written_roundTrip {w : Written} : ∀ c ∈ w.roundTrip, ∀ v ∈ c.written, v = w := by
  cases w <;> simp [roundTrip, Store.Command.written]

theorem answers_roundTrip (back : Readback) (w : Written) :
    Records.empty.answers back w.roundTrip = [.done, w.answer back] := by
  cases w with
  | span s => simp [roundTrip, answer, Records.answers, Records.perform, Records.empty, Records.trace]
  | log l => simp [roundTrip, answer, Records.answers, Records.perform, Records.empty, Records.logsWhere]
  | metric m => simp [roundTrip, answer, Records.answers, Records.perform, Records.empty]

/-- No order of the spans can hide that one of them is changed. -/
private theorem trace_injective {traceID : String} {a b : Span}
    (h : Waterfall.trace traceID [a] = Waterfall.trace traceID [b]) : a = b := by
  have hperm : ∀ s : Span, ((Waterfall.trace traceID [s]).spans.map (·.span)).Perm [s] := by
    intro s
    rw [Waterfall.trace, List.map_map]
    exact Waterfall.order_perm [s]
  have ha := (hperm a).symm
  rw [h] at ha
  exact List.singleton_perm_singleton.1 (ha.trans (hperm b))

private theorem each_injective {α β : Type} {f g : α → Reported β} {x : α}
    (h : Reported.each f [x] = Reported.each g [x]) : f x = g x := by
  have hvalue := congrArg Reported.value h
  have hwarnings := congrArg Reported.warnings h
  simp only [Reported.value_each, Reported.warnings_each, List.map_cons, List.map_nil,
    List.flatMap_cons, List.flatMap_nil, List.append_nil] at hvalue hwarnings
  exact congrArg₂ Reported.mk (List.cons.inj hvalue).1 hwarnings

/-- If the record alone is read alike, it comes back as it was written. -/
theorem isExact_of_answers {w : Written}
    (h : Records.empty.answers .restored w.roundTrip = Records.empty.answers .exact w.roundTrip) :
    w.IsExact := by
  rw [answers_roundTrip, answers_roundTrip] at h
  have hanswer : w.answer .restored = w.answer .exact := (List.cons.inj (List.cons.inj h).2).1
  cases w with
  | span s => exact trace_injective (Store.Answer.trace.inj hanswer)
  | log l => exact (List.cons.inj (Store.Answer.logs.inj hanswer)).1
  | metric m => exact each_injective (Store.Answer.metrics.inj hanswer)

/-- A log that holds nothing but a double. -/
def ofDouble (x : Float) : Written := log { Log.empty with body := some (.float x) }

theorem doubles_ofDouble (x : Float) : (ofDouble x).doubles = [x] := rfl

theorem isRegular_ofDouble {x : Float} (hx : x.isFinite = true) : (ofDouble x).IsRegular where
  finite y hy := by
    rw [doubles_ofDouble] at hy
    rwa [List.mem_singleton.1 hy]
  uniform _ hm := nomatch hm

end Written

namespace Store

/-- A new store in memory holds no records. -/
theorem represents_openMemory {flushEvery : Nat} {store : Store} (h : openMemory flushEvery = .ok store) :
    store.Represents .empty := by
  simp only [openMemory, start] at h
  split at h
  · cases h
    exact ⟨rfl, rfl, rfl, rfl⟩
  · cases h

private theorem exists_represents_empty : ∃ store : Store, store.Represents .empty :=
  ⟨_, represents_openMemory (show openMemory defaultFlushEvery = .ok _ from rfl)⟩

/-- Runs on records of a class are answered as on lists of the records exactly if every double of the class is
read back from its stored text. -/
theorem answers_exact_iff {W : Written → Prop} (hregular : ∀ w, W w → w.IsRegular) :
    (∀ (store : Store) (r : Records) (commands : List Command), store.Represents r →
        (∀ w ∈ r.written, W w) → (∀ c ∈ commands, ∀ w ∈ c.written, W w) →
          store.answers commands = r.answers .exact commands) ↔
      ∀ w, W w → ∀ x ∈ w.doubles, stored x = x := by
  have hexact : ∀ w, W w → (w.IsExact ↔ ∀ x ∈ w.doubles, stored x = x) :=
    fun w hw => Written.isExact_iff (hregular w hw)
  constructor
  · intro h w hw
    obtain ⟨store, hrep⟩ := exists_represents_empty
    have hrun := h store .empty w.roundTrip hrep (List.forall_mem_nil _) fun c hc v hv =>
      Written.written_roundTrip c hc v hv ▸ hw
    rw [answers_refine hrep] at hrun
    exact (hexact w hw).1 (Written.isExact_of_answers hrun)
  · intro h store r commands hrep hr hcommands
    rw [answers_refine hrep]
    refine Records.answers_exact (fun w hw => ?_) fun c hc w hw => ?_
    · exact (hexact w (hr w hw)).2 (h w (hr w hw))
    · exact (hexact w (hcommands c hc w hw)).2 (h w (hcommands c hc w hw))

/-- One half is read back, so that logs that hold it are kept as they are. -/
theorem answers_exact_half :
    (∀ w, w = Written.ofDouble 0.5 → w.IsRegular) ∧
      ∀ (store : Store) (r : Records) (commands : List Command), store.Represents r →
        (∀ w ∈ r.written, w = .ofDouble 0.5) → (∀ c ∈ commands, ∀ w ∈ c.written, w = .ofDouble 0.5) →
          store.answers commands = r.answers .exact commands := by
  have hregular : ∀ w, w = Written.ofDouble 0.5 → w.IsRegular := by
    rintro _ rfl
    exact Written.isRegular_ofDouble (by decide +kernel)
  refine ⟨hregular, (answers_exact_iff hregular).2 ?_⟩
  rintro _ rfl x hx
  rw [Written.doubles_ofDouble, List.mem_singleton] at hx
  subst hx
  decide +kernel

/-- A finite double whose text is read as its neighbour, so that a log that holds it is changed. -/
theorem answers_not_exact :
    ¬∀ (store : Store) (r : Records) (commands : List Command), store.Represents r →
      (∀ w ∈ r.written, w.IsRegular) → (∀ c ∈ commands, ∀ w ∈ c.written, w.IsRegular) →
        store.answers commands = r.answers .exact commands := by
  intro h
  have hregular : (Written.ofDouble 4187098643069247488).IsRegular :=
    Written.isRegular_ofDouble (by decide +kernel)
  obtain ⟨store, hrep⟩ := exists_represents_empty
  have hrun := h store .empty (Written.ofDouble 4187098643069247488).roundTrip hrep
    (List.forall_mem_nil _) fun c hc v hv => Written.written_roundTrip c hc v hv ▸ hregular
  rw [answers_refine hrep] at hrun
  have hstored := (Written.isExact_iff hregular).1 (Written.isExact_of_answers hrun)
  have hchanged : stored 4187098643069247488 ≠ 4187098643069247488 := by decide +kernel
  exact hchanged (hstored _ (Written.doubles_ofDouble _ ▸ List.mem_singleton_self _))

end Store
end Telemetry
