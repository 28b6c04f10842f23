import Telemetry.Proofs.Service.Payload
import Telemetry.Service.Request

/-! Requests and answers on the wire. What one side writes is what the other side reads. -/
namespace Telemetry

open Json

variable {f : Float → Float}

namespace Request

/-- The name that a request is written under is the one in diagnostics. -/
theorem tag_eq_method (r : Request) : r.tag = r.method := by
  cases r <;> rfl

/-- The request names its method, once. -/
theorem method_of_restates {r : Request} {w : Json} (h : Restates f r.toJson w) :
    ∃ members, w = .object members ∧ ∀ v, ("method", v) ∈ members ↔ v = .string r.method := by
  have hobject : ∃ members, r.toJson = .object members ∧ ∀ v, ("method", v) ∈ members ↔ v = .string r.method := by
    rw [toJson, tag_eq_method]
    cases r.params <;> exact ⟨_, rfl, by simp⟩
  obtain ⟨members, hmembers, hmethod⟩ := hobject
  exact (hmembers ▸ h).mem_iff_eq_string hmethod

section Params

variable {α : Type} {key : String} {item : Decoder α} {v : Json} {x : α}

private theorem recovers_param (h : Recovers f item v x) : Recovers f (decodeParam key item) (.object [(key, v)]) x :=
  recovers_record (by simp) fun ho => ho.field (by simp) h

private theorem recovers_ids (ids : List String) :
    Recovers f decodeIDs (.object [("ids", .array (ids.map .string))]) ids :=
  recovers_param (recovers_list_self fun id _ => recovers_string id)

/-- A span that is not asked for is left out, and is missing then. -/
private theorem recovers_trace (traceID : String) :
    Recovers f traceAndSpan.decode (.object [("traceID", .string traceID)]) (.getLogsOfTrace traceID none) := by
  refine recovers_record (by simp) fun ho => ?_
  refine (Reads.map getLogsOfTrace ?_).seq ?_
  · exact ho.field (by simp) (recovers_string traceID)
  · exact ho.missing (by simp) rfl

private theorem recovers_traceAndSpan (traceID spanID : String) :
    Recovers f traceAndSpan.decode (.object [("spanID", .string spanID), ("traceID", .string traceID)])
      (.getLogsOfTrace traceID (some spanID)) := by
  have hnull : ∀ s, Json.string s ≠ .null := fun _ => nofun
  have hspan : Recovers f (decodeOption decodeString) (.string spanID) (some spanID) :=
    recovers_option (x := some spanID) hnull fun s _ => recovers_string s
  refine recovers_record (by simp) fun ho => ?_
  refine (Reads.map getLogsOfTrace ?_).seq ?_
  · exact ho.field (by simp) (recovers_string traceID)
  · exact ho.field (by simp) hspan

end Params

/-- A request with parameters. They are listed last but may come first. -/
private theorem recovers_withParams {name : String} {params : Json} {r : Request}
    (h : Recovers f (fun d => decodeMethod name (some d)) params r) :
    Recovers f decode (.object [("method", .string name), ("params", params)]) r :=
  (recovers_tagged (by decide) h).of_perm (.swap _ _ _)

theorem recovers (r : Request) : Recovers f decode r.toJson r := by
  cases r with
  | getTraceSummaries | clearTraces | getLogs | clearLogs | getMetrics | clearMetrics | getSampleData
  | loadSampleData | findSampleData | clearSampleData => exact recovers_tag rfl
  | getTrace traceID => exact recovers_withParams ((recovers_param (recovers_string traceID)).map getTrace)
  | getLog id => exact recovers_withParams ((recovers_param (recovers_string id)).map getLog)
  | getMetric id => exact recovers_withParams ((recovers_param (recovers_string id)).map getMetric)
  | getLogsOfTrace traceID spanID =>
    cases spanID with
    | none => exact recovers_withParams (recovers_trace traceID)
    | some spanID => exact recovers_withParams (recovers_traceAndSpan traceID spanID)
  | deleteSpansOfTraces ids => exact recovers_withParams ((recovers_ids ids).map deleteSpansOfTraces)
  | deleteSpans ids => exact recovers_withParams ((recovers_ids ids).map deleteSpans)
  | deleteLogs ids => exact recovers_withParams ((recovers_ids ids).map deleteLogs)
  | deleteMetrics ids => exact recovers_withParams ((recovers_ids ids).map deleteMetrics)

private theorem depth_params_le {r : Request} {params : Json} (h : r.params = some params) : params.depth ≤ 2 := by
  have hids : ∀ ids : List String, (Json.object [("ids", .array (ids.map .string))]).depth ≤ 2 := by
    intro ids
    refine depth_object_le (d := 1) fun m hm => ?_
    obtain rfl := List.mem_singleton.1 hm
    exact depth_array_map_le fun _ _ => Nat.le_refl 0
  cases r with
  | getTraceSummaries | clearTraces | getLogs | clearLogs | getMetrics | clearMetrics | getSampleData
  | loadSampleData | findSampleData | clearSampleData => cases h
  | getTrace id | getLog id | getMetric id =>
    cases h
    simp [depth, membersDepth]
  | getLogsOfTrace traceID spanID => cases spanID <;> cases h <;> simp [depth, membersDepth]
  | deleteSpansOfTraces ids | deleteSpans ids | deleteLogs ids | deleteMetrics ids =>
    cases h
    exact hids ids

theorem depth_toJson_le (r : Request) : r.toJson.depth ≤ 3 := by
  rw [toJson]
  cases h : r.params with
  | none => simp [depth, membersDepth]
  | some params =>
    have hparams := depth_params_le h
    simp only [depth, membersDepth]
    omega

end Request

namespace ServiceError

theorem recovers (e : ServiceError) : Recovers f decode e.toJson e := by
  refine recovers_record (by simp) fun ho => ?_
  refine (Reads.map ServiceError.mk ?_).seq ?_
  · exact ho.field (by simp) (recovers_int32 e.code)
  · exact ho.field (by simp) (recovers_string e.message)

end ServiceError

namespace Response

/-- Every double of an answer. -/
def doubles : Response → List Float
  | .trace t => t.doubles
  | .logs ls => ls.flatMap Log.doubles
  | .log l => l.doubles
  | .metrics ms => ms.flatMap Metric.doubles
  | .metric m => m.doubles
  | .sampleData d => d.doubles
  | .traceSummaries _ | .sampleDataExists _ | .deleted _ | .ack | .error _ => []

private theorem recovers_withData {name : String} {data : Json} {r : Response}
    (h : Recovers f (fun d => decodeKind name (some d)) data r) :
    Recovers f decode (.object [("data", data), ("kind", .string name)]) r :=
  recovers_tagged (by decide) h

theorem recovers (hf : IsReading f) {r : Response} (h : Keeps f r.doubles) : Recovers f decode r.toJson r := by
  cases r with
  | traceSummaries summaries =>
    exact recovers_withData ((recovers_list_self fun s _ => s.recovers).map traceSummaries)
  | trace t => exact recovers_withData ((Trace.recovers hf h).map trace)
  | logs ls => exact recovers_withData ((recovers_list_self fun l hl => Log.recovers hf (h.of_mem hl)).map logs)
  | log l => exact recovers_withData ((Log.recovers hf h).map log)
  | metrics ms =>
    exact recovers_withData ((recovers_list_self fun m hm => Metric.recovers hf (h.of_mem hm)).map metrics)
  | metric m => exact recovers_withData ((Metric.recovers hf h).map metric)
  | sampleData d => exact recovers_withData ((SampleData.recovers hf h).map sampleData)
  | sampleDataExists answer => exact recovers_withData ((recovers_bool answer).map sampleDataExists)
  | deleted count => exact recovers_withData ((recovers_uint64 count).map deleted)
  | ack => exact recovers_tag rfl
  | error e => exact recovers_withData (e.recovers.map error)

private theorem depth_data_le {r : Response} {data : Json} (h : r.data = some data) : data.depth ≤ 12 := by
  cases r with
  | traceSummaries summaries =>
    cases h
    exact (depth_array_map_le fun s _ => s.depth_toJson_le).trans (by decide)
  | trace t =>
    cases h
    exact t.depth_toJson_le.trans (by decide)
  | logs ls =>
    cases h
    exact (depth_array_map_le fun l _ => l.depth_toJson_le).trans (by decide)
  | log l =>
    cases h
    exact l.depth_toJson_le.trans (by decide)
  | metrics ms =>
    cases h
    exact (depth_array_map_le fun m _ => m.depth_toJson_le).trans (by decide)
  | metric m =>
    cases h
    exact m.depth_toJson_le.trans (by decide)
  | sampleData d =>
    cases h
    exact d.depth_toJson_le
  | sampleDataExists _ | deleted _ =>
    cases h
    exact Nat.zero_le 12
  | ack => cases h
  | error e =>
    cases h
    simp [ServiceError.toJson, ofInt64, depth, membersDepth]

theorem depth_toJson_le (r : Response) : r.toJson.depth ≤ 13 := by
  rw [toJson]
  cases h : r.data with
  | none => simp [depth, membersDepth]
  | some data =>
    have hdata := depth_data_le h
    simp only [depth, membersDepth]
    omega

/-- An answer of finite doubles is read from every way of writing it. -/
theorem decode_of_restates {r : Response} (hfinite : ∀ x ∈ r.doubles, x.isFinite = true) {w : Json}
    (hw : Restates id r.toJson w) (delivery : Delivery) : decode (w.draft delivery) = .ok r := by
  -- Masking is a reading of doubles that changes none of those that are written as numbers.
  have hmask : IsReading mask := fun x hx => if_neg (by rw [hx]; exact Bool.false_ne_true)
  have hkeeps : Keeps mask r.doubles := fun x hx => ⟨hfinite x hx, mask_of_isFinite (hfinite x hx)⟩
  exact recovers hmask hkeeps delivery (hw.congr fun x hx => (mask_of_isFinite hx).symm)

end Response

namespace Service

/-- Requests and answers are read as they were written, whichever way they take, in whatever order their members
come, and a request names its method. An answer through text needs doubles whose texts are read back. -/
theorem messages_readBack :
    (∀ (r : Request) (w : Json), Restates id r.toJson w →
      (∃ members, w = .object members ∧ ∀ v, ("method", v) ∈ members ↔ v = .string r.method) ∧
        (∀ delivery, Request.decode (w.draft delivery) = .ok r) ∧ decodeText Request.decode w.text = .ok r) ∧
      ∀ (r : Response), (∀ x ∈ r.doubles, x.isFinite = true) → ∀ w : Json, Restates id r.toJson w →
        (∀ delivery, Response.decode (w.draft delivery) = .ok r) ∧
          ((∀ x ∈ r.doubles, stored x = x) → decodeText Response.decode w.text = .ok r) := by
  constructor
  · intro r w hw
    refine ⟨Request.method_of_restates hw, fun delivery => r.recovers delivery hw, ?_⟩
    exact r.recovers.decodeText hw (r.depth_toJson_le.trans (by decide))
  · intro r hfinite w hw
    refine ⟨Response.decode_of_restates hfinite hw, fun hstored => ?_⟩
    have hkeeps : Keeps stored r.doubles := fun x hx => ⟨hfinite x hx, hstored x hx⟩
    exact (Response.recovers isReading_stored hkeeps).decodeText hw (r.depth_toJson_le.trans (by decide))

/-- A log that holds one half is read back from its text. -/
theorem messages_readBack_half :
    let r := Response.log { Log.empty with body := some (.float 0.5) }
    let request := Request.getLogsOfTrace "t" none
    (∀ x ∈ r.doubles, x.isFinite = true) ∧ (∀ x ∈ r.doubles, stored x = x) ∧
      decodeText Response.decode r.toJson.text = .ok r ∧
        decodeText Request.decode request.toJson.text = .ok request := by
  intro r request
  have hdoubles : r.doubles = [0.5] := rfl
  have hfinite : ∀ x ∈ r.doubles, x.isFinite = true := by
    rw [hdoubles, List.forall_mem_singleton]
    decide +kernel
  have hstored : ∀ x ∈ r.doubles, stored x = x := by
    rw [hdoubles, List.forall_mem_singleton]
    decide +kernel
  have hsame : ∀ v, Restates id v v := .refl fun _ _ => rfl
  refine ⟨hfinite, hstored, ?_, ?_⟩
  · exact (messages_readBack.2 r hfinite r.toJson (hsame _)).2 hstored
  · exact (messages_readBack.1 request request.toJson (hsame _)).2.2

end Service
end Telemetry
