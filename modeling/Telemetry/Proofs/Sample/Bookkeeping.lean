import Telemetry.Proofs.Sample.Mark
import Telemetry.Proofs.Store.Reachable

/-! The bookkeeping of demo data goes by the text of stored attributes. It finds and removes the rows of demo
resources, and those of resources with a look-alike of the mark. -/
namespace Telemetry

namespace Resource

/-- Whether an attribute that is not the mark reads like it where it is stored: a true boolean whose key ends
in a quote and the mark's key. -/
def hasLookalike (r : Resource) : Bool :=
  r.attributes.entries.any fun e =>
    e.2 == .bool true && ('"' :: sampleKey.toList).isSuffixOf e.1.toList

/-- A resource whose only attribute is a true boolean. -/
def ofFlag (key : String) : Resource := ⟨⟨[(key, .bool true)], List.pairwise_singleton _ _⟩, 0⟩

theorem isSample_iff {r : Resource} :
    r.isSample = true ↔ (sampleKey, .bool true) ∈ r.attributes.entries := by
  rw [isSample, beq_iff_eq, Attributes.get?_eq_some_iff]

theorem hasLookalike_iff {r : Resource} :
    r.hasLookalike = true ↔
      ∃ e ∈ r.attributes.entries, e.2 = .bool true ∧ '"' :: sampleKey.toList <:+ e.1.toList := by
  simp only [hasLookalike, List.any_eq_true, Bool.and_eq_true, beq_iff_eq, List.isSuffixOf_iff_suffix]

private theorem restored_eq_bool_iff {v : AttributeValue} {b : Bool} : v.restored = .bool b ↔ v = .bool b := by
  cases v <;> simp [AttributeValue.restored]

private theorem mem_restored_iff {r : Resource} {key : String} {b : Bool} :
    (key, AttributeValue.bool b) ∈ r.restored.attributes.entries ↔ (key, .bool b) ∈ r.attributes.entries := by
  simp only [restored, Attributes.restored, List.mem_map, Prod.mk.injEq, restored_eq_bool_iff]
  constructor
  · rintro ⟨⟨k, v⟩, hmem, rfl, rfl⟩
    exact hmem
  · exact fun hmem => ⟨_, hmem, rfl, rfl⟩

theorem isSample_restored (r : Resource) : r.restored.isSample = r.isSample := by
  rw [Bool.eq_iff_iff, isSample_iff, isSample_iff, mem_restored_iff]

theorem hasLookalike_restored (r : Resource) : r.restored.hasLookalike = r.hasLookalike := by
  have hexists : ∀ q : Resource, q.hasLookalike = true ↔
      ∃ key, (key, .bool true) ∈ q.attributes.entries ∧ '"' :: sampleKey.toList <:+ key.toList := by
    intro q
    rw [hasLookalike_iff]
    constructor
    · rintro ⟨⟨key, v⟩, hmem, rfl, hkey⟩
      exact ⟨key, hmem, hkey⟩
    · rintro ⟨key, hmem, hkey⟩
      exact ⟨_, hmem, rfl, hkey⟩
  simp only [Bool.eq_iff_iff, hexists, mem_restored_iff]

end Resource

namespace Store

namespace OriginColumns

/-- Whether the resource that is read from the columns is a demo resource. -/
def isSample (c : OriginColumns) : Bool := c.resource?.any (·.isSample)

/-- Whether the resource that is read from the columns has a look-alike of the mark. -/
def hasLookalike (c : OriginColumns) : Bool := c.resource?.any (·.hasLookalike)

theorem isSample_ofRecords (resource : Resource) (scope : Scope) :
    (ofRecords resource scope).isSample = resource.isSample := by
  rw [isSample, resource?_ofRecords, Option.any_some, Resource.isSample_restored]

theorem hasLookalike_ofRecords (resource : Resource) (scope : Scope) :
    (ofRecords resource scope).hasLookalike = resource.hasLookalike := by
  rw [hasLookalike, resource?_ofRecords, Option.any_some, Resource.hasLookalike_restored]

/-- The columns of a record are marked if its resource is a demo resource or has a look-alike. -/
theorem isMarked_ofRecords (resource : Resource) (scope : Scope) :
    (ofRecords resource scope).isMarked = (resource.isSample || resource.hasLookalike) := by
  have htext : (ofRecords resource scope).resourceAttributes.toList = resource.attributes.toJson.render :=
    String.toList_ofList
  rw [Bool.eq_iff_iff, isMarked, decide_eq_true_eq, htext, mark_infix_attributes, Bool.or_eq_true,
    Resource.isSample_iff, Resource.hasLookalike_iff]
  constructor
  · rintro ⟨⟨key, v⟩, hmem, rfl, hkey | hkey⟩
    · obtain rfl : key = sampleKey := String.toList_inj.1 hkey
      exact .inl hmem
    · exact .inr ⟨_, hmem, rfl, hkey⟩
  · rintro (hmem | ⟨e, hmem, hvalue, hkey⟩)
    · exact ⟨_, hmem, rfl, .inl rfl⟩
    · exact ⟨e, hmem, hvalue, .inr hkey⟩

end OriginColumns

/-- Where the rows of a store come from. -/
def origins (store : Store) : List OriginColumns :=
  store.tables.spans.map (·.origin) ++ (store.tables.logs.map (·.origin) ++ store.tables.metrics.map (·.origin))

/-- The bookkeeping of demo data goes by the resources of the rows. -/
structure TracksSamples (store : Store) : Prop where
  /-- Demo data is found exactly if a row comes from a demo resource. -/
  found : store.sampleDataExists false = .ok (store.origins.any (·.isSample))
  /-- Exactly the rows of demo resources go, and are counted. The others stay as they are, in their order. -/
  cleared : store.clearSampleData false = .ok (store.origins.countP (·.isSample),
    { store with tables := {
        spans := store.tables.spans.filter (!·.origin.isSample)
        logs := store.tables.logs.filter (!·.origin.isSample)
        metrics := store.tables.metrics.filter (!·.origin.isSample) } })

variable {W : Written → Prop} {store : Store}

theorem Reachable.exists_ofRecords (h : Reachable W store) {c : OriginColumns} (hc : c ∈ store.origins) :
    ∃ resource scope, c = .ofRecords resource scope := by
  obtain ⟨r, htables, -⟩ := h.exists_records
  simp only [origins, htables, Records.tables, List.mem_append, List.mem_map] at hc
  rcases hc with ⟨_, ⟨s, -, rfl⟩, rfl⟩ | ⟨_, ⟨l, -, rfl⟩, rfl⟩ | ⟨_, ⟨m, -, rfl⟩, rfl⟩
  · exact ⟨s.resource, s.scope, rfl⟩
  · exact ⟨l.resource, l.scope, rfl⟩
  · exact ⟨m.resource, m.scope, rfl⟩

/-- Marked are the rows of demo resources and those of resources with a look-alike. -/
theorem Reachable.isMarked_eq (h : Reachable W store) {c : OriginColumns} (hc : c ∈ store.origins) :
    c.isMarked = (c.isSample || c.hasLookalike) := by
  obtain ⟨resource, scope, rfl⟩ := h.exists_ofRecords hc
  rw [OriginColumns.isMarked_ofRecords, OriginColumns.isSample_ofRecords, OriginColumns.hasLookalike_ofRecords]

section Rows

variable {ρ : Type} {origin : ρ → OriginColumns} {rows : List ρ}

private theorem filter_marked (h : ∀ c ∈ rows.map origin, c.isMarked = c.isSample) :
    rows.filter (fun row => !(origin row).isMarked) = rows.filter fun row => !(origin row).isSample :=
  List.filter_congr fun row hrow => by rw [h _ (List.mem_map_of_mem hrow)]

/-- A row that is removed with the demo rows is one of them. -/
private theorem isSample_of_filter_eq
    (h : rows.filter (fun row => !(origin row).isMarked) = rows.filter fun row => !(origin row).isSample)
    {c : OriginColumns} (hc : c ∈ rows.map origin) (hmarked : c.isMarked = true) : c.isSample = true := by
  obtain ⟨row, hrow, rfl⟩ := List.mem_map.1 hc
  by_contra hsample
  rw [Bool.not_eq_true] at hsample
  have hkept : row ∈ rows.filter fun row => !(origin row).isSample :=
    List.mem_filter.2 ⟨hrow, by rw [hsample]; rfl⟩
  rw [← h] at hkept
  simp [hmarked] at hkept

end Rows

theorem any_eq_of_forall_mem {α : Type} {xs : List α} {p q : α → Bool} (h : ∀ x ∈ xs, p x = q x) :
    xs.any p = xs.any q := by
  rw [Bool.eq_iff_iff, List.any_eq_true, List.any_eq_true]
  exact exists_congr fun x => and_congr_right fun hx => by rw [h x hx]

/-- Whatever text the demo data is found by: it is looked for in all tables. -/
theorem sampleDataExists_open (h : store.isOpen = true) :
    store.sampleDataExists false = .ok (store.origins.any (·.isMarked)) := by
  simp only [sampleDataExists, check_open h, origins, List.any_append, List.any_map, Function.comp_def,
    Bool.or_assoc]
  rfl

private theorem countP_origins (p : OriginColumns → Bool) :
    store.tables.spans.countP (fun row => p row.origin) + store.tables.logs.countP (fun row => p row.origin) +
      store.tables.metrics.countP (fun row => p row.origin) = store.origins.countP p := by
  simp only [origins, List.countP_append, List.countP_map, Function.comp_def, Nat.add_assoc]

/-- If the marked rows are those of demo resources, the bookkeeping is right. -/
private theorem tracksSamples_of_isMarked (hopen : store.isOpen = true)
    (h : ∀ c ∈ store.origins, c.isMarked = c.isSample) : store.TracksSamples := by
  constructor
  · rw [sampleDataExists_open hopen, any_eq_of_forall_mem h]
  · have hcount : store.origins.countP (·.isMarked) = store.origins.countP (·.isSample) :=
      List.countP_congr fun c hc => by rw [h c hc]
    obtain ⟨hspans, hrest⟩ := List.forall_mem_append.1 h
    obtain ⟨hlogs, hmetrics⟩ := List.forall_mem_append.1 hrest
    rw [clearSampleData_open hopen, removeWhere, countP_origins (·.isMarked), hcount, filter_marked hspans,
      filter_marked hlogs, filter_marked hmetrics]

/-- If the bookkeeping is right, every marked row is one of a demo resource. -/
private theorem TracksSamples.isSample_of_isMarked (hopen : store.isOpen = true) (h : store.TracksSamples)
    {c : OriginColumns} (hc : c ∈ store.origins) (hmarked : c.isMarked = true) : c.isSample = true := by
  have hcleared := h.cleared
  rw [clearSampleData_open hopen] at hcleared
  have htables := congrArg (fun r : Nat × Store => r.2.tables) (Except.ok.inj hcleared)
  rcases List.mem_append.1 hc with hc | hc
  · exact isSample_of_filter_eq (congrArg Tables.spans htables) hc hmarked
  · rcases List.mem_append.1 hc with hc | hc
    · exact isSample_of_filter_eq (congrArg Tables.logs htables) hc hmarked
    · exact isSample_of_filter_eq (congrArg Tables.metrics htables) hc hmarked

/-- In every store that can come about the bookkeeping is right exactly if each resource with a look-alike of
the mark has the mark as well. -/
theorem tracksSamples_iff (h : Reachable W store) (hopen : store.isOpen = true) :
    store.TracksSamples ↔ ∀ c ∈ store.origins, c.hasLookalike = true → c.isSample = true := by
  constructor
  · intro htracks c hc hlookalike
    refine htracks.isSample_of_isMarked hopen hc ?_
    rw [h.isMarked_eq hc, hlookalike, Bool.or_true]
  · intro hsample
    refine tracksSamples_of_isMarked hopen fun c hc => ?_
    rw [h.isMarked_eq hc]
    cases hlookalike : c.hasLookalike with
    | false => rw [Bool.or_false]
    | true => rw [hsample c hc hlookalike, Bool.or_true]

/-- A store with two logs: one of a resource whose only attribute is a true boolean, and an empty one. -/
def flagged (key : String) : Store :=
  (fresh.perform (.addLogs [{ Log.empty with resource := .ofFlag key }, .empty])).2

private theorem reachable_flagged (key : String) : Reachable (fun _ => True) (flagged key) :=
  .perform (reachable_fresh _) _ fun _ _ => trivial

private theorem origins_flagged (key : String) :
    (flagged key).origins = [.ofRecords (.ofFlag key) .empty, .ofRecords .empty .empty] := rfl

/-- A demo log is told from the other one. -/
theorem tracksSamples_flagged :
    Reachable (fun _ => True) (flagged sampleKey) ∧ (flagged sampleKey).isOpen = true ∧
      (flagged sampleKey).TracksSamples := by
  refine ⟨reachable_flagged _, rfl, (tracksSamples_iff (reachable_flagged _) rfl).2 ?_⟩
  rw [origins_flagged, List.forall_mem_cons, List.forall_mem_singleton]
  simp only [OriginColumns.hasLookalike_ofRecords, OriginColumns.isSample_ofRecords]
  decide +kernel

/-- A log whose resource has only a look-alike of the mark is taken for demo data. -/
theorem not_forall_tracksSamples :
    ¬∀ store : Store, Reachable (fun _ => True) store → store.isOpen = true → store.TracksSamples := by
  intro h
  have hreachable := reachable_flagged "a\"telemetry.sample"
  have hmem : OriginColumns.ofRecords (.ofFlag "a\"telemetry.sample") .empty ∈
      (flagged "a\"telemetry.sample").origins := by
    rw [origins_flagged]
    exact List.mem_cons_self
  have hmarked := hreachable.isMarked_eq hmem
  have hsample := (h _ hreachable rfl).isSample_of_isMarked rfl hmem
  rw [OriginColumns.hasLookalike_ofRecords, OriginColumns.isSample_ofRecords] at hmarked
  rw [OriginColumns.isSample_ofRecords] at hsample
  have hlookalike : (Resource.ofFlag "a\"telemetry.sample").hasLookalike = true := by decide +kernel
  have hnone : (Resource.ofFlag "a\"telemetry.sample").isSample = false := by decide +kernel
  rw [hlookalike, Bool.or_true] at hmarked
  exact absurd (hsample hmarked) (by rw [hnone]; decide)

end Store
end Telemetry
