import Telemetry.Attribute
import Telemetry.Proofs.Json.Typed

/-! What attribute maps come back as from their stored form: the same keys and types, each double replaced by
the double its text is read as. Where finite doubles are read back, what is lost is only the kind of those that
are not finite. -/
namespace Telemetry

open Json

/-- What JSON leaves of a double: a finite one itself, NaN for any other. -/
def mask (x : Float) : Float := if x.isFinite then x else Decimal.nan

theorem mask_of_isFinite {x : Float} (h : x.isFinite = true) : mask x = x := if_pos h

/-- Doubles that are not finite are always read as NaN. -/
theorem stored_eq_mask_iff {x : Float} : stored x = mask x ↔ (x.isFinite = true → stored x = x) := by
  by_cases h : x.isFinite = true
  · simp only [mask_of_isFinite h, h, forall_const]
  · have hstored : stored x = Decimal.nan := if_neg h
    have hmask : mask x = Decimal.nan := if_neg h
    rw [hstored, hmask]
    exact iff_of_true rfl fun hfinite => absurd hfinite h

theorem map_eq_self_iff {α : Type} {f : α → α} {xs : List α} : xs.map f = xs ↔ ∀ x ∈ xs, f x = x := by
  induction xs with
  | nil => simp
  | cons x xs ih => rw [List.map_cons, List.cons.injEq, ih, List.forall_mem_cons]

/-- Lists are mapped alike if their items are, where only the doubles of an item decide. -/
theorem map_eq_map_iff_doubles {α β : Type} {f g : α → β} {P : Float → Prop} {doubles : α → List Float}
    (xs : List α) (h : ∀ a ∈ xs, f a = g a ↔ ∀ x ∈ doubles a, P x) :
    xs.map f = xs.map g ↔ ∀ x ∈ xs.flatMap doubles, P x := by
  rw [List.map_inj_left]
  constructor
  · intro hxs x hx
    obtain ⟨a, ha, hx⟩ := List.mem_flatMap.1 hx
    exact (h a ha).1 (hxs a ha) x hx
  · intro hxs a ha
    exact (h a ha).2 fun x hx => hxs x (List.mem_flatMap.2 ⟨a, ha, hx⟩)

theorem map_restored_eq_self_iff {α : Type} {restored : α → α} {doubles : α → List Float} (xs : List α)
    (h : ∀ a ∈ xs, restored a = a ↔ ∀ x ∈ doubles a, stored x = x) :
    xs.map restored = xs ↔ ∀ x ∈ xs.flatMap doubles, stored x = x := by
  have hmap := map_eq_map_iff_doubles (g := id) xs h
  rwa [List.map_id] at hmap

private theorem ascending_iff_keys {α : Type} {entries : List (String × α)} :
    Keyed.Ascending entries ↔ (entries.map Prod.fst).Pairwise (· < ·) :=
  List.pairwise_map.symm

namespace AttributeValue

/-- The value that is read back. -/
def restored : AttributeValue → AttributeValue
  | .float x => .float (stored x)
  | .floatList xs => .floatList (xs.map stored)
  | v => v

/-- The doubles of a value. -/
def doubles : AttributeValue → List Float
  | .float x => [x]
  | .floatList xs => xs
  | _ => []

/-- The value with each double replaced by its image. -/
def mapDoubles (f : Float → Float) : AttributeValue → AttributeValue
  | .float x => .float (f x)
  | .floatList xs => .floatList (xs.map f)
  | v => v

@[simp] theorem mapDoubles_id (v : AttributeValue) : v.mapDoubles id = v := by
  cases v with
  | floatList xs => exact congrArg floatList (List.map_id xs)
  | _ => rfl

theorem mapDoubles_stored (v : AttributeValue) : v.mapDoubles stored = v.restored := by
  cases v <;> rfl

theorem mapDoubles_eq_iff {f g : Float → Float} (v : AttributeValue) :
    v.mapDoubles f = v.mapDoubles g ↔ ∀ x ∈ v.doubles, f x = g x := by
  cases v with
  | float x => simp only [mapDoubles, doubles, float.injEq, List.forall_mem_singleton]
  | floatList xs => simp only [mapDoubles, doubles, floatList.injEq, List.map_inj_left]
  | _ => exact iff_of_true rfl (List.forall_mem_nil _)

theorem restored_eq_self_iff (v : AttributeValue) :
    v.restored = v ↔ ∀ x ∈ v.doubles, stored x = x := by
  have h := v.mapDoubles_eq_iff (f := stored) (g := id)
  rwa [mapDoubles_stored, mapDoubles_id] at h

theorem recovers {f : Float → Float} (hf : IsReading f) (v : AttributeValue) :
    Recovers f decode v.toJson (v.mapDoubles f) := by
  refine recovers_variant ?_
  cases v with
  | string s => exact (recovers_string s).map string
  | int n => exact (recovers_int64 n).map int
  | float x => exact (recovers_float hf x).map float
  | bool b => exact (recovers_bool b).map bool
  | stringList items => exact (recovers_list_self fun s _ => recovers_string s).map stringList
  | intList items => exact (recovers_list_self fun n _ => recovers_int64 n).map intList
  | floatList items => exact (recovers_list fun x _ => recovers_float hf x).map floatList
  | boolList items => exact (recovers_list_self fun b _ => recovers_bool b).map boolList

theorem decodes (v : AttributeValue) : Decodes decode v.toJson v.restored :=
  v.mapDoubles_stored ▸ (v.recovers isReading_stored).decodes

theorem depth_toJson_le (v : AttributeValue) : v.toJson.depth ≤ 2 := by
  refine depth_object_le (d := 1) fun m hm => ?_
  obtain rfl := List.mem_singleton.1 hm
  cases v with
  | string s => exact Nat.zero_le 1
  | int n => exact Nat.zero_le 1
  | float x => exact (depth_ofFloat x).trans_le (Nat.zero_le 1)
  | bool b => exact Nat.zero_le 1
  | stringList items => exact depth_array_map_le fun _ _ => Nat.le_refl 0
  | intList items => exact depth_array_map_le fun _ _ => Nat.le_refl 0
  | floatList items => exact depth_array_map_le fun x _ => (depth_ofFloat x).le
  | boolList items => exact depth_array_map_le fun _ _ => Nat.le_refl 0

end AttributeValue

namespace Attributes

/-- The map that is read back. -/
def restored (a : Attributes) : Attributes where
  entries := a.entries.map fun e => (e.1, e.2.restored)
  ascending := by
    have h := ascending_iff_keys.1 a.ascending
    rw [ascending_iff_keys, List.map_map]
    exact h

/-- The doubles of a map. -/
def doubles (a : Attributes) : List Float := a.entries.flatMap (·.2.doubles)

theorem ext_entries {a b : Attributes} (h : a.entries = b.entries) : a = b := by
  cases a
  cases b
  cases h
  rfl

/-- Keys ascend, so a key has one value at most. -/
theorem get?_eq_some_iff {a : Attributes} {key : String} {value : AttributeValue} :
    a.get? key = some value ↔ (key, value) ∈ a.entries :=
  a.ascending.lookup_eq_some_iff

/-- The value that is read back under a key is the one that was stored under it. -/
theorem get?_restored (a : Attributes) (key : String) :
    a.restored.get? key = (a.get? key).map AttributeValue.restored := by
  ext v
  rw [get?_eq_some_iff, Option.map_eq_some_iff]
  simp only [get?_eq_some_iff, restored, List.mem_map, Prod.mk.injEq]
  constructor
  · rintro ⟨⟨_, w⟩, hmem, rfl, rfl⟩
    exact ⟨w, hmem, rfl⟩
  · rintro ⟨w, hmem, rfl⟩
    exact ⟨_, hmem, rfl, rfl⟩

/-- The map with each double replaced by its image. -/
def mapDoubles (f : Float → Float) (a : Attributes) : Attributes where
  entries := a.entries.map fun e => (e.1, e.2.mapDoubles f)
  ascending := by
    rw [Keyed.Ascending, List.pairwise_map]
    exact a.ascending

@[simp] theorem mapDoubles_id (a : Attributes) : a.mapDoubles id = a := by
  refine ext_entries ?_
  show a.entries.map _ = a.entries
  simp only [AttributeValue.mapDoubles_id, List.map_id']

theorem mapDoubles_stored (a : Attributes) : a.mapDoubles stored = a.restored := by
  refine ext_entries (List.map_congr_left fun e _ => ?_)
  rw [e.2.mapDoubles_stored]

theorem mapDoubles_eq_iff {f g : Float → Float} (a : Attributes) :
    a.mapDoubles f = a.mapDoubles g ↔ ∀ x ∈ a.doubles, f x = g x := by
  have hentries : a.mapDoubles f = a.mapDoubles g ↔ (a.mapDoubles f).entries = (a.mapDoubles g).entries :=
    ⟨congrArg entries, ext_entries⟩
  rw [hentries]
  refine map_eq_map_iff_doubles a.entries fun e _ => ?_
  rw [Prod.mk.injEq, e.2.mapDoubles_eq_iff]
  exact and_iff_right rfl

theorem restored_eq_mapDoubles_iff {f : Float → Float} (a : Attributes) :
    a.restored = a.mapDoubles f ↔ ∀ x ∈ a.doubles, stored x = f x := by
  rw [← a.mapDoubles_stored, a.mapDoubles_eq_iff]

theorem restored_eq_self_iff (a : Attributes) : a.restored = a ↔ ∀ x ∈ a.doubles, stored x = x := by
  have h := a.restored_eq_mapDoubles_iff (f := id)
  rwa [mapDoubles_id] at h

/-- Members are stored under their keys, in whatever order they come. -/
private theorem decodeInto_perm {done : Attributes} {es : List (String × AttributeValue)}
    {entries : List (Option String × Draft)}
    (h : List.Forall₂ (fun e d => d.1 = some e.1 ∧ AttributeValue.decode d.2 = .ok e.2) es entries)
    (hnodup : ((done.entries ++ es).map Prod.fst).Nodup) :
    ∃ a : Attributes, done.decodeInto entries = .ok a ∧ a.entries.Perm (done.entries ++ es) := by
  induction h generalizing done with
  | nil => exact ⟨done, rfl, by rw [List.append_nil]⟩
  | @cons e d es entries hed _ ih =>
    obtain ⟨key, value⟩ := e
    obtain ⟨k, draft⟩ := d
    obtain ⟨rfl, hvalue⟩ : k = some key ∧ AttributeValue.decode draft = .ok value := hed
    have hmove : (done.entries ++ (key, value) :: es).Perm ((key, value) :: done.entries ++ es) := List.perm_middle
    have hkeys := (hmove.map Prod.fst).nodup_iff.1 hnodup
    have hnew : ∀ e ∈ done.entries, e.1 ≠ key := by
      rintro e he rfl
      exact (List.nodup_cons.1 hkeys).1 (List.mem_map.2 ⟨e, List.mem_append_left _ he, rfl⟩)
    have hset : ((done.set key value).entries ++ es).Perm (done.entries ++ (key, value) :: es) :=
      ((Keyed.insert_perm value hnew).append_right es).trans hmove.symm
    have hnodup' : (((done.set key value).entries ++ es).map Prod.fst).Nodup :=
      (hset.map Prod.fst).nodup_iff.2 hnodup
    obtain ⟨a, hdecode, hperm⟩ := ih hnodup'
    refine ⟨a, ?_, hperm.trans hset⟩
    rw [decodeInto, require, hvalue]
    exact hdecode

/-- A map comes back with the same keys. -/
theorem recovers {f : Float → Float} (hf : IsReading f) (a : Attributes) :
    Recovers f decode a.toJson (a.mapDoubles f) := by
  intro w delivery hw
  obtain ⟨ys, zs, rfl, hzs, hys⟩ := hw.exists_members
  -- The entries of the map, in the order in which they are met.
  obtain ⟨es, hes, hperm⟩ := List.perm_comp_forall₂ hzs.symm (List.forall₂_map_left_iff.1 hys).flip
  have hread : List.Forall₂ (fun e d => d.1 = some e.1 ∧ AttributeValue.decode d.2 = .ok e.2)
      (es.map fun e => (e.1, e.2.mapDoubles f)) (draftMembers delivery zs) := by
    rw [draftMembers_eq_map, List.forall₂_map_left_iff, List.forall₂_map_right_iff]
    refine hes.flip.imp fun e z h => ?_
    exact ⟨congrArg some h.1.symm, e.2.recovers hf delivery h.2⟩
  have hentries : (es.map fun e => (e.1, e.2.mapDoubles f)).Perm (a.mapDoubles f).entries := hperm.map _
  have hnodup : ((empty.entries ++ es.map fun e => (e.1, e.2.mapDoubles f)).map Prod.fst).Nodup :=
    (hentries.map Prod.fst).nodup_iff.2 (a.mapDoubles f).ascending.nodup
  obtain ⟨b, hdecode, hb⟩ := decodeInto_perm hread hnodup
  obtain rfl : b = a.mapDoubles f := ext_entries (b.ascending.eq_of_perm (a.mapDoubles f).ascending (hb.trans hentries))
  exact hdecode

theorem decodes (a : Attributes) : Decodes decode a.toJson a.restored :=
  a.mapDoubles_stored ▸ (a.recovers isReading_stored).decodes

theorem depth_toJson_le (a : Attributes) : a.toJson.depth ≤ 3 := by
  refine depth_object_le (d := 2) fun m hm => ?_
  obtain ⟨e, -, rfl⟩ := List.mem_map.1 hm
  exact e.2.depth_toJson_le

end Attributes
end Telemetry
