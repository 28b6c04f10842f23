import Telemetry.Json.Record
import Telemetry.Json.Tagged

/-! From a value that was read back to the drafts that its parts were read from. -/
namespace Telemetry.Json

variable {α β : Type}

/-- A draft stands somewhere in another one. What is put aside until the type of the value is known is a part too. -/
inductive Part (v : Draft) : Draft → Prop
  | self : Part v v
  | item {w : Draft} {items : List Draft} (hw : w ∈ items) (h : Part v w) : Part v (.array items)
  | member {delivery : Delivery} {key : Option String} {w : Draft} {members : List (Option String × Draft)}
      (hw : (key, w) ∈ members) (h : Part v w) : Part v (.object delivery members)
  | putAside {w : Draft} {value : Json} (hvalue : w.toJson? = some value) (h : Part v (value.draft .buffered)) :
      Part v w

theorem Part.trans {u v w : Draft} (huv : Part u v) (hvw : Part v w) : Part u w := by
  induction hvw with
  | self => exact huv
  | item hw _ ih => exact .item hw ih
  | member hw _ ih => exact .member hw ih
  | putAside hvalue _ ih => exact .putAside hvalue ih

theorem exists_of_bind_eq_ok {ε : Type} {result : Except ε α} {next : α → Except ε β} {y : β}
    (h : (result >>= next) = .ok y) : ∃ x, result = .ok x ∧ next x = .ok y := by
  cases result with
  | ok x => exact ⟨x, rfl, h⟩
  | error e => cases h

theorem exists_of_map_eq_ok {ε : Type} {f : α → β} {result : Except ε α} {y : β} (h : f <$> result = .ok y) :
    ∃ x, result = .ok x ∧ f x = y := by
  cases result with
  | ok x => exact ⟨x, rfl, Except.ok.inj h⟩
  | error e => cases h

section Lists

variable {item : Decoder α} {xs : List α}

/-- What all values of a list have in common, all items are read with. -/
theorem forall_mem_decodeEach_iff {items : List Draft} (h : decodeEach item items = .ok xs) (P : α → Prop) :
    (∀ x ∈ xs, P x) ↔ ∀ v ∈ items, ∃ x, item v = .ok x ∧ P x := by
  induction items generalizing xs with
  | nil =>
    cases h
    exact iff_of_true (List.forall_mem_nil _) (List.forall_mem_nil _)
  | cons v rest ih =>
    rw [decodeEach] at h
    obtain ⟨x, hv, h⟩ := exists_of_bind_eq_ok h
    obtain ⟨ys, hrest, rfl⟩ := exists_of_map_eq_ok (f := fun ys => x :: ys) h
    rw [List.forall_mem_cons, List.forall_mem_cons, ih hrest]
    refine and_congr_left' ⟨fun hx => ⟨x, hv, hx⟩, ?_⟩
    rintro ⟨y, hy, hP⟩
    rwa [Except.ok.inj (hv.symm.trans hy)]

theorem exists_items {v : Draft} (h : decodeList item v = .ok xs) :
    ∃ items, v = .array items ∧ decodeEach item items = .ok xs := by
  cases v with
  | array items => exact ⟨items, rfl, h⟩
  | _ => cases h

/-- What is in a list was read from a part. -/
theorem exists_part_of_mem {v : Draft} (h : decodeList item v = .ok xs) {x : α} (hx : x ∈ xs) :
    ∃ w, Part w v ∧ item w = .ok x := by
  obtain ⟨items, rfl, hitems⟩ := exists_items h
  have hread := (forall_mem_decodeEach_iff hitems fun _ => True).1 fun _ _ => trivial
  obtain ⟨w, hw, hx⟩ := (forall_mem_decodeEach_iff hitems fun x => ∃ w ∈ items, item w = .ok x).2
    (fun w hw => (hread w hw).imp fun x hx => ⟨hx.1, w, hw, hx.1⟩) x hx
  exact ⟨w, .item hw .self, hx⟩

end Lists

namespace Record

/-- What a record with the given fields is read from. -/
def entries? (fields : List String) : Draft → Option Entries
  | .object _ members => some ⟨members, false⟩
  | .array items => some ⟨(fields.map some).zip items, true⟩
  | _ => none

/-- The value that a field of a record is read from. -/
def value? (r : Record α) (key : String) (v : Draft) : Option Draft :=
  (entries? r.fields v).bind fun entries => (entries.find key).head?.map (·.2)

private theorem exists_mem_of_mem_find {entries : Entries} {key : String} {found : Nat × Draft}
    (h : found ∈ entries.find key) : (some key, found.2) ∈ entries.members := by
  obtain ⟨⟨⟨k, w⟩, place⟩, hmem, hfound⟩ := List.mem_filterMap.1 h
  obtain ⟨hkey, hfound⟩ := Option.ite_none_right_eq_some.1 hfound
  obtain rfl : k = some key := hkey
  obtain rfl := Option.some.inj hfound
  exact List.fst_mem_of_mem_zipIdx hmem

/-- The value of a field is a part of the record. -/
theorem part_of_value? {r : Record α} {key : String} {v w : Draft} (h : r.value? key v = some w) : Part w v := by
  obtain ⟨entries, hentries, h⟩ := Option.bind_eq_some_iff.1 h
  obtain ⟨found, hfound, rfl⟩ := Option.map_eq_some_iff.1 h
  have hmem := exists_mem_of_mem_find (List.mem_of_head? hfound)
  cases v with
  | object _ members =>
    obtain rfl := Option.some.inj hentries
    exact .member hmem .self
  | array items =>
    obtain rfl := Option.some.inj hentries
    exact .item (List.of_mem_zip hmem).2 .self
  | _ => cases hentries

private theorem ok_of_both {result : Except Fault α} {other : Except Fault β} {x : α} {y : β}
    (h : both result other = .ok (x, y)) : result = .ok x ∧ other = .ok y := by
  cases result with
  | ok x =>
    cases other with
    | ok y =>
      cases h
      exact ⟨rfl, rfl⟩
    | error f => cases h
  | error e => cases other <;> cases h

theorem exists_entries {r : Record α} {v : Draft} {x : α} (h : r.decode v = .ok x) :
    ∃ entries, entries? r.fields v = some entries ∧ r.read entries = .ok x := by
  cases v with
  | object _ members =>
    refine ⟨_, rfl, ?_⟩
    rw [decode] at h
    cases hboth : both (readableKeys members) (r.read ⟨members, false⟩) with
    | ok read =>
      rw [hboth] at h
      cases h
      exact (ok_of_both hboth).2
    | error e =>
      rw [hboth] at h
      cases h
  | array items =>
    refine ⟨_, rfl, ?_⟩
    rw [decode] at h
    cases hread : r.read ⟨(r.fields.map some).zip items, true⟩ with
    | ok y =>
      simp only [hread] at h
      split at h
      · cases h
        rfl
      · cases h
    | error e =>
      simp only [hread] at h
      cases h
  | _ => cases h

theorem exists_of_read_seq {rf : Record (α → β)} {r : Record α} {entries : Entries} {y : β}
    (h : (rf <*> r).read entries = .ok y) :
    ∃ f x, rf.read entries = .ok f ∧ r.read entries = .ok x ∧ f x = y := by
  obtain ⟨⟨f, x⟩, hboth, rfl⟩ := exists_of_map_eq_ok (f := fun p : (α → β) × α => p.1 p.2) h
  obtain ⟨hf, hx⟩ := ok_of_both hboth
  exact ⟨f, x, hf, hx, rfl⟩

theorem exists_of_read_map {r : Record α} {f : α → β} {entries : Entries} {y : β}
    (h : (f <$> r).read entries = .ok y) : ∃ x, r.read entries = .ok x ∧ f x = y := by
  have hseq : (pure f <*> r).read entries = .ok y := h
  obtain ⟨g, x, hg, hx, rfl⟩ := exists_of_read_seq hseq
  cases hg
  exact ⟨x, hx, rfl⟩

/-- A field is read from its value in the record. -/
theorem exists_value? {r : Record β} {v : Draft} {entries : Entries} (hentries : entries? r.fields v = some entries)
    {key : String} {item : Decoder α} {x : α} (h : (field key item).read entries = .ok x) :
    ∃ w, r.value? key v = some w ∧ item w = .ok x := by
  rw [value?, hentries, Option.bind_some]
  unfold field fieldOr at h
  dsimp only at h
  cases hfind : entries.find key with
  | nil =>
    rw [hfind] at h
    cases h
  | cons found again =>
    obtain ⟨place, w⟩ := found
    rw [hfind] at h
    dsimp only at h
    refine ⟨w, rfl, ?_⟩
    cases hw : item w with
    | ok y =>
      rw [hw] at h
      cases again with
      | nil =>
        cases h
        rfl
      | cons => cases h
    | error e =>
      rw [hw] at h
      cases h

end Record

section Variants

/-- The name of the variant that a draft shows. -/
def Draft.variant? : Draft → Option String
  | .string name => some name
  | .object _ [(some name, _)] => some name
  | _ => none

private theorem exists_of_decodeVariant {read : String → Option Draft → Except DecodeError α} {v : Draft} {x : α}
    (h : decodeVariant read v = .ok x) :
    ∃ name value, v.variant? = some name ∧ read name value = .ok x := by
  unfold decodeVariant at h
  split at h
  · exact ⟨_, _, rfl, h⟩
  · exact ⟨_, _, rfl, h⟩
  · obtain ⟨_, -, h⟩ := exists_of_bind_eq_ok h
    cases h
  · cases h

theorem exists_of_decodeValueVariant {read : String → Decoder α} {v : Draft} {x : α}
    (h : decodeValueVariant read v = .ok x) : ∃ name w, v.variant? = some name ∧ read name w = .ok x := by
  obtain ⟨name, value, hname, hread⟩ := exists_of_decodeVariant h
  cases value with
  | some w => exact ⟨name, w, hname, hread⟩
  | none => cases hread

theorem variant?_of_decodeUnitVariant {v : Draft} {name : String} (h : decodeUnitVariant v = .ok name) :
    v.variant? = some name := by
  obtain ⟨found, value, hname, hread⟩ := exists_of_decodeVariant h
  split at hread
  · cases hread
    exact hname
  · cases hread

/-- What is read before the end is noticed to be missing. -/
private theorem ok_of_guarded {result : Except DecodeError α} {isLast : Bool} {x : α}
    (h : (do let y ← result; if isLast then return y else .error .mismatch) = .ok x) : result = .ok x := by
  obtain ⟨y, hy, h⟩ := exists_of_bind_eq_ok h
  cases isLast with
  | true => exact hy.trans h
  | false => cases h

theorem eq_some_of_require {x : Option α} {y : α} (h : require x = .ok y) : x = some y := by
  cases x with
  | some x => exact congrArg some (Except.ok.inj h)
  | none => cases h

/-- The value of a tagged variant is read from a part. -/
theorem exists_of_decodeTagged {tag content : String} {read : String → Option Draft → Except DecodeError α} {v : Draft}
    {x : α} (h : decodeTagged tag content read v = .ok x) :
    ∃ name value, read name value = .ok x ∧ ∀ w, value = some w → Part w v := by
  unfold decodeTagged at h
  split at h
  · rename_i members
    split at h
    · rename_i key value rest hfilter
      have hmem : ∀ m ∈ (some key, value) :: rest, m ∈ members := by
        intro m hm
        exact (List.mem_filter.1 (hfilter ▸ hm)).1
      split at h
      · obtain ⟨name, -, h⟩ := exists_of_bind_eq_ok h
        split at h
        · exact ⟨name, none, h, fun w hw => nomatch hw⟩
        · rename_i key' value' rest' _
          split at h
          · refine ⟨name, some value', ok_of_guarded h, ?_⟩
            rintro w ⟨⟩
            exact .member (hmem _ (List.mem_cons_of_mem _ List.mem_cons_self)) .self
          · cases h
        · cases h
      · -- the value comes before its name, and is put aside until the name is read
        split at h
        · rename_i buffered key' value' rest' hvalue
          split at h
          · obtain ⟨name, -, h⟩ := exists_of_bind_eq_ok h
            refine ⟨name, _, ok_of_guarded h, ?_⟩
            rintro w ⟨⟩
            exact .member (hmem _ List.mem_cons_self) (.putAside hvalue .self)
          · cases h
        · cases h
    · cases h
  · rename_i items
    obtain ⟨name, -, h⟩ := exists_of_bind_eq_ok h
    split at h
    · cases h
    · rename_i value rest _
      refine ⟨name, some value, ok_of_guarded h, ?_⟩
      rintro w ⟨⟩
      exact .item (List.mem_cons_of_mem _ List.mem_cons_self) .self
  · cases h

end Variants

end Telemetry.Json
