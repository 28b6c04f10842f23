import Telemetry.Otlp.Value
import Telemetry.Proofs.Encoding.Outcome

/-! What the values of a message become, and with them its resource and its scope. An attribute is what typing makes
of a value's dynamic form. Of the values listed with one key the last one counts, also within a map. -/
namespace Telemetry.Otlp

open AttributeEncoding

/-- The value that a key is listed with last. -/
def lastValue? {α : Type} (entries : List (String × α)) (key : String) : Option α := entries.reverse.lookup key

/-- The dynamic form of a value. -/
inductive HasForm : AnyValue → Json → Prop
  | unset : HasForm .unset .null
  | string (s : String) : HasForm (.string s) (.string s)
  | bool (b : Bool) : HasForm (.bool b) (.bool b)
  | int (n : Int64) : HasForm (.int n) (.ofInt64 n)
  | finite {x : Float} (h : x.isFinite = true) : HasForm (.double x) (.number (.float x h))
  | nonFinite {x : Float} (h : x.isFinite = false) : HasForm (.double x) (.string (Decimal.display x))
  | bytes (bytes : List UInt8) : HasForm (.bytes bytes) (.array (bytes.map fun b => .ofUInt64 b.toUInt64))
  | array {items : List AnyValue} {forms : List Json} (h : List.Forall₂ HasForm items forms) :
    HasForm (.array items) (.array forms)
  | map {entries : KeyValues} {members : List (String × Json)} (hascending : Keyed.Ascending members)
      (h : ∀ key, Option.Rel HasForm (lastValue? entries key) (members.lookup key)) :
    HasForm (.map entries) (.object members)

/-- What an attribute keeps of a value: the typed form of its dynamic form. -/
def IsKeptAs (v : AnyValue) (value : AttributeValue) : Prop := ∃ form, HasForm v form ∧ IsTypedAs form value

/-- Whether a map holds the attributes of a message: all of them but one with the empty key, and no others. -/
def HoldsAttributes (entries : KeyValues) (a : Attributes) : Prop :=
  ∀ key value, a.get? key = some value ↔ key ≠ "" ∧ ∃ v, lastValue? entries key = some v ∧ IsKeptAs v value

/-- The resource of a message. A missing one has no attributes and dropped none. -/
structure IsResourceOf (message : Option ResourceMessage) (r : Resource) : Prop where
  attributes : HoldsAttributes (message.elim [] (·.attributes)) r.attributes
  dropped : r.droppedAttributesCount = message.elim 0 (·.droppedAttributesCount)

/-- The scope of a message. A missing one has no name either. -/
structure IsScopeOf (message : Option ScopeMessage) (s : Scope) : Prop where
  name : s.name = message.elim "" (·.name)
  version : s.version = message.elim "" (·.version)
  attributes : HoldsAttributes (message.elim [] (·.attributes)) s.attributes
  dropped : s.droppedAttributesCount = message.elim 0 (·.droppedAttributesCount)

section Forms

theorem value_entriesToJson (entries : KeyValues) :
    (entriesToJson entries).value = entries.map fun e => (e.1, e.2.toJson.value) := by
  induction entries with
  | nil => rfl
  | cons e rest ih => exact congrArg ((e.1, e.2.toJson.value) :: ·) ih

/-- The member of a key is the dynamic form of the value that the key is listed with last. -/
theorem lookup_members (entries : KeyValues) (key : String) :
    (Keyed.ofList (entriesToJson entries).value).lookup key =
      (lastValue? entries key).map fun v => v.toJson.value := by
  rw [Keyed.lookup_ofList, value_entriesToJson, ← List.map_reverse, lastValue?]
  induction entries.reverse with
  | nil => rfl
  | cons e rest ih => grind

theorem mem_of_lastValue? {α : Type} {entries : List (String × α)} {key : String} {v : α}
    (h : lastValue? entries key = some v) : (key, v) ∈ entries := by
  obtain ⟨before, after, hsplit, -⟩ := List.lookup_eq_some_iff.1 h
  rw [← List.mem_reverse, hsplit]
  exact List.mem_append_right before List.mem_cons_self

theorem doubleJson_finite {x : Float} (h : x.isFinite = true) : doubleJson x = pure (.number (.float x h)) := by
  rw [doubleJson, Json.Number.ofFloat?, dif_pos h]

theorem hasForm_double_iff {x : Float} {form : Json} : HasForm (.double x) form ↔ (doubleJson x).value = form := by
  by_cases h : x.isFinite = true
  · rw [doubleJson_finite h, Reported.value_pure]
    exact ⟨fun | .finite _ => rfl | .nonFinite hx => absurd (h.symm.trans hx) Bool.noConfusion, fun hx => hx ▸ .finite h⟩
  · have hvalue : (doubleJson x).value = .string (Decimal.display x) := by
      rw [doubleJson, Json.Number.ofFloat?, dif_neg h]
      rfl
    rw [hvalue]
    exact ⟨fun | .finite hx => absurd hx h | .nonFinite _ => rfl, fun hx => hx ▸ .nonFinite (Bool.eq_false_iff.2 h)⟩

/-- A relation that is a function on what an option holds is that function on the option. -/
private theorem rel_iff_map_eq {α β : Type} {R : α → β → Prop} {f : α → β} {x : Option α} {y : Option β}
    (h : ∀ v, x = some v → ∀ w, R v w ↔ f v = w) : Option.Rel R x y ↔ x.map f = y := by
  cases x <;> cases y <;> simp_all

mutual

/-- The dynamic form of a value is told by the rules alone. -/
theorem hasForm_iff : (v : AnyValue) → ∀ form, HasForm v form ↔ v.toJson.value = form
  | .unset, _ => ⟨fun | .unset => rfl, fun h => h ▸ .unset⟩
  | .string s, _ => ⟨fun | .string _ => rfl, fun h => h ▸ .string s⟩
  | .bool b, _ => ⟨fun | .bool _ => rfl, fun h => h ▸ .bool b⟩
  | .int n, _ => ⟨fun | .int _ => rfl, fun h => h ▸ .int n⟩
  | .double _, _ => hasForm_double_iff
  | .bytes b, _ => ⟨fun | .bytes _ => rfl, fun h => h ▸ .bytes b⟩
  | .array items, _ =>
    ⟨fun | .array h => congrArg Json.array ((hasForm_items_iff items _).1 h),
      fun h => h ▸ .array ((hasForm_items_iff items _).2 rfl)⟩
  | .map entries, form => by
    -- Members with ascending keys are told by what is found under each key, and that comes from one of the entries.
    have hlookup : ∀ key y, Option.Rel HasForm (lastValue? entries key) y ↔
        (Keyed.ofList (entriesToJson entries).value).lookup key = y := by
      intro key y
      rw [lookup_members]
      exact rel_iff_map_eq fun v hv => hasForm_entries_iff entries (key, v) (mem_of_lastValue? hv)
    constructor
    · rintro ⟨⟩
      rename_i members hascending h
      refine congrArg Json.object ?_
      exact (Keyed.ascending_ofList _).eq_of_lookup hascending fun key => (hlookup key _).1 (h key)
    · rintro rfl
      exact .map (Keyed.ascending_ofList _) fun key => (hlookup key _).2 rfl

theorem hasForm_items_iff : (items : List AnyValue) → ∀ forms,
    List.Forall₂ HasForm items forms ↔ (itemsToJson items).value = forms
  | [], _ => List.forall₂_nil_left_iff.trans eq_comm
  | v :: rest, forms => by
    rw [List.forall₂_cons_left_iff]
    simp only [hasForm_iff v, hasForm_items_iff rest]
    exact ⟨fun ⟨_, _, hv, hrest, h⟩ => by rw [h, ← hv, ← hrest]; rfl, fun h => ⟨_, _, rfl, rfl, h.symm⟩⟩

theorem hasForm_entries_iff : (entries : KeyValues) → ∀ e ∈ entries, ∀ form,
    HasForm e.2 form ↔ e.2.toJson.value = form
  | [] => List.forall_mem_nil _
  | (_, v) :: rest => List.forall_mem_cons.2 ⟨hasForm_iff v, hasForm_entries_iff rest⟩

end

end Forms

section Origins

theorem isKeptAs_iff (key : String) {v : AnyValue} {value : AttributeValue} :
    IsKeptAs v value ↔ (encodeValue key v.toJson.value).value = value := by
  simp only [IsKeptAs, hasForm_iff, exists_eq_left', value_encodeValue_eq_iff]

theorem get?_attributes (entries : KeyValues) (key : String) :
    (attributes entries).value.get? key =
      if key = "" then none
      else (lastValue? entries key).map fun v => (encodeValue key v.toJson.value).value := by
  have hmembers := Keyed.ofList_eq_self (Keyed.ascending_ofList (entriesToJson entries).value)
  have hget := get?_encode (Keyed.ofList (entriesToJson entries).value) key
  rw [← Keyed.lookup_ofList, hmembers, lookup_members, Option.map_map] at hget
  exact hget

/-- The attributes of a message are in the map that it becomes. -/
theorem holdsAttributes (entries : KeyValues) : HoldsAttributes entries (attributes entries).value := by
  intro key value
  rw [get?_attributes, Option.ite_none_left_eq_some, Option.map_eq_some_iff]
  simp only [isKeptAs_iff key, ne_eq]

theorem isResourceOf (message : Option ResourceMessage) : IsResourceOf message (resource message).value := by
  cases message with
  | none => exact ⟨holdsAttributes [], rfl⟩
  | some r => exact ⟨holdsAttributes r.attributes, rfl⟩

theorem isScopeOf (message : Option ScopeMessage) : IsScopeOf message (scope message).value := by
  cases message with
  | none => exact ⟨rfl, rfl, holdsAttributes [], rfl⟩
  | some s => exact ⟨rfl, rfl, holdsAttributes s.attributes, rfl⟩

end Origins
end Telemetry.Otlp
