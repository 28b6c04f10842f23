import Mathlib.Data.List.Permutation
import Telemetry.Json.Record
import Telemetry.Json.Tagged
import Telemetry.Json.Word
import Telemetry.Proofs.Json.Restated

/-! Reading typed values back from JSON: integers, doubles, words, lists, variants and records. The order of members
does not count, nor how they are delivered, nor whether the value went through text. -/
namespace Telemetry.Json

variable {α β : Type} {f : Float → Float}

/-- The reader gives the stated result for whatever states the value, however its objects are delivered. -/
def Recovers (f : Float → Float) (decode : Decoder α) (v : Json) (x : α) : Prop :=
  ∀ ⦃w : Json⦄ (delivery : Delivery), Restates f v w → decode (w.draft delivery) = .ok x

/-- The reader accepts what the text of the value is read back as, and gives the stated result. -/
def Decodes (decode : Decoder α) (v : Json) (x : α) : Prop := decode v.reread = .ok x

/-- A function that doubles go through on their way is a reading of them if those that JSON has no text for become
NaN. -/
def IsReading (f : Float → Float) : Prop := ∀ x, x.isFinite = false → f x = Decimal.nan

theorem isReading_stored : IsReading stored := by
  intro x hx
  rw [stored, hx]
  rfl

/-- What is recovered after a detour through text is recovered from any text of the value. -/
theorem Recovers.decodeText {decode : Decoder α} {v w : Json} {x : α} (h : Recovers stored decode v x)
    (hw : Restates id v w) (hdepth : v.depth ≤ depthLimit) : decodeText decode w.text = .ok x := by
  rw [decodeText_text decode (hw.depth_eq.trans_le hdepth), reread_eq]
  exact h .stream hw.restored

theorem Recovers.decodes {decode : Decoder α} {v : Json} {x : α} (h : Recovers stored decode v x) :
    Decodes decode v x := by
  rw [Decodes, reread_eq]
  exact h .stream (Restates.restored (.refl (fun _ _ => rfl) v))

/-- A value that does not nest too deep is decoded from its text. -/
theorem Decodes.decodeText {decode : Decoder α} {v : Json} {x : α} (h : Decodes decode v x)
    (hdepth : v.depth ≤ depthLimit) : decodeText decode v.text = .ok x := by
  rw [decodeText_text decode hdepth, h]

/-- The members of an object may be listed in any order. -/
theorem Recovers.of_perm {decode : Decoder α} {xs members : List (String × Json)} {x : α} (hperm : xs.Perm members)
    (h : Recovers f decode (.object xs) x) : Recovers f decode (.object members) x :=
  fun _ delivery hw => h delivery (hw.of_perm hperm)

/-- A reader that goes on with what another one gives. -/
theorem Recovers.map {decode : Decoder α} {v : Json} {x : α} (g : α → β) (h : Recovers f decode v x) :
    Recovers f (fun d => g <$> decode d) v (g x) := by
  intro w delivery hw
  dsimp only
  rw [h delivery hw]
  rfl

section Scalars

theorem recovers_string (s : String) : Recovers f decodeString (.string s) s := by
  rintro _ delivery ⟨⟩
  rfl

theorem recovers_bool (b : Bool) : Recovers f decodeBool (.bool b) b := by
  rintro _ delivery ⟨⟩
  rfl

theorem recovers_int64 (n : Int64) : Recovers f decodeInt64 (.ofInt64 n) n := by
  rintro _ delivery ⟨⟩
  have hlow := n.le_toInt
  have hhigh := n.toInt_lt
  simp only [draft, decodeInt64, decodeInt]
  rw [if_pos (by omega)]
  exact congrArg Except.ok (Int64.ofInt_toInt n)

theorem recovers_int32 (n : Int32) : Recovers f decodeInt32 (.ofInt64 n.toInt64) n := by
  rintro _ delivery ⟨⟩
  have hlow := n.le_toInt
  have hhigh := n.toInt_lt
  simp only [draft, decodeInt32, decodeInt, Int32.toInt_toInt64]
  rw [if_pos (by omega)]
  exact congrArg Except.ok (Int32.ofInt_toInt n)

theorem recovers_uint32 (n : UInt32) : Recovers f decodeUInt32 (.ofUInt64 n.toUInt64) n := by
  rintro _ delivery ⟨⟩
  have h := n.toNat_lt
  simp only [draft, decodeUInt32, decodeInt, UInt32.toNat_toUInt64]
  rw [if_pos (by omega)]
  exact congrArg Except.ok UInt32.ofNat_toNat

theorem recovers_uint64 (n : UInt64) : Recovers f decodeUInt64 (.ofUInt64 n) n := by
  rintro _ delivery ⟨⟩
  have h := n.toNat_lt
  simp only [draft, decodeUInt64, decodeInt]
  rw [if_pos (by omega)]
  exact congrArg Except.ok UInt64.ofNat_toNat

/-- A double comes back as it is read; one that is not finite comes back as NaN. -/
theorem recovers_float (hf : IsReading f) (x : Float) : Recovers f decodeFloatOrNaN (.ofFloat x) (f x) := by
  intro w delivery h
  rw [ofFloat] at h
  split at h
  · cases h with
    | float hx hy h => exact congrArg Except.ok h.symm
  · rename_i hx
    rw [hf x (Bool.eq_false_of_not_eq_true hx)]
    cases h
    rfl

theorem recovers_int64Text (n : Int64) : Recovers f decodeInt64Text (ofInt64Text n) n := by
  rintro _ delivery ⟨⟩
  have hlow := n.le_toInt
  have hhigh := n.toInt_lt
  simp only [draft, decodeInt64Text, decodeWord, Text.readInt64]
  rw [Text.trimChars_toString_int, Text.readInteger_toString (by omega) (by omega)]
  exact congrArg Except.ok (Int64.ofInt_toInt n)

theorem recovers_uint64Text (n : UInt64) : Recovers f decodeUInt64Text (ofUInt64Text n) n := by
  rintro _ delivery ⟨⟩
  have h := n.toNat_lt
  simp only [draft, decodeUInt64Text, decodeWord, Text.readUInt64]
  rw [Nat.toString_eq_repr, Nat.toList_repr, Text.trimChars_toDigits, Text.readInteger_natural (by omega)]
  exact congrArg Except.ok (UInt64.ofNat_toNat)

/-- Null stands for no value, so a value must not be written as null. -/
theorem recovers_option {item : Decoder α} {toJson : α → Json} (hnull : ∀ y, toJson y ≠ .null) {x : Option α}
    (h : ∀ y ∈ x, Recovers f item (toJson y) y) :
    Recovers f (decodeOption item) ((x.map toJson).getD .null) x := by
  intro w delivery hw
  cases x with
  | none =>
    cases hw
    rfl
  | some y =>
    have hitem : item (w.draft delivery) = .ok y := h y rfl delivery hw
    have hne : w ≠ .null := by
      rintro rfl
      exact hnull y hw.eq_null
    cases w with
    | null => exact absurd rfl hne
    | _ => exact congrArg (some <$> ·) hitem

end Scalars

section Lists

private theorem decodeEach_draft {item : Decoder β} {toJson : α → Json} {g : α → β} (delivery : Delivery) :
    ∀ {xs : List α} {ws : List Json}, (∀ x ∈ xs, Recovers f item (toJson x) (g x)) →
      List.Forall₂ (Restates f) (xs.map toJson) ws →
        decodeEach item (draftItems delivery ws) = .ok (xs.map g)
  | [], _, _, .nil => rfl
  | x :: xs, _, h, .cons (b := w) hw hws => by
    have hx : item (w.draft delivery) = .ok (g x) := h x List.mem_cons_self delivery hw
    have hxs := decodeEach_draft delivery (fun y hy => h y (List.mem_cons_of_mem x hy)) hws
    rw [draftItems, decodeEach, hx, hxs]
    rfl

/-- A list comes back item by item. -/
theorem recovers_list {item : Decoder β} {toJson : α → Json} {g : α → β} {xs : List α}
    (h : ∀ x ∈ xs, Recovers f item (toJson x) (g x)) :
    Recovers f (decodeList item) (.array (xs.map toJson)) (xs.map g) := by
  intro w delivery hw
  obtain ⟨ws, rfl, hws⟩ := hw.exists_items
  exact decodeEach_draft delivery h hws

/-- A list of items that come back as they are. -/
theorem recovers_list_self {item : Decoder α} {toJson : α → Json} {xs : List α}
    (h : ∀ x ∈ xs, Recovers f item (toJson x) x) : Recovers f (decodeList item) (.array (xs.map toJson)) xs := by
  have hlist : Recovers f (decodeList item) (.array (xs.map toJson)) (xs.map id) := recovers_list h
  rwa [List.map_id] at hlist

/-- A list of integers that are written as texts. -/
theorem recovers_words {item : Decoder α} {text : α → String} (h : ∀ x, Recovers f item (.string (text x)) x)
    (xs : List α) : Recovers f (decodeWords item) (.array (xs.map fun x => .string (text x))) xs := by
  intro w delivery hw
  have heach := recovers_list_self (fun x _ => h x) delivery hw
  obtain ⟨ws, rfl, hws⟩ := hw.exists_items
  have hall : (draftItems delivery ws).all isWordLike = true := by
    clear heach hw
    induction xs generalizing ws with
    | nil =>
      cases hws
      rfl
    | cons x xs ih =>
      obtain ⟨u, us, hu, hus, rfl⟩ := List.forall₂_cons_left_iff.1 hws
      cases hu
      rw [draftItems, List.all_cons, ih us hus]
      rfl
  show (if (draftItems delivery ws).all isWordLike then decodeEach item (draftItems delivery ws) else _) = _
  rw [if_pos hall]
  exact heach

end Lists

section Variants

/-- A variant that carries a value, as an object with one member. -/
theorem recovers_variant {read : String → Decoder α} {name : String} {v : Json} {x : α}
    (h : Recovers f (read name) v x) : Recovers f (decodeValueVariant read) (.object [(name, v)]) x := by
  intro w delivery hw
  obtain ⟨ys, zs, rfl, hzs, hys⟩ := hw.exists_members
  obtain ⟨⟨key, u⟩, _, ⟨hkey, hu⟩, ⟨⟩, rfl⟩ := List.forall₂_cons_left_iff.1 hys
  obtain rfl : name = key := hkey
  obtain rfl := List.perm_singleton.1 hzs.symm
  cases delivery <;> exact h _ hu

/-- The name of a variant that carries no value. -/
theorem recovers_name {ofName? : String → Option α} {name : String} {x : α} (h : ofName? name = some x) :
    Recovers f (fun v => do require (ofName? (← decodeUnitVariant v))) (.string name) x := by
  rintro _ delivery ⟨⟩
  show require (ofName? name) = .ok x
  rw [h]
  rfl

variable {tag content name : String} {read : String → Option Draft → Except DecodeError α} {x : α}

/-- A variant with a value under a tag of its own. If the value comes first, it is put aside until the tag is read. -/
theorem recovers_tagged {v : Json} (hne : tag ≠ content)
    (h : Recovers f (fun d => read name (some d)) v x) :
    Recovers f (decodeTagged tag content read) (.object [(content, v), (tag, .string name)]) x := by
  intro w delivery hw
  obtain ⟨ys, zs, rfl, hzs, hys⟩ := hw.exists_members
  obtain ⟨⟨key, u⟩, _, ⟨hkey, hu⟩, hrest, rfl⟩ := List.forall₂_cons_left_iff.1 hys
  obtain ⟨⟨key', _⟩, _, ⟨hkey', ⟨⟩⟩, ⟨⟩, rfl⟩ := List.forall₂_cons_left_iff.1 hrest
  obtain rfl : content = key := hkey
  obtain rfl : tag = key' := hkey'
  rcases List.perm_pair.1 hzs.symm with rfl | rfl
  · simp only [draft, draftMembers, decodeTagged, Option.all_some, BEq.rfl, Bool.or_true, Bool.true_or,
      List.filter_cons_of_pos, List.filter_nil, hne.symm, ↓reduceIte, Draft.toJson?_draft, decodeUnitVariant,
      decodeVariant, Option.all_none, List.isEmpty_nil, bind_pure]
    exact h .buffered hu
  · simp only [draft, draftMembers, decodeTagged, Option.all_some, BEq.rfl, Bool.or_true, Bool.true_or,
      List.filter_cons_of_pos, List.filter_nil, ↓reduceIte, decodeUnitVariant, decodeVariant, Option.all_none,
      List.isEmpty_nil, bind_pure]
    exact h delivery hu

/-- A variant without a value, by its tag alone. -/
theorem recovers_tag (h : read name none = .ok x) :
    Recovers f (decodeTagged tag content read) (.object [(tag, .string name)]) x := by
  intro w delivery hw
  obtain ⟨ys, zs, rfl, hzs, hys⟩ := hw.exists_members
  obtain ⟨⟨key, _⟩, _, ⟨hkey, ⟨⟩⟩, ⟨⟩, rfl⟩ := List.forall₂_cons_left_iff.1 hys
  obtain rfl : tag = key := hkey
  obtain rfl := List.perm_singleton.1 hzs.symm
  simp only [draft, draftMembers, decodeTagged, Option.all_some, BEq.rfl, Bool.true_or, List.filter_cons_of_pos,
    List.filter_nil, ↓reduceIte, decodeUnitVariant, decodeVariant, Option.all_none]
  exact h

end Variants

section Records

open Record

variable {members : List (String × Json)} {entries : List (Option String × Draft)}

/-- The record gives the value when it is read from the entries of an object. -/
def Reads (r : Record α) (entries : List (Option String × Draft)) (x : α) : Prop :=
  r.read ⟨entries, false⟩ = .ok x

theorem Reads.map {r : Record α} {x : α} (g : α → β) (h : Reads r entries x) : Reads (g <$> r) entries (g x) := by
  show (fun p : (α → β) × α => p.1 p.2) <$> both (.ok g) (r.read _) = _
  rw [h]
  rfl

theorem Reads.seq {rg : Record (α → β)} {r : Record α} {g : α → β} {x : α} (hg : Reads rg entries g)
    (h : Reads r entries x) : Reads (rg <*> r) entries (g x) := by
  show (fun p : (α → β) × α => p.1 p.2) <$> both (rg.read _) (r.read _) = _
  rw [hg, h]
  rfl

/-- The entries state the members again, each under its key and no key twice. -/
structure Offers (f : Float → Float) (members : List (String × Json)) (entries : List (Option String × Draft)) :
    Prop where
  nodup : (entries.map Prod.fst).Nodup
  keys : ∀ e ∈ entries, ∃ m ∈ members, e.1 = some m.1
  value : ∀ m ∈ members, ∃ w delivery, (some m.1, w.draft delivery) ∈ entries ∧ Restates f m.2 w

theorem draftMembers_eq_map (delivery : Delivery) (members : List (String × Json)) :
    draftMembers delivery members = members.map fun m => (some m.1, m.2.draft delivery) := by
  induction members with
  | nil => rfl
  | cons m rest ih => rw [draftMembers, ih, List.map_cons]

private theorem offers_draft {w : Json} (hnodup : (members.map Prod.fst).Nodup) (delivery : Delivery)
    (h : Restates f (.object members) w) :
    ∃ entries, w.draft delivery = .object delivery entries ∧ Offers f members entries := by
  obtain ⟨ys, zs, rfl, hzs, hys⟩ := h.exists_members
  refine ⟨_, rfl, ?_⟩
  rw [draftMembers_eq_map]
  have hkeys : members.map Prod.fst = ys.map Prod.fst :=
    map_eq_of_forall₂ (hys.imp fun _ _ h => h.1)
  constructor
  · rw [List.map_map, List.Perm.nodup_iff (hzs.symm.map _)]
    show (ys.map (some ∘ Prod.fst)).Nodup
    rw [← List.map_map, ← hkeys]
    exact hnodup.map (Option.some_injective _)
  · intro e he
    obtain ⟨z, hz, rfl⟩ := List.mem_map.1 he
    have hkey : z.1 ∈ members.map Prod.fst := hkeys ▸ List.mem_map_of_mem (hzs.mem_iff.2 hz)
    obtain ⟨m, hm, hfst⟩ := List.mem_map.1 hkey
    exact ⟨m, hm, congrArg some hfst.symm⟩
  · intro m hm
    obtain ⟨y, hy, hkey, hvalue⟩ := exists_of_mem_forall₂ hys hm
    exact ⟨y.2, delivery, List.mem_map.2 ⟨y, hzs.mem_iff.1 hy, by rw [hkey]⟩, hvalue⟩

private theorem find_eq_nil {key : String} {ms : List (Option String × Draft)} {start : Nat}
    (h : ∀ m ∈ ms, m.1 ≠ some key) :
    ((ms.zipIdx start).filterMap fun (m, place) =>
      if m.1 = some key then some (place, m.2) else none) = [] := by
  refine List.filterMap_eq_nil_iff.2 fun ⟨m, place⟩ hm => ?_
  exact if_neg (h m (List.fst_mem_of_mem_zipIdx hm))

private theorem find_of_mem {key : String} {d : Draft} (hnodup : (entries.map Prod.fst).Nodup)
    (hmem : (some key, d) ∈ entries) (start : Nat) :
    ∃ place, ((entries.zipIdx start).filterMap fun (m, place) =>
      if m.1 = some key then some (place, m.2) else none) = [(place, d)] := by
  induction entries generalizing start with
  | nil => exact absurd hmem List.not_mem_nil
  | cons m rest ih =>
    obtain ⟨k, e⟩ := m
    obtain ⟨hhead, hrest⟩ := List.nodup_cons.1 hnodup
    simp only [List.zipIdx_cons, List.filterMap_cons]
    rcases List.mem_cons.1 hmem with heq | hmem
    · obtain ⟨rfl, rfl⟩ := Prod.mk.inj heq
      refine ⟨start, ?_⟩
      rw [if_pos rfl, find_eq_nil]
      exact fun m hm h => hhead (List.mem_map.2 ⟨m, hm, h⟩)
    · have hne : k ≠ some key := fun h => hhead (List.mem_map.2 ⟨(some key, d), hmem, h.symm⟩)
      obtain ⟨place, hplace⟩ := ih hrest hmem (start + 1)
      exact ⟨place, by rw [if_neg hne, hplace]⟩

/-- A field is read from the member that has its name. -/
theorem Offers.field (h : Offers f members entries) {key : String} {absent : Entries → Option α}
    {item : Decoder α} {v : Json} {x : α} (hmem : (key, v) ∈ members) (hitem : Recovers f item v x) :
    Reads (fieldOr key absent item) entries x := by
  obtain ⟨w, delivery, hentry, hw⟩ := h.value (key, v) hmem
  obtain ⟨place, hfind⟩ := find_of_mem h.nodup hentry 0
  have hfind' : Entries.find ⟨entries, false⟩ key = [(place, w.draft delivery)] := hfind
  rw [Reads, fieldOr]
  dsimp only
  rw [hfind']
  dsimp only
  rw [hitem delivery hw]

/-- A field that may be missing has its default if no member has its name. -/
theorem Offers.missing (h : Offers f members entries) {key : String} {absent : Entries → Option α}
    {item : Decoder α} {x : α} (hmem : key ∉ members.map Prod.fst) (habsent : absent ⟨entries, false⟩ = some x) :
    Reads (fieldOr key absent item) entries x := by
  have hfind : Entries.find ⟨entries, false⟩ key = [] := by
    refine find_eq_nil fun e he hkey => ?_
    obtain ⟨m, hm, hfst⟩ := h.keys e he
    exact hmem (List.mem_map.2 ⟨m, hm, Option.some.inj (hfst.symm.trans hkey)⟩)
  rw [Reads, fieldOr]
  dsimp only
  rw [hfind]
  dsimp only
  rw [habsent]

/-- A record is read from an object without repeated keys if its fields are. -/
theorem recovers_record {r : Record α} {x : α} (hnodup : (members.map Prod.fst).Nodup)
    (h : ∀ {entries}, Offers f members entries → Reads r entries x) : Recovers f r.decode (.object members) x := by
  intro w delivery hw
  obtain ⟨entries, hdraft, hoffers⟩ := offers_draft hnodup delivery hw
  have hread : r.read ⟨entries, false⟩ = .ok x := h hoffers
  have hkeys : readableKeys entries = .ok () := by
    have hnone : entries.findIdx? (·.1.isNone) = none := by
      rw [List.findIdx?_eq_none_iff]
      intro e he
      obtain ⟨m, -, hm⟩ := hoffers.keys e he
      rw [hm]
      rfl
    rw [readableKeys, hnone]
  rw [hdraft]
  simp only [Record.decode, hkeys, hread]
  rfl

end Records

section Depth

theorem itemsDepth_le {d : Nat} {items : List Json} (h : ∀ v ∈ items, v.depth ≤ d) :
    itemsDepth items ≤ d := by
  induction items with
  | nil => exact Nat.zero_le d
  | cons v rest ih =>
    exact Nat.max_le.2 ⟨h v List.mem_cons_self, ih fun w hw => h w (List.mem_cons_of_mem v hw)⟩

theorem membersDepth_le {d : Nat} {members : List (String × Json)} (h : ∀ m ∈ members, m.2.depth ≤ d) :
    membersDepth members ≤ d := by
  induction members with
  | nil => exact Nat.zero_le d
  | cons m rest ih =>
    exact Nat.max_le.2 ⟨h m List.mem_cons_self, ih fun w hw => h w (List.mem_cons_of_mem m hw)⟩

theorem depth_array_map_le {d : Nat} {f : α → Json} {xs : List α} (h : ∀ x ∈ xs, (f x).depth ≤ d) :
    (array (xs.map f)).depth ≤ d + 1 := by
  refine Nat.succ_le_succ (itemsDepth_le fun v hv => ?_)
  obtain ⟨x, hx, rfl⟩ := List.mem_map.1 hv
  exact h x hx

theorem depth_object_le {d : Nat} {members : List (String × Json)} (h : ∀ m ∈ members, m.2.depth ≤ d) :
    (object members).depth ≤ d + 1 :=
  Nat.succ_le_succ (membersDepth_le h)

theorem depth_ofFloat (x : Float) : (ofFloat x).depth = 0 := by
  rw [ofFloat]
  split <;> rfl

end Depth

end Telemetry.Json
