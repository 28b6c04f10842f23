import Telemetry.Proofs.Encoding.Typing

/-! Typing a map of values and taking the plain values again. Doing it twice is doing it once, and it leaves a map
as it is exactly if each value has a type of its own and no key is empty. -/
namespace Telemetry

namespace Attributes

/-- The maps that typing makes: no key is empty, and every value has a type that is found again. -/
structure IsTyped (a : Attributes) : Prop where
  key_ne : ∀ e ∈ a.entries, e.1 ≠ ""
  value : ∀ e ∈ a.entries, e.2.IsTyped

theorem isTyped_empty : empty.IsTyped := ⟨List.forall_mem_nil _, List.forall_mem_nil _⟩

/-- An empty key is left out. -/
theorem value_insert (a : Attributes) (key : String) (value : AttributeValue) :
    (a.insert key value).value = if key = "" then a else a.set key value := by
  unfold insert
  split <;> rfl

theorem insert_of_ne {a : Attributes} {key : String} (h : key ≠ "") (value : AttributeValue) :
    a.insert key value = pure (a.set key value) := if_neg h

theorem IsTyped.insert {a : Attributes} (h : a.IsTyped) (key : String) {value : AttributeValue}
    (hvalue : value.IsTyped) : (a.insert key value).value.IsTyped := by
  rw [value_insert]
  split
  · exact h
  · rename_i hkey
    constructor
    · intro e he
      rcases Keyed.mem_insert he with rfl | he
      · exact hkey
      · exact h.key_ne e he
    · intro e he
      rcases Keyed.mem_insert he with rfl | he
      · exact hvalue
      · exact h.value e he

theorem IsTyped.isFinite {a : Attributes} (h : a.IsTyped) : ∀ x ∈ a.doubles, x.isFinite = true := by
  intro x hx
  obtain ⟨e, he, hx⟩ := List.mem_flatMap.1 hx
  exact (h.value e he).isFinite x hx

theorem ascending_plain (a : Attributes) : Keyed.Ascending a.plain :=
  List.pairwise_map.2 a.ascending

end Attributes

namespace AttributeEncoding

theorem isTyped_encodeInto {a : Attributes} (h : a.IsTyped) (members : List (String × Json)) :
    (encodeInto a members).value.IsTyped := by
  induction members generalizing a with
  | nil => exact h
  | cons m rest ih => exact ih (h.insert m.1 (isTyped_encodeValue m.1 m.2))

theorem isTyped_encode (members : List (String × Json)) : (encode members).value.IsTyped :=
  isTyped_encodeInto Attributes.isTyped_empty members

/-- Members with ascending keys, none of them empty, are typed one by one. -/
private theorem encodeInto_ascending {done : Attributes} {members : List (String × Json)}
    (h : ∀ e ∈ done.entries, ∀ m ∈ members, e.1 < m.1) (hmembers : Keyed.Ascending members)
    (hkeys : ∀ m ∈ members, m.1 ≠ "") :
    (encodeInto done members).value.entries =
        done.entries ++ members.map (fun m => (m.1, (encodeValue m.1 m.2).value)) ∧
      (encodeInto done members).warnings = members.flatMap fun m => (encodeValue m.1 m.2).warnings := by
  induction members generalizing done with
  | nil => exact ⟨(List.append_nil _).symm, rfl⟩
  | cons m rest ih =>
    obtain ⟨hkey, hrest⟩ := List.forall_mem_cons.1 hkeys
    obtain ⟨hhead, htail⟩ := List.pairwise_cons.1 hmembers
    have hset : (done.set m.1 (encodeValue m.1 m.2).value).entries =
        done.entries ++ [(m.1, (encodeValue m.1 m.2).value)] :=
      Keyed.insert_of_lt fun e he => h e he m List.mem_cons_self
    have hnext : ∀ e ∈ (done.set m.1 (encodeValue m.1 m.2).value).entries, ∀ n ∈ rest, e.1 < n.1 := by
      intro e he n hn
      rw [hset, List.mem_append, List.mem_singleton] at he
      rcases he with he | rfl
      · exact h e he n (List.mem_cons_of_mem m hn)
      · exact hhead n hn
    obtain ⟨hentries, hwarnings⟩ := ih hnext htail hrest
    simp only [encodeInto, Attributes.insert_of_ne hkey, Reported.value_bind, Reported.warnings_bind,
      Reported.value_pure, Reported.warnings_pure, List.nil_append]
    rw [hentries, hwarnings, hset, List.append_assoc, List.map_cons, List.flatMap_cons]
    exact ⟨rfl, rfl⟩

/-- The members of an object, if none has an empty key, are typed one by one. -/
theorem encode_ascending {members : List (String × Json)} (hmembers : Keyed.Ascending members)
    (hkeys : ∀ m ∈ members, m.1 ≠ "") :
    (encode members).value.entries = members.map (fun m => (m.1, (encodeValue m.1 m.2).value)) ∧
      (encode members).warnings = members.flatMap fun m => (encodeValue m.1 m.2).warnings :=
  encodeInto_ascending (List.forall_mem_nil _) hmembers hkeys

/-- The plain values of a typed map are given their types again, without a warning. -/
theorem encode_plain {a : Attributes} (h : a.IsTyped) : encode a.plain = pure a := by
  have hkeys : ∀ m ∈ a.plain, m.1 ≠ "" := List.forall_mem_map.2 h.key_ne
  have hvalue : ∀ e ∈ a.entries, encodeValue e.1 e.2.plain = pure e.2 := fun e he =>
    encodeValue_plain e.1 (h.value e he)
  obtain ⟨hentries, hwarnings⟩ := encode_ascending a.ascending_plain hkeys
  have hmap : (encode a.plain).value.entries = a.entries := by
    rw [hentries, Attributes.plain, List.map_map, map_eq_self_iff]
    intro e he
    rw [Function.comp_apply, hvalue e he]
    rfl
  have hsilent : (encode a.plain).warnings = [] := by
    rw [hwarnings, List.flatMap_eq_nil_iff, Attributes.plain]
    refine List.forall_mem_map.2 fun e he => ?_
    rw [hvalue e he]
    rfl
  exact congrArg₂ Reported.mk (Attributes.ext_entries hmap) hsilent

/-- Values that have a type of their own come out as they are. -/
private theorem plain_encode {raw : List (String × Json)} (hraw : Keyed.Ascending raw)
    (h : ∀ m ∈ raw, m.1 ≠ "" ∧ m.2.isExact = true) : (encode raw).value.plain = raw := by
  rw [Attributes.plain, (encode_ascending hraw fun m hm => (h m hm).1).1, List.map_map, map_eq_self_iff]
  intro m hm
  obtain ⟨value, htyped, hplain⟩ := (isExact_iff m.2).1 (h m hm).2
  have hvalue : (encodeValue m.1 m.2).value.plain = m.2 := by
    rw [← hplain, encodeValue_plain m.1 htyped]
    rfl
  exact congrArg (m.1, ·) hvalue

/-- Typing the plain values of a typed map gives the map, without a warning. An object, whose keys ascend, comes out
as it is exactly if none of its keys is empty and each of its values has a type of its own. -/
theorem encode_plain_encode (raw : List (String × Json)) :
    encode (encode raw).value.plain = pure (encode raw).value ∧
      ((encode raw).value.plain = raw ↔
        Keyed.Ascending raw ∧ ∀ m ∈ raw, m.1 ≠ "" ∧ m.2.isExact = true) := by
  have htyped := isTyped_encode raw
  refine ⟨encode_plain htyped, fun h => ?_, fun ⟨hraw, hexact⟩ => plain_encode hraw hexact⟩
  rw [← h]
  refine ⟨Attributes.ascending_plain _, List.forall_mem_map.2 fun e he => ⟨htyped.key_ne e he, ?_⟩⟩
  exact (isExact_iff _).2 ⟨e.2, htyped.value e he, rfl⟩

end AttributeEncoding
end Telemetry
