import Telemetry.Proofs.Ingest.Values
import Telemetry.Proofs.Json.Parsing

/-! The bodies of dynamic values and of message values. Scalars are bodies of their own. A list or a map is kept as
text, and clients see what the text is parsed as, or the text where it cannot be parsed. -/
namespace Telemetry

namespace Json

/-- The doubles that are kept as text if a value is a body: those inside of its lists and objects. -/
def innerDoubles : Json → List Float
  | .array items => itemsDoubles items
  | .object members => membersDoubles members
  | _ => []

/-- What clients see of a value that is a body. -/
def shown : Json → Json
  | .array items => if (array items).depth ≤ depthLimit then (array items).restored else .string (array items).text
  | .object members =>
    if (object members).depth ≤ depthLimit then (object members).restored else .string (object members).text
  | v => v

theorem shown_eq_self_iff {v : Json} (h : v.depth ≤ depthLimit) :
    v.shown = v ↔ ∀ x ∈ v.innerDoubles, stored x = x := by
  cases v with
  | array items => rw [shown, if_pos h, restored_eq_self_iff, doubles, innerDoubles]
  | object members => rw [shown, if_pos h, restored_eq_self_iff, doubles, innerDoubles]
  | _ => exact iff_of_true rfl (List.forall_mem_nil _)

theorem shown_eq_text {v : Json} (h : depthLimit < v.depth) : v.shown = .string v.text := by
  cases v with
  | array items => exact if_neg (Nat.not_le.2 h)
  | object members => exact if_neg (Nat.not_le.2 h)
  | _ => exact absurd h (Nat.not_lt_zero _)

end Json

namespace Body

open Json (depthLimit stored)

theorem plain_structured {v : Json} (h : v.Canonical) :
    (structured v).plain = if v.depth ≤ depthLimit then v.restored else .string v.text := by
  rw [structured, plain, Json.parse?_text]
  by_cases hdepth : v.depth ≤ depthLimit
  · simp only [if_pos hdepth, h.restored.canonical_eq]
  · simp only [if_neg hdepth]

/-- A value has a body that shows it, except for null and the integers that only an unsigned word can hold. -/
theorem exists_plain_eq_shown {v : Json} (h : v.Canonical) (hnull : v ≠ .null)
    (hsigned : ∀ n fits, v = .number (.int n fits) → n < 2 ^ 63) :
    ∃ b, (ofJson? v).value = some b ∧ b.plain = v.shown := by
  cases v with
  | null => exact absurd rfl hnull
  | bool b => exact ⟨.bool b, rfl, rfl⟩
  | string s => exact ⟨.string s, rfl, rfl⟩
  | array items => exact ⟨_, rfl, plain_structured h⟩
  | object members => exact ⟨_, rfl, plain_structured h⟩
  | number n =>
    cases n with
    | float x finite => exact ⟨.float x, rfl, Json.ofFloat_finite finite⟩
    | int n fits =>
      have hhigh := hsigned n fits rfl
      have hlow : -2 ^ 63 ≤ n := by
        simp only [fitsWord, Bool.and_eq_true, decide_eq_true_eq] at fits
        exact fits.1
      have hword : (Json.Number.int n fits).int64? = some (Int64.ofInt n) := if_pos ⟨hlow, hhigh⟩
      refine ⟨.int (Int64.ofInt n), by simp only [ofJson?, hword]; rfl, ?_⟩
      -- The word that is kept stands for the same integer.
      have hback : (Int64.ofInt n).toInt = n := Int64.toInt_ofInt_of_le hlow hhigh
      simp only [plain, Json.ofInt64, hback]
      rfl

/-- A value that is a body is shown to clients as it is, if the doubles that are kept as text are read back, or as its
text, if it nests too deep. -/
theorem exists_plain_ofJson {v : Json} (h : v.Canonical) (hnull : v ≠ .null)
    (hsigned : ∀ n fits, v = .number (.int n fits) → n < 2 ^ 63) :
    ∃ b, (ofJson? v).value = some b ∧
      if v.depth ≤ depthLimit then (b.plain = v ↔ ∀ x ∈ v.innerDoubles, stored x = x)
      else b.plain = .string v.text := by
  obtain ⟨b, hb, hplain⟩ := exists_plain_eq_shown h hnull hsigned
  refine ⟨b, hb, ?_⟩
  rw [hplain]
  split
  · exact Json.shown_eq_self_iff ‹_›
  · exact Json.shown_eq_text (Nat.lt_of_not_le ‹_›)

/-- A map of lists, with the largest integer, one half and the empty list in them. -/
def nested : Json :=
  .object [
    ("a", .array [.number (.int 18446744073709551615 rfl), .number (.float 0.5 rfl), .array []]),
    ("b", .object [("", .null)])]

theorem canonical_nested : nested.Canonical := by
  refine ⟨List.pairwise_pair.2 (by decide), ?_, ?_, trivial⟩
  · exact ⟨trivial, trivial, trivial, trivial⟩
  · exact ⟨List.pairwise_singleton _ _, trivial, trivial⟩

theorem exists_plain_ofJson_nested :
    nested.Canonical ∧ nested ≠ .null ∧ (∀ n fits, nested = .number (.int n fits) → n < 2 ^ 63) ∧
      nested.depth ≤ depthLimit ∧ (∀ x ∈ nested.innerDoubles, stored x = x) ∧
        ∃ b, (ofJson? nested).value = some b ∧ b.plain = nested := by
  have hnull : nested ≠ .null := Json.noConfusion
  have hsigned : ∀ n fits, nested = .number (.int n fits) → n < 2 ^ 63 := by simp [nested]
  have hdepth : nested.depth ≤ depthLimit := by decide
  have hstored : ∀ x ∈ nested.innerDoubles, stored x = x := by
    rw [show nested.innerDoubles = [0.5] from rfl, List.forall_mem_singleton]
    decide +kernel
  obtain ⟨b, hb, hplain⟩ := exists_plain_ofJson canonical_nested hnull hsigned
  rw [if_pos hdepth] at hplain
  exact ⟨canonical_nested, hnull, hsigned, hdepth, hstored, b, hb, hplain.2 hstored⟩

end Body

namespace Otlp

open Json (depthLimit stored)

mutual

/-- The keys of the objects in a dynamic value ascend. -/
theorem canonical_toJson : ∀ v : AnyValue, v.toJson.value.Canonical
  | .unset => trivial
  | .string _ => trivial
  | .bool _ => trivial
  | .int _ => trivial
  | .double x => by
    rw [AnyValue.toJson, doubleJson]
    split <;> trivial
  | .bytes b => by
    refine Json.canonicalItems_iff.2 (List.forall_mem_map.2 fun _ _ => ?_)
    trivial
  | .array items => canonicalItems_toJson items
  | .map entries => by
    refine ⟨Keyed.ascending_ofList _, Json.canonicalMembers_iff.2 fun m hm => ?_⟩
    exact Json.canonicalMembers_iff.1 (canonicalMembers_toJson entries) m (Keyed.mem_of_mem_ofList hm)

private theorem canonicalItems_toJson : ∀ items : List AnyValue, Json.CanonicalItems (itemsToJson items).value
  | [] => trivial
  | v :: rest => ⟨canonical_toJson v, canonicalItems_toJson rest⟩

private theorem canonicalMembers_toJson :
    ∀ entries : List (String × AnyValue), Json.CanonicalMembers (entriesToJson entries).value
  | [] => trivial
  | (_, v) :: rest => ⟨canonical_toJson v, canonicalMembers_toJson rest⟩

end

/-- Whether a value is neither bytes nor a double without JSON text. -/
def AnyValue.isPlain : AnyValue → Bool
  | .bytes _ => false
  | .double x => x.isFinite
  | _ => true

variable {v : AnyValue}

theorem signed_toJson (h : v.isPlain = true) {n : Int} {fits : fitsWord n = true}
    (hn : v.toJson.value = .number (.int n fits)) : n < 2 ^ 63 := by
  cases v with
  | int i =>
    obtain rfl : i.toInt = n := by simpa [AnyValue.toJson, Json.ofInt64] using hn
    exact i.toInt_lt
  | double x =>
    rw [AnyValue.toJson, doubleJson_finite h] at hn
    cases hn
  | bytes b => cases h
  | _ => cases hn

theorem body_eq_bind (h : v.isPlain = true) : body v = v.toJson >>= Body.ofJson? := by
  cases v with
  | int n =>
    show _ = Body.ofJson? (.ofInt64 n)
    simp only [Json.ofInt64, Body.ofJson?, Json.int64?_ofInt64]
    rfl
  | double x =>
    rw [AnyValue.toJson, doubleJson_finite h]
    rfl
  | bytes b => cases h
  | _ => rfl

/-- The body of a value and the dynamic value it is mapped to agree. -/
structure ConversionsAgree (v : AnyValue) : Prop where
  /-- The body is the one of the dynamic value, and is found with the same warnings. -/
  body_eq : body v = v.toJson >>= Body.ofJson?
  unset : v = .unset → (body v).value = none ∧ (Body.ofJson? v.toJson.value).value = none
  /-- Clients see the dynamic value, unless it nests too deep. -/
  plain_eq : v.toJson.value ≠ .null → v.toJson.value.depth ≤ depthLimit →
    ∃ b, (body v).value = some b ∧ b.plain = v.toJson.value

/-- What clients see of a value that has a body. -/
theorem exists_plain_body (h : v.isPlain = true) (hnull : v.toJson.value ≠ .null) :
    ∃ b, (body v).value = some b ∧ b.plain = v.toJson.value.shown := by
  rw [body_eq_bind h]
  exact Body.exists_plain_eq_shown (canonical_toJson v) hnull fun _ _ => signed_toJson h

/-- Values that agree have their inner doubles read back. -/
private theorem stored_of_conversionsAgree (h : v.isPlain = true) (hagree : ConversionsAgree v)
    (hdepth : v.toJson.value.depth ≤ depthLimit) : ∀ x ∈ v.toJson.value.innerDoubles, stored x = x := by
  by_cases hnull : v.toJson.value = .null
  · rw [hnull]
    exact List.forall_mem_nil _
  · obtain ⟨b, hb, hplain⟩ := hagree.plain_eq hnull hdepth
    obtain ⟨b', hb', hshown⟩ := exists_plain_body h hnull
    obtain rfl : b = b' := Option.some.inj (hb.symm.trans hb')
    exact (Json.shown_eq_self_iff hdepth).1 (hshown.symm.trans hplain)

/-- The two ways to a body agree exactly if every double that is kept as text, and not too deep, is read back. -/
theorem conversionsAgree_iff (h : v.isPlain = true) :
    ConversionsAgree v ↔
      (v.toJson.value.depth ≤ depthLimit → ∀ x ∈ v.toJson.value.innerDoubles, stored x = x) := by
  constructor
  · exact stored_of_conversionsAgree h
  · intro hstored
    refine ⟨body_eq_bind h, ?_, ?_⟩
    · rintro rfl
      exact ⟨rfl, rfl⟩
    · intro hnull hdepth
      obtain ⟨b, hb, hshown⟩ := exists_plain_body h hnull
      exact ⟨b, hb, hshown.trans ((Json.shown_eq_self_iff hdepth).2 (hstored hdepth))⟩

/-- A map that lists a key twice, with an infinite double, bytes and one half in it. -/
def nestedValue : AnyValue :=
  .map [("k", .unset), ("l", .array [.double (1 / 0), .bytes [0, 255], .double 0.5]), ("k", .int (-1))]

theorem conversionsAgree_nested : nestedValue.isPlain = true ∧ ConversionsAgree nestedValue := by
  refine ⟨rfl, (conversionsAgree_iff rfl).2 fun _ => ?_⟩
  have hdoubles : nestedValue.toJson.value.innerDoubles = [0.5] := by decide +kernel
  rw [hdoubles, List.forall_mem_singleton]
  decide +kernel

/-- A list that holds one double, which is read back as its neighbour. -/
def unsteadyList : AnyValue := .array [.double 4187098643069247488]

theorem not_forall_conversionsAgree : ¬∀ v : AnyValue, v.isPlain = true → ConversionsAgree v := by
  intro h
  have hstored := stored_of_conversionsAgree (v := unsteadyList) rfl (h _ rfl) (by decide +kernel)
  have hdoubles : unsteadyList.toJson.value.innerDoubles = [4187098643069247488] := by decide +kernel
  rw [hdoubles, List.forall_mem_singleton] at hstored
  exact absurd hstored (by decide +kernel)

end Otlp
end Telemetry
