import Telemetry.AttributeEncoding
import Telemetry.Proofs.Decimal.Bits
import Telemetry.Proofs.Decimal.Range
import Telemetry.Proofs.Storage.Attribute

/-! What typing makes of dynamic values. It keeps a value exactly if the value has a type of its own, and what it
has made it keeps: typing the plain values of a typed map gives the map. -/
namespace Telemetry

namespace Json

def isString : Json → Bool
  | .string _ => true
  | _ => false

def isBool : Json → Bool
  | .bool _ => true
  | _ => false

/-- Whether a value is an integer of a signed word. -/
def isSigned : Json → Bool
  | .number (.int n _) => -2 ^ 63 ≤ n && n < 2 ^ 63
  | _ => false

def isDouble : Json → Bool
  | .number (.float ..) => true
  | _ => false

/-- Whether a value has a type of its own: a scalar of one of the four types, or a list whose items are all of
one of them, as those of the empty list are. -/
def isExact : Json → Bool
  | .array items => items.all isString || items.all isBool || items.all isSigned || items.all isDouble
  | v => v.isString || v.isBool || v.isSigned || v.isDouble

/-- A number is a finite double, and remains one when an integer is rounded. -/
theorem Number.isFinite_toFloat (n : Number) : n.toFloat.isFinite = true := by
  cases n with
  | float x finite => exact finite
  | int n fits =>
    simp only [fitsWord, Bool.and_eq_true, decide_eq_true_eq] at fits
    exact Decimal.isFinite_ofSizeBits _ (Decimal.nearestBits_word_lt (by omega))

theorem int64?_ofInt64 (n : Int64) (fits : fitsWord n.toInt = true) :
    (Number.int n.toInt fits).int64? = some n := by
  have hlow := n.le_toInt
  have hhigh := n.toInt_lt
  rw [Number.int64?, if_pos ⟨hlow, hhigh⟩, Int64.ofInt_toInt]

theorem ofFloat_finite {x : Float} (h : x.isFinite = true) : ofFloat x = .number (.float x h) := dif_pos h

theorem isFinite_float? {v : Json} {x : Float} (h : AttributeEncoding.float? v = some x) :
    x.isFinite = true := by
  cases v with
  | number n =>
    obtain rfl : n.toFloat = x := Option.some.inj h
    exact n.isFinite_toFloat
  | _ => cases h

end Json

section Lists

variable {α β : Type} {f : α → Option β}

/-- All items are mapped, and each to the item in its place. -/
theorem forall₂_of_mapM {xs : List α} {ys : List β} (h : xs.mapM f = some ys) :
    List.Forall₂ (fun x y => f x = some y) xs ys := by
  induction xs generalizing ys with
  | nil =>
    obtain rfl : [] = ys := Option.some.inj h
    exact .nil
  | cons x xs ih =>
    simp only [List.mapM_cons, Option.bind_eq_bind, Option.bind_eq_some_iff, Option.pure_def] at h
    obtain ⟨y, hy, ys, hys, h⟩ := h
    obtain rfl := Option.some.inj h
    exact .cons hy (ih hys)

theorem exists_of_forall₂ {R : α → β → Prop} {xs : List α} {ys : List β} (h : List.Forall₂ R xs ys) {y : β}
    (hy : y ∈ ys) : ∃ x ∈ xs, R x y := by
  induction h with
  | nil => exact absurd hy List.not_mem_nil
  | cons hxy _ ih =>
    rcases List.mem_cons.1 hy with rfl | hy
    · exact ⟨_, List.mem_cons_self, hxy⟩
    · obtain ⟨x, hx, hxy⟩ := ih hy
      exact ⟨x, List.mem_cons_of_mem _ hx, hxy⟩

theorem mapM_map_eq_some {g : β → α} {ys : List β} (h : ∀ y ∈ ys, f (g y) = some y) :
    (ys.map g).mapM f = some ys := by
  induction ys with
  | nil => rfl
  | cons y ys ih =>
    obtain ⟨hy, hys⟩ := List.forall_mem_cons.1 h
    simp [List.mapM_cons, hy, ih hys]

end Lists

namespace AttributeValue

/-- The values that typing makes: doubles are finite, and an empty list is one of strings. -/
def IsTyped : AttributeValue → Prop
  | .float x => x.isFinite = true
  | .intList items => items ≠ []
  | .floatList items => items ≠ [] ∧ ∀ x ∈ items, x.isFinite = true
  | .boolList items => items ≠ []
  | _ => True

theorem IsTyped.isFinite {v : AttributeValue} (h : v.IsTyped) : ∀ x ∈ v.doubles, x.isFinite = true := by
  cases v with
  | float x =>
    intro y hy
    rw [List.mem_singleton.1 hy]
    exact h
  | floatList items => exact h.2
  | _ => exact List.forall_mem_nil _

end AttributeValue

namespace AttributeEncoding

open Json

section Values

theorem isTyped_of_typedList? {type : ListType} {items : List Json} {value : AttributeValue}
    (hitems : items ≠ []) (h : typedList? type items = some value) : value.IsTyped := by
  have hne : ∀ {β : Type} {f : Json → Option β} {ys : List β}, items.mapM f = some ys → ys ≠ [] := by
    rintro β f ys hys rfl
    exact hitems (List.forall₂_nil_right_iff.1 (forall₂_of_mapM hys))
  cases type with
  | string =>
    obtain ⟨_, -, rfl⟩ := Option.map_eq_some_iff.1 h
    trivial
  | int =>
    obtain ⟨_, hys, rfl⟩ := Option.map_eq_some_iff.1 h
    exact hne hys
  | bool =>
    obtain ⟨_, hys, rfl⟩ := Option.map_eq_some_iff.1 h
    exact hne hys
  | float =>
    obtain ⟨ys, hys, rfl⟩ := Option.map_eq_some_iff.1 h
    refine ⟨hne hys, fun x hx => ?_⟩
    obtain ⟨v, -, hv⟩ := exists_of_forall₂ (forall₂_of_mapM hys) hx
    exact isFinite_float? hv

/-- Every value is given a type, or made a text or a list of texts. -/
theorem isTyped_encodeValue (key : String) (v : Json) : (encodeValue key v).value.IsTyped := by
  cases v with
  | null | bool | string | object => trivial
  | number n =>
    simp only [encodeValue, encodeNumber]
    split
    · trivial
    · split
      · trivial
      · exact n.isFinite_toFloat
  | array items =>
    cases items with
    | nil => trivial
    | cons first rest =>
      simp only [encodeValue, encodeList]
      split
      · trivial
      · split
        · exact isTyped_of_typedList? (List.cons_ne_nil _ _) ‹_›
        · split <;> trivial

/-- A list is typed if all items are of the type of the first. -/
theorem encodeList_typed {key : String} {type : ListType} {items : List Json} {value : AttributeValue}
    (hfirst : items.head?.bind ListType.of? = some type) (h : typedList? type items = some value) :
    encodeList key items = pure value := by
  cases items with
  | nil => cases hfirst
  | cons first rest =>
    rw [List.head?_cons, Option.bind_some] at hfirst
    simp only [encodeList, hfirst, h]

/-- The plain form of a typed value is given its type again, without a warning. -/
theorem encodeValue_plain (key : String) {value : AttributeValue} (h : value.IsTyped) :
    encodeValue key value.plain = pure value := by
  cases value with
  | string s => rfl
  | bool b => rfl
  | int n => simp only [AttributeValue.plain, ofInt64, encodeValue, encodeNumber, int64?_ofInt64]
  | float x =>
    rw [AttributeValue.plain, ofFloat_finite h]
    rfl
  | stringList items =>
    cases items with
    | nil => rfl
    | cons s rest =>
      have htyped : typedList? .string ((s :: rest).map .string) = some (.stringList (s :: rest)) := by
        have hread : ∀ t ∈ s :: rest, string? (.string t) = some t := fun _ _ => rfl
        rw [typedList?, mapM_map_eq_some hread]
        rfl
      exact encodeList_typed rfl htyped
  | intList items =>
    have htyped : typedList? .int (items.map ofInt64) = some (.intList items) := by
      have hread : ∀ n ∈ items, int64? (ofInt64 n) = some n := fun n _ => int64?_ofInt64 n (fitsWord_int64 n)
      rw [typedList?, mapM_map_eq_some hread]
      rfl
    obtain ⟨n, rest, rfl⟩ := List.exists_cons_of_ne_nil h
    exact encodeList_typed rfl htyped
  | boolList items =>
    have htyped : typedList? .bool (items.map .bool) = some (.boolList items) := by
      have hread : ∀ b ∈ items, bool? (.bool b) = some b := fun _ _ => rfl
      rw [typedList?, mapM_map_eq_some hread]
      rfl
    obtain ⟨b, rest, rfl⟩ := List.exists_cons_of_ne_nil h
    exact encodeList_typed rfl htyped
  | floatList items =>
    obtain ⟨hne, hfinite⟩ := h
    have htyped : typedList? .float (items.map ofFloat) = some (.floatList items) := by
      have hread : ∀ x ∈ items, float? (ofFloat x) = some x := by
        intro x hx
        rw [ofFloat_finite (hfinite x hx)]
        rfl
      rw [typedList?, mapM_map_eq_some hread]
      rfl
    obtain ⟨x, rest, rfl⟩ := List.exists_cons_of_ne_nil hne
    refine encodeList_typed ?_ htyped
    rw [List.map_cons, List.head?_cons, ofFloat_finite (hfinite x List.mem_cons_self)]
    rfl

end Values

section Exact

/-- The items of a list that all pass a test are images if all that passes is. -/
private theorem exists_map_of_all {α : Type} {p : Json → Bool} {f : α → Json}
    (h : ∀ v, p v = true → ∃ x, f x = v) {items : List Json} (hitems : items.all p = true) :
    ∃ xs : List α, xs.map f = items := by
  have hmem : items ∈ Set.range (List.map f) := by
    rw [Set.range_list_map]
    exact fun v hv => h v (List.all_eq_true.1 hitems v hv)
  exact hmem

private theorem exists_string (v : Json) (h : v.isString = true) : ∃ s, .string s = v := by
  cases v with
  | string s => exact ⟨s, rfl⟩
  | _ => cases h

private theorem exists_bool (v : Json) (h : v.isBool = true) : ∃ b, .bool b = v := by
  cases v with
  | bool b => exact ⟨b, rfl⟩
  | _ => cases h

private theorem exists_int64 (v : Json) (h : v.isSigned = true) : ∃ n, ofInt64 n = v := by
  unfold isSigned at h
  split at h
  · rename_i n fits
    simp only [Bool.and_eq_true, decide_eq_true_eq] at h
    refine ⟨.ofInt n, ?_⟩
    simp only [ofInt64, Int64.toInt_ofInt_of_le h.1 h.2]
  · cases h

private theorem exists_float (v : Json) (h : v.isDouble = true) :
    ∃ x : { x : Float // x.isFinite = true }, ofFloat x = v := by
  unfold isDouble at h
  split at h
  · rename_i x hx
    exact ⟨⟨x, hx⟩, ofFloat_finite hx⟩
  · cases h

private theorem isSigned_ofInt64 (n : Int64) : (ofInt64 n).isSigned = true := by
  have hlow := n.le_toInt
  have hhigh := n.toInt_lt
  simp only [ofInt64, isSigned, Bool.and_eq_true, decide_eq_true_eq]
  exact ⟨hlow, hhigh⟩

private theorem isDouble_ofFloat {x : Float} (h : x.isFinite = true) : (ofFloat x).isDouble = true := by
  rw [ofFloat_finite h]
  rfl

private theorem isExact_map {α : Type} {f : α → Json} {p : Json → Bool} {xs : List α}
    (hp : p = isString ∨ p = isBool ∨ p = isSigned ∨ p = isDouble) (h : ∀ x ∈ xs, p (f x) = true) :
    (array (xs.map f)).isExact = true := by
  have hall : (xs.map f).all p = true := List.all_eq_true.2 (List.forall_mem_map.2 h)
  simp only [isExact, Bool.or_eq_true]
  rcases hp with rfl | rfl | rfl | rfl <;> tauto

/-- A list of items of one type is the plain form of a typed one. The empty list is one of strings. -/
private theorem exists_typed_list {items : List Json} (h : (array items).isExact = true) :
    ∃ value : AttributeValue, value.IsTyped ∧ value.plain = array items := by
  by_cases hnil : items = []
  · exact ⟨.stringList [], trivial, by rw [hnil]; rfl⟩
  have hne : ∀ {α : Type} {f : α → Json} {xs : List α}, xs.map f = items → xs ≠ [] := by
    rintro α f xs hxs rfl
    exact hnil hxs.symm
  simp only [isExact, Bool.or_eq_true] at h
  obtain ((h | h) | h) | h := h
  · obtain ⟨xs, hxs⟩ := exists_map_of_all exists_string h
    exact ⟨.stringList xs, trivial, congrArg array hxs⟩
  · obtain ⟨xs, hxs⟩ := exists_map_of_all exists_bool h
    exact ⟨.boolList xs, hne hxs, congrArg array hxs⟩
  · obtain ⟨xs, hxs⟩ := exists_map_of_all exists_int64 h
    exact ⟨.intList xs, hne hxs, congrArg array hxs⟩
  · obtain ⟨xs, hxs⟩ := exists_map_of_all exists_float h
    refine ⟨.floatList (xs.map (↑)), ⟨?_, ?_⟩, ?_⟩
    · exact fun h => hne hxs (List.map_eq_nil_iff.1 h)
    · simp only [List.mem_map]
      rintro x ⟨y, -, rfl⟩
      exact y.2
    · rw [AttributeValue.plain, List.map_map]
      exact congrArg array hxs

/-- The plain forms of typed values are the values that have a type of their own. -/
theorem isExact_iff (v : Json) :
    v.isExact = true ↔ ∃ value : AttributeValue, value.IsTyped ∧ value.plain = v := by
  constructor
  · intro h
    cases v with
    | null | object => cases h
    | string s => exact ⟨.string s, trivial, rfl⟩
    | bool b => exact ⟨.bool b, trivial, rfl⟩
    | array items => exact exists_typed_list h
    | number n =>
      cases n with
      | float x hx => exact ⟨.float x, hx, ofFloat_finite hx⟩
      | int n fits =>
        have hsigned : (Json.number (.int n fits)).isSigned = true := by
          simpa [isExact, isString, isBool, isDouble] using h
        obtain ⟨i, hi⟩ := exists_int64 _ hsigned
        exact ⟨.int i, trivial, hi⟩
  · rintro ⟨value, htyped, rfl⟩
    cases value with
    | string | bool => rfl
    | int n =>
      show (false || false || (ofInt64 n).isSigned || false) = true
      rw [isSigned_ofInt64]
      rfl
    | float x =>
      rw [AttributeValue.plain, ofFloat_finite htyped]
      rfl
    | stringList items => exact isExact_map (.inl rfl) fun _ _ => rfl
    | boolList items => exact isExact_map (.inr (.inl rfl)) fun _ _ => rfl
    | intList items => exact isExact_map (.inr (.inr (.inl rfl))) fun n _ => isSigned_ofInt64 n
    | floatList items => exact isExact_map (.inr (.inr (.inr rfl))) fun x hx => isDouble_ofFloat (htyped.2 x hx)

end Exact

end AttributeEncoding
end Telemetry
