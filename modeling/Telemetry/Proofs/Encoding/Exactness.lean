import Telemetry.Proofs.Decimal.Value
import Telemetry.Proofs.Encoding.Typing

/-! What typing does to the numbers of a value. A value that is typed without a warning stands for the same
numbers as before, but for one shape: in a list that starts with a double the integers are rounded, and an integer
that no double stands for is changed without a warning. -/
namespace Telemetry

namespace Json

/-- The number itself. -/
def Number.value : Number → ℚ
  | .int n _ => n
  | .float x _ => Decimal.value x

/-- Whether two values are equal if numbers are compared by what they stand for. -/
inductive SameValue : Json → Json → Prop
  | null : SameValue .null .null
  | bool (b : Bool) : SameValue (.bool b) (.bool b)
  | number {m n : Number} (h : m.value = n.value) : SameValue (.number m) (.number n)
  | string (s : String) : SameValue (.string s) (.string s)
  | array {xs ys : List Json} (h : List.Forall₂ SameValue xs ys) : SameValue (.array xs) (.array ys)
  | object {xs ys : List (String × Json)} (hkeys : xs.map Prod.fst = ys.map Prod.fst)
      (h : List.Forall₂ SameValue (xs.map Prod.snd) (ys.map Prod.snd)) : SameValue (.object xs) (.object ys)

/-- Whether a value is a list of numbers, the first of them a double and another one not equal to any double. -/
def IsRounded (v : Json) : Prop :=
  ∃ x finite numbers, v = .array ((.float x finite :: numbers).map .number) ∧
    ∃ n ∈ numbers, ¬ Decimal.IsDouble n.value

mutual

theorem SameValue.refl : (v : Json) → SameValue v v
  | .null => .null
  | .bool b => .bool b
  | .number _ => .number rfl
  | .string s => .string s
  | .array items => .array (SameValue.refl_items items)
  | .object members => .object rfl (SameValue.refl_members members)

theorem SameValue.refl_items : (items : List Json) → List.Forall₂ SameValue items items
  | [] => .nil
  | v :: rest => .cons (SameValue.refl v) (SameValue.refl_items rest)

theorem SameValue.refl_members :
    (members : List (String × Json)) → List.Forall₂ SameValue (members.map Prod.snd) (members.map Prod.snd)
  | [] => .nil
  | (_, v) :: rest => .cons (SameValue.refl v) (SameValue.refl_members rest)

end

theorem sameValue_number_iff {m n : Number} : SameValue (.number m) (.number n) ↔ m.value = n.value := by
  constructor
  · intro h
    cases h with
    | number h => exact h
  · exact .number

theorem sameValue_array_iff {xs ys : List Json} :
    SameValue (.array xs) (.array ys) ↔ List.Forall₂ SameValue xs ys := by
  constructor
  · intro h
    cases h with
    | array h => exact h
  · exact .array

/-- A number is rounded to a double that stands for it, if there is one. -/
theorem Number.value_toFloat_iff (n : Number) : Decimal.value n.toFloat = n.value ↔ Decimal.IsDouble n.value := by
  cases n with
  | float x finite => exact iff_of_true rfl ⟨x, finite, rfl⟩
  | int n fits =>
    refine Decimal.value_ofInt_eq_iff ?_
    simp only [fitsWord, Bool.and_eq_true, decide_eq_true_eq] at fits
    omega

theorem sameValue_toFloat_iff (n : Number) :
    SameValue (ofFloat n.toFloat) (.number n) ↔ Decimal.IsDouble n.value := by
  rw [ofFloat_finite n.isFinite_toFloat, sameValue_number_iff]
  exact n.value_toFloat_iff

theorem eq_ofInt64_of_int64? {n : Number} {i : Int64} (h : n.int64? = some i) : ofInt64 i = .number n := by
  cases n with
  | float x finite => cases h
  | int n fits =>
    obtain ⟨hrange, hi⟩ := Option.ite_none_right_eq_some.1 h
    obtain rfl := Option.some.inj hi
    simp only [ofInt64, Int64.toInt_ofInt_of_le hrange.1 hrange.2]

/-- An integer fits one of the two words. -/
theorem Number.eq_float_of_no_word {n : Number} (hsigned : n.int64? = none) (hunsigned : n.uint64? = none) :
    ∃ x finite, n = .float x finite := by
  cases n with
  | float x finite => exact ⟨x, finite, rfl⟩
  | int n fits =>
    simp only [fitsWord, Bool.and_eq_true, decide_eq_true_eq] at fits
    simp only [int64?, uint64?, ite_eq_right_iff, reduceCtorEq, imp_false] at hsigned hunsigned
    omega

end Json

namespace AttributeEncoding

open Json

section Lists

theorem string?_eq_some {v : Json} {s : String} (h : string? v = some s) : v = .string s := by
  cases v with
  | string t => exact congrArg Json.string (Option.some.inj h)
  | _ => cases h

theorem bool?_eq_some {v : Json} {b : Bool} (h : bool? v = some b) : v = .bool b := by
  cases v with
  | bool c => exact congrArg Json.bool (Option.some.inj h)
  | _ => cases h

theorem int64?_eq_some {v : Json} {i : Int64} (h : int64? v = some i) : v = ofInt64 i := by
  cases v with
  | number n => exact (eq_ofInt64_of_int64? h).symm
  | _ => cases h

theorem float?_eq_some {v : Json} {x : Float} (h : float? v = some x) : ∃ n, v = .number n ∧ x = n.toFloat := by
  cases v with
  | number n => exact ⟨n, rfl, (Option.some.inj h).symm⟩
  | _ => cases h

variable {items : List Json}

private theorem map_eq_of_mapM {α : Type} {f : Json → Option α} {g : α → Json}
    (h : ∀ v y, f v = some y → v = g y) {ys : List α} (hitems : items.mapM f = some ys) : ys.map g = items := by
  have hforall : List.Forall₂ (fun v w => v = w) items (ys.map g) := by
    rw [List.forall₂_map_right_iff]
    exact (forall₂_of_mapM hitems).imp h
  exact (List.forall₂_eq_eq_eq ▸ hforall : items = ys.map g).symm

/-- A list of one type keeps its items, unless it is one of doubles. -/
theorem plain_of_typedList? {type : ListType} {value : AttributeValue} (hfloat : type ≠ .float)
    (h : typedList? type items = some value) : value.plain = .array items := by
  cases type with
  | string =>
    obtain ⟨_, hys, rfl⟩ := Option.map_eq_some_iff.1 h
    exact congrArg Json.array (map_eq_of_mapM (fun _ _ => string?_eq_some) hys)
  | int =>
    obtain ⟨_, hys, rfl⟩ := Option.map_eq_some_iff.1 h
    exact congrArg Json.array (map_eq_of_mapM (fun _ _ => int64?_eq_some) hys)
  | bool =>
    obtain ⟨_, hys, rfl⟩ := Option.map_eq_some_iff.1 h
    exact congrArg Json.array (map_eq_of_mapM (fun _ _ => bool?_eq_some) hys)
  | float => exact absurd rfl hfloat

/-- A list of doubles comes from a list of numbers. -/
theorem exists_numbers_of_typedList? {value : AttributeValue} (h : typedList? .float items = some value) :
    ∃ numbers : List Number, items = numbers.map .number ∧ value = .floatList (numbers.map Number.toFloat) := by
  obtain ⟨xs, hxs, rfl⟩ := Option.map_eq_some_iff.1 h
  suffices ∃ numbers : List Number, items = numbers.map .number ∧ xs = numbers.map Number.toFloat by
    obtain ⟨numbers, hitems, rfl⟩ := this
    exact ⟨numbers, hitems, rfl⟩
  have hforall := forall₂_of_mapM hxs
  clear h hxs
  induction hforall with
  | nil => exact ⟨[], rfl, rfl⟩
  | cons hv _ ih =>
    obtain ⟨n, rfl, rfl⟩ := float?_eq_some hv
    obtain ⟨numbers, rfl, rfl⟩ := ih
    exact ⟨n :: numbers, rfl, rfl⟩

/-- Numbers can all be read as doubles. -/
theorem typedList?_numbers (numbers : List Number) :
    typedList? .float (numbers.map .number) = some (.floatList (numbers.map Number.toFloat)) := by
  rw [typedList?, List.mapM_map]
  exact congrArg _ List.mapM_pure

/-- A list of doubles keeps its numbers if each of them is one that a double stands for. -/
theorem sameValue_floatList_iff (numbers : List Number) :
    SameValue (AttributeValue.floatList (numbers.map Number.toFloat)).plain (.array (numbers.map .number)) ↔
      ∀ n ∈ numbers, Decimal.IsDouble n.value := by
  rw [AttributeValue.plain, sameValue_array_iff, List.map_map, List.forall₂_map_left_iff,
    List.forall₂_map_right_iff, List.forall₂_same]
  exact forall₂_congr fun n _ => sameValue_toFloat_iff n

end Lists

section Values

theorem of?_eq_float {v : Json} (h : ListType.of? v = some .float) : ∃ x finite, v = .number (.float x finite) := by
  unfold ListType.of? at h
  split at h <;> first | exact ⟨_, _, rfl⟩ | cases h

/-- A list that is stored without a warning is typed as its first item is. -/
theorem exists_typed_of_silent {key : String} {first : Json} {rest : List Json}
    (h : (encodeList key (first :: rest)).warnings = []) :
    ∃ type value, ListType.of? first = some type ∧ typedList? type (first :: rest) = some value ∧
      encodeList key (first :: rest) = pure value := by
  cases hfirst : ListType.of? first with
  | none =>
    simp only [encodeList, hfirst] at h
    cases h
  | some type =>
    cases htyped : typedList? type (first :: rest) with
    | none =>
      simp only [encodeList, hfirst, htyped] at h
      split at h <;> cases h
    | some value => exact ⟨type, value, rfl, htyped, encodeList_typed hfirst htyped⟩

private theorem sameValue_encodeNumber {key : String} {n : Number} (h : (encodeNumber key n).warnings = []) :
    SameValue (encodeNumber key n).value.plain (.number n) := by
  unfold encodeNumber at h ⊢
  split
  · rename_i i hi
    exact eq_ofInt64_of_int64? hi ▸ .refl _
  · rename_i hsigned
    rw [hsigned] at h
    split
    · rename_i u hu
      rw [hu] at h
      cases h
    · obtain ⟨x, finite, rfl⟩ := Number.eq_float_of_no_word hsigned ‹_›
      exact (sameValue_toFloat_iff _).2 ⟨x, finite, rfl⟩

private theorem sameValue_encodeList {key : String} {items : List Json}
    (h : (encodeList key items).warnings = []) (hrounded : ¬ IsRounded (.array items)) :
    SameValue (encodeList key items).value.plain (.array items) := by
  cases items with
  | nil => exact .refl _
  | cons first rest =>
    obtain ⟨type, value, hfirst, htyped, hencode⟩ := exists_typed_of_silent h
    rw [hencode, Reported.value_pure]
    by_cases hfloat : type = .float
    · subst hfloat
      obtain ⟨x, finite, rfl⟩ := of?_eq_float hfirst
      obtain ⟨numbers, hnumbers, rfl⟩ := exists_numbers_of_typedList? htyped
      obtain ⟨n, numbers, rfl, hn, rfl⟩ := List.map_eq_cons_iff.1 hnumbers.symm
      obtain rfl := Json.number.inj hn
      rw [hnumbers]
      refine (sameValue_floatList_iff _).2 (List.forall_mem_cons.2 ⟨⟨x, finite, rfl⟩, ?_⟩)
      by_contra hne
      push Not at hne
      exact hrounded ⟨x, finite, numbers, rfl, hne⟩
    · exact plain_of_typedList? hfloat htyped ▸ .refl _

/-- Typing keeps the numbers of all values that it takes without a warning, but for the lists whose integers it
rounds: those it changes without a warning. -/
theorem sameValue_of_silent_iff (key : String) (v : Json) :
    ((encodeValue key v).warnings = [] → SameValue (encodeValue key v).value.plain v) ↔ ¬ IsRounded v := by
  constructor
  · rintro h ⟨x, finite, numbers, rfl, n, hn, hdouble⟩
    have hencode : encodeList key _ = _ := encodeList_typed rfl (typedList?_numbers (.float x finite :: numbers))
    rw [encodeValue, hencode] at h
    exact hdouble ((sameValue_floatList_iff _).1 (h rfl) n (List.mem_cons_of_mem _ hn))
  · intro hrounded h
    cases v with
    | null | object => cases h
    | bool b => exact .bool b
    | string s => exact .string s
    | number n => exact sameValue_encodeNumber h
    | array items => exact sameValue_encodeList h hrounded

/-- A list of a double and an integer that lies between two doubles. -/
def betweenDoubles : Json :=
  .array [.number (.float 0.5 (by decide +kernel)), .number (.int 9007199254740993 (by decide))]

theorem value_ofInt_betweenDoubles : Decimal.value (Decimal.ofInt 9007199254740993) = 9007199254740992 := by
  have hbits : Decimal.nearestBits 9007199254740993 1 = 1076 * 2 ^ 52 := by decide +kernel
  rw [Decimal.ofInt, Decimal.value_ofSizeBits _ (Decimal.nearestBits_word_lt (by decide))]
  rw [show (9007199254740993 : Int).natAbs = 9007199254740993 from rfl, hbits]
  norm_num [Decimal.bitsValue, Decimal.Magnitude.ofBits, Decimal.Magnitude.value]

/-- The integer becomes the double below it, and no warning is raised. -/
theorem not_forall_sameValue : ¬∀ (key : String) (v : Json),
    (encodeValue key v).warnings = [] → SameValue (encodeValue key v).value.plain v := by
  intro h
  have hitems := sameValue_array_iff.1 (h "k" betweenDoubles rfl)
  have hitem := (List.forall₂_cons.1 (List.forall₂_cons.1 hitems).2).1
  have hvalue : Decimal.IsDouble (9007199254740993 : Int) :=
    (sameValue_toFloat_iff (.int 9007199254740993 (by decide))).1 hitem
  rw [← Decimal.value_ofInt_eq_iff (by decide), value_ofInt_betweenDoubles] at hvalue
  norm_num at hvalue

end Values

end AttributeEncoding
end Telemetry
