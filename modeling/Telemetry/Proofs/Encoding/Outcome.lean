import Telemetry.Proofs.Encoding.Exactness
import Telemetry.Proofs.Encoding.Idempotence

/-! What typing makes of a value and of an object, said without the types it tries on the way. A value that has a
type of its own keeps it, numbers behind a double become doubles, and all else becomes text. -/
namespace Telemetry.AttributeEncoding

open Json

section Values

/-- The text of a value: a string itself, and of anything else its JSON. -/
inductive IsText : Json → String → Prop
  | string (s : String) : IsText (.string s) s
  | json {v : Json} (h : v.isString = false) : IsText v v.text

/-- Whether items are numbers, the first of them a double. -/
def AreDoubles (items : List Json) : Prop :=
  ∃ x finite numbers, items = (Number.float x finite :: numbers).map .number

/-- The typed form of a value. A list is one of texts if its items neither share a type nor can be read as doubles. A
list of doubles alone falls under two rules, which agree. -/
inductive IsTypedAs : Json → AttributeValue → Prop
  | exact {value : AttributeValue} (h : value.IsTyped) : IsTypedAs value.plain value
  | doubles (x : Float) (finite : x.isFinite = true) (numbers : List Number) :
    IsTypedAs (.array ((Number.float x finite :: numbers).map .number)) (.floatList (x :: numbers.map Number.toFloat))
  | unsigned {n : Int} {fits : fitsWord n = true} (h : 2 ^ 63 ≤ n) :
    IsTypedAs (.number (.int n fits)) (.string (toString n.toNat))
  | texts {items : List Json} {texts : List String} (hexact : (array items).isExact = false)
      (hdoubles : ¬ AreDoubles items) (h : List.Forall₂ IsText items texts) :
    IsTypedAs (.array items) (.stringList texts)
  | null : IsTypedAs .null (.string "null")
  | object (members : List (String × Json)) : IsTypedAs (.object members) (.string (Json.object members).text)

theorem isText_iff {v : Json} {s : String} : IsText v s ↔ stringify v = s := by
  constructor
  · intro h
    cases h with
    | string => rfl
    | json h =>
      cases v with
      | string => cases h
      | _ => rfl
  · rintro rfl
    cases v with
    | string s => exact .string s
    | _ => exact .json rfl

theorem forall₂_isText_iff {items : List Json} {texts : List String} :
    List.Forall₂ IsText items texts ↔ items.map stringify = texts := by
  have hrel : IsText = fun v s => stringify v = s := funext₂ fun _ _ => propext isText_iff
  rw [hrel, ← List.forall₂_map_left_iff, List.forall₂_eq_eq_eq]

/-- A list that is of the type of its first item has a type of its own, or its items are read as doubles. -/
private theorem isExact_or_areDoubles {type : ListType} {first : Json} {rest : List Json} {value : AttributeValue}
    (hfirst : ListType.of? first = some type) (h : typedList? type (first :: rest) = some value) :
    (array (first :: rest)).isExact = true ∨ AreDoubles (first :: rest) := by
  by_cases hfloat : type = .float
  · subst hfloat
    obtain ⟨x, finite, rfl⟩ := of?_eq_float hfirst
    obtain ⟨numbers, hnumbers, -⟩ := exists_numbers_of_typedList? h
    obtain ⟨n, numbers, rfl, hn, rfl⟩ := List.map_eq_cons_iff.1 hnumbers.symm
    obtain rfl := Json.number.inj hn
    exact .inr ⟨x, finite, numbers, rfl⟩
  · have htyped : value.IsTyped := isTyped_of_typedList? (List.cons_ne_nil first rest) h
    exact .inl ((isExact_iff _).2 ⟨value, htyped, plain_of_typedList? hfloat h⟩)

theorem value_encodeList_texts (key : String) {items : List Json} (hexact : (array items).isExact = false)
    (hdoubles : ¬ AreDoubles items) : (encodeList key items).value = .stringList (items.map stringify) := by
  cases items with
  | nil => cases hexact
  | cons first rest =>
    cases hfirst : ListType.of? first with
    | none =>
      simp only [encodeList, hfirst]
      rfl
    | some type =>
      cases htyped : typedList? type (first :: rest) with
      | none =>
        simp only [encodeList, hfirst, htyped]
        split <;> rfl
      | some value =>
        have h := (isExact_or_areDoubles hfirst htyped).resolve_right hdoubles
        exact absurd h (by simp [hexact])

/-- Typing gives what the rules say. -/
theorem value_encodeValue {key : String} {v : Json} {value : AttributeValue} (h : IsTypedAs v value) :
    (encodeValue key v).value = value := by
  cases h with
  | exact h => rw [encodeValue_plain key h, Reported.value_pure]
  | doubles x finite numbers =>
    have hencode : encodeList key _ = _ := encodeList_typed rfl (typedList?_numbers (.float x finite :: numbers))
    exact congrArg Reported.value hencode
  | @unsigned n fits h =>
    have hsigned : (Number.int n fits).int64? = none := if_neg fun hrange => absurd hrange.2 (Int.not_lt.2 h)
    have hunsigned : (Number.int n fits).uint64? = some (UInt64.ofNat n.toNat) := if_pos (by omega)
    have hlt : n.toNat < UInt64.size := by
      simp only [fitsWord, Bool.and_eq_true, decide_eq_true_eq] at fits
      exact (Int.toNat_lt' (by decide)).2 fits.2
    simp only [encodeValue, encodeNumber, hsigned, hunsigned]
    exact congrArg (fun k : Nat => AttributeValue.string (toString k)) (UInt64.toNat_ofNat_of_lt' hlt)
  | texts hexact hdoubles h =>
    rw [← forall₂_isText_iff.1 h]
    exact value_encodeList_texts key hexact hdoubles
  | null | object => rfl

/-- Each value has a typed form. -/
theorem exists_isTypedAs (v : Json) : ∃ value, IsTypedAs v value := by
  by_cases hexact : v.isExact = true
  · obtain ⟨value, htyped, rfl⟩ := (isExact_iff v).1 hexact
    exact ⟨value, .exact htyped⟩
  cases v with
  | null => exact ⟨_, .null⟩
  | object members => exact ⟨_, .object members⟩
  | string | bool => exact absurd rfl hexact
  | number n =>
    cases n with
    | float => exact absurd rfl hexact
    | int n fits =>
      refine ⟨_, .unsigned (Int.not_lt.1 fun hn => hexact ?_)⟩
      have hsigned : (Json.number (.int n fits)).isSigned = true := by
        simp only [fitsWord, Bool.and_eq_true, decide_eq_true_eq] at fits
        simp only [isSigned, Bool.and_eq_true, decide_eq_true_eq]
        exact ⟨fits.1, hn⟩
      simp [isExact, hsigned]
  | array items =>
    by_cases hdoubles : AreDoubles items
    · obtain ⟨x, finite, numbers, rfl⟩ := hdoubles
      exact ⟨_, .doubles x finite numbers⟩
    · exact ⟨_, .texts (Bool.eq_false_iff.2 hexact) hdoubles (forall₂_isText_iff.2 rfl)⟩

/-- Typing is told by the rules alone: they give each value one typed form, whatever the key. -/
theorem value_encodeValue_eq_iff {key : String} {v : Json} {value : AttributeValue} :
    (encodeValue key v).value = value ↔ IsTypedAs v value := by
  constructor
  · rintro rfl
    obtain ⟨value, h⟩ := exists_isTypedAs v
    rwa [value_encodeValue h]
  · exact value_encodeValue

end Values

section Objects

private theorem get?_set (a : Attributes) (k : String) (value : AttributeValue) (key : String) :
    (a.set k value).get? key = if key = k then some value else a.get? key :=
  Keyed.lookup_insert k value a.entries key

private theorem get?_encodeInto {key : String} (hkey : key ≠ "") (a : Attributes) (members : List (String × Json)) :
    (encodeInto a members).value.get? key =
      ((members.reverse.lookup key).map fun v => (encodeValue key v).value).or (a.get? key) := by
  induction members generalizing a with
  | nil => rfl
  | cons m rest ih =>
    have hstep : (a.insert m.1 (encodeValue m.1 m.2).value).value.get? key =
        if key = m.1 then some (encodeValue key m.2).value else a.get? key := by
      rw [Attributes.value_insert]
      split
      · rename_i hempty
        exact (if_neg fun heq => hkey (heq.trans hempty)).symm
      · rw [get?_set]
        refine ite_congr rfl (fun heq => ?_) fun _ => rfl
        rw [heq]
    have hnext : (encodeInto a (m :: rest)).value =
        (encodeInto (a.insert m.1 (encodeValue m.1 m.2).value).value rest).value := rfl
    rw [hnext, ih, hstep, List.reverse_cons, List.lookup_append]
    grind

/-- Each key but the empty one has the typed form of the last member listed with it. -/
theorem get?_encode (members : List (String × Json)) (key : String) :
    (encode members).value.get? key =
      if key = "" then none else (members.reverse.lookup key).map fun v => (encodeValue key v).value := by
  split
  · rename_i hkey
    refine List.lookup_eq_none_iff.2 fun e he => bne_iff_ne.2 ?_
    exact hkey ▸ ((isTyped_encode members).key_ne e he).symm
  · rename_i hkey
    rw [encode, get?_encodeInto hkey]
    exact Option.or_none

end Objects
end Telemetry.AttributeEncoding
