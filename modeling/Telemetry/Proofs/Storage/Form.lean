import Telemetry.Proofs.Json.Distinct
import Telemetry.Proofs.Storage.Row

/-! Stored forms of tagged values. A stored form keeps all of a value but the kind of the doubles that JSON has no text
for: what is read from it has the type, the lengths and the texts of what was written, and two values share a stored
text only where they differ in such doubles. -/
namespace Telemetry

open Json

/-- Functions that tell apart the same items tell apart the same lists of them. -/
theorem map_eq_map_iff_of_iff {α β γ : Type} {f : α → β} {g : α → γ} (h : ∀ x y, f x = f y ↔ g x = g y)
    (xs ys : List α) : xs.map f = ys.map f ↔ xs.map g = ys.map g := by
  induction xs generalizing ys with
  | nil => cases ys <;> simp
  | cons x xs ih =>
    cases ys with
    | nil => simp
    | cons y ys => rw [List.map_cons, List.map_cons, List.map_cons, List.map_cons, List.cons.injEq,
        List.cons.injEq, h, ih]

section Values

/-- Only doubles that are not finite share a value. -/
theorem ofFloat_eq_iff (x y : Float) : ofFloat x = ofFloat y ↔ mask x = mask y := by
  have hnan : Decimal.nan.isFinite = false := by decide +kernel
  have hne : ∀ {z : Float}, z.isFinite = true → z ≠ Decimal.nan := by
    rintro z hz rfl
    rw [hnan] at hz
    exact Bool.false_ne_true hz
  unfold ofFloat mask
  by_cases hx : x.isFinite = true
  · by_cases hy : y.isFinite = true
    · simp only [hx, hy, dif_pos, if_true, Json.number.injEq, Number.float.injEq]
    · simp only [hx, hy, dif_pos, dif_neg, if_true, if_false, reduceCtorEq, not_false_eq_true, hne hx,
        Bool.false_eq_true]
  · by_cases hy : y.isFinite = true
    · simp only [hx, hy, dif_pos, dif_neg, if_true, if_false, reduceCtorEq, not_false_eq_true,
        Bool.false_eq_true, (hne hy).symm]
    · simp only [hx, hy, dif_neg, if_false, not_false_eq_true, Bool.false_eq_true]

theorem ofInt64_injective : Function.Injective ofInt64 := by
  intro n m h
  have hnumber := Json.number.inj h
  exact Int64.toInt_inj.1 (Number.int.inj hnumber)

end Values

/-- A stored form that keeps a value but for the doubles that are not finite. -/
structure IsFaithful {α : Type} (toJson : α → Json) (decode : Decoder α) (doubles : α → List Float)
    (mapDoubles : (Float → Float) → α → α) : Prop where
  /-- The stored text is read to its end, and what is read differs in doubles at most. -/
  decodeText_eq : ∀ v, decodeText decode (toJson v).text = .ok (mapDoubles stored v)
  /-- What is read differs at most in doubles that are not finite, which are NaN then, if finite ones are read back. -/
  decodeText_eq_mask_iff : ∀ v, decodeText decode (toJson v).text = .ok (mapDoubles mask v) ↔
    ∀ x ∈ doubles v, x.isFinite = true → stored x = x
  /-- Values share a text if they differ in doubles that are not finite, and only then. -/
  text_eq_iff : ∀ v w, (toJson v).text = (toJson w).text ↔ mapDoubles mask v = mapDoubles mask w
  /-- Different values of finite doubles have different texts. -/
  text_ne : ∀ v w, (∀ x ∈ doubles v, x.isFinite = true) → (∀ x ∈ doubles w, x.isFinite = true) → v ≠ w →
    (toJson v).text ≠ (toJson w).text

section Faithful

variable {α : Type} {toJson : α → Json} {decode : Decoder α} {doubles : α → List Float}
variable {mapDoubles : (Float → Float) → α → α}

/-- A form is faithful if it is read back, and if doubles are all that is not told apart. -/
theorem IsFaithful.of_decodes (hdecodes : ∀ v, Decodes decode (toJson v) (mapDoubles stored v))
    (hdepth : ∀ v, (toJson v).depth ≤ depthLimit)
    (hmap : ∀ f g v, mapDoubles f v = mapDoubles g v ↔ ∀ x ∈ doubles v, f x = g x)
    (hid : ∀ v, mapDoubles id v = v)
    (heq : ∀ v w, toJson v = toJson w ↔ mapDoubles mask v = mapDoubles mask w) :
    IsFaithful toJson decode doubles mapDoubles := by
  have hread : ∀ v, decodeText decode (toJson v).text = .ok (mapDoubles stored v) :=
    fun v => (hdecodes v).decodeText (hdepth v)
  have htext : ∀ v w, (toJson v).text = (toJson w).text ↔ mapDoubles mask v = mapDoubles mask w :=
    fun v w => (Iff.intro text_injective (congrArg text)).trans (heq v w)
  have hmask : ∀ v, (∀ x ∈ doubles v, x.isFinite = true) → mapDoubles mask v = v := by
    intro v hv
    calc mapDoubles mask v = mapDoubles id v := (hmap mask id v).2 fun x hx => mask_of_isFinite (hv x hx)
      _ = v := hid v
  refine ⟨hread, fun v => ?_, htext, fun v w hv hw hne h => ?_⟩
  · rw [hread v, Except.ok.injEq, hmap]
    simp only [stored_eq_mask_iff]
  · rw [htext, hmask v hv, hmask w hw] at h
    exact hne h

end Faithful

/-- The tag of a stored value tells the types apart, and the plain value those of one type. -/
theorem AttributeValue.toJson_eq_iff (v w : AttributeValue) :
    v.toJson = w.toJson ↔ v.mapDoubles mask = w.mapDoubles mask := by
  have hstrings : Function.Injective (List.map Json.string) :=
    List.map_injective_iff.2 fun _ _ => Json.string.inj
  have hints : Function.Injective (List.map ofInt64) := List.map_injective_iff.2 ofInt64_injective
  have hbools : Function.Injective (List.map Json.bool) := List.map_injective_iff.2 fun _ _ => Json.bool.inj
  cases v <;> cases w <;>
    simp [toJson, tag, plain, mapDoubles, ofFloat_eq_iff, ofInt64_injective.eq_iff,
      map_eq_map_iff_of_iff ofFloat_eq_iff, hstrings.eq_iff, hints.eq_iff, hbools.eq_iff]

theorem Attributes.toJson_eq_iff (a b : Attributes) :
    a.toJson = b.toJson ↔ a.mapDoubles mask = b.mapDoubles mask := by
  have hentries : a.mapDoubles mask = b.mapDoubles mask ↔
      (a.mapDoubles mask).entries = (b.mapDoubles mask).entries := ⟨congrArg entries, ext_entries⟩
  rw [hentries, toJson, toJson, Json.object.injEq]
  refine map_eq_map_iff_of_iff (fun e d => ?_) a.entries b.entries
  rw [Prod.mk.injEq, Prod.mk.injEq, AttributeValue.toJson_eq_iff]

theorem Body.toJson_eq_iff (b c : Body) : b.toJson = c.toJson ↔ b.mapDoubles mask = c.mapDoubles mask := by
  have hbytes : Function.Injective Text.Base64.encode := by
    intro xs ys h
    have hdecode := Text.Base64.decode_encode xs
    rw [h, Text.Base64.decode_encode] at hdecode
    exact (Option.some.inj hdecode).symm
  cases b <;> cases c <;>
    simp [toJson, mapDoubles, ofFloat_eq_iff, ofInt64_injective.eq_iff, hbytes.eq_iff]

/-- Attribute values, attribute maps under any keys and log bodies are stored faithfully. -/
theorem storedForms_isFaithful :
    IsFaithful AttributeValue.toJson AttributeValue.decode AttributeValue.doubles AttributeValue.mapDoubles ∧
      IsFaithful Attributes.toJson Attributes.decode Attributes.doubles Attributes.mapDoubles ∧
        IsFaithful Body.toJson Body.decode Body.doubles Body.mapDoubles := by
  refine ⟨?_, ?_, ?_⟩
  · refine .of_decodes (fun v => ?_) (fun v => v.depth_toJson_le.trans (by decide))
      (fun _ _ => AttributeValue.mapDoubles_eq_iff) AttributeValue.mapDoubles_id AttributeValue.toJson_eq_iff
    rw [v.mapDoubles_stored]
    exact v.decodes
  · refine .of_decodes (fun a => ?_) (fun a => a.depth_toJson_le.trans (by decide))
      (fun _ _ => Attributes.mapDoubles_eq_iff) Attributes.mapDoubles_id Attributes.toJson_eq_iff
    rw [a.mapDoubles_stored]
    exact a.decodes
  · refine .of_decodes (fun b => ?_) (fun b => b.depth_toJson_le.trans (by decide))
      (fun _ _ => Body.mapDoubles_eq_iff) Body.mapDoubles_id Body.toJson_eq_iff
    rw [b.mapDoubles_stored]
    exact b.decodes

end Telemetry
