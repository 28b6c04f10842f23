import Telemetry.Proofs.Json.Part
import Telemetry.Proofs.Json.Typed
import Telemetry.Proofs.Text.Numeral

/-! Which values words are read from. A word is read from the integers of its range, each as a JSON integer or as a
text that spells it, and from nothing else. -/
namespace Telemetry.Json

/-- The integer that a value states. A JSON integer states itself, and a text states the number it spells. No other
value states one, and of the signs a minus is for signed words only. -/
inductive States (signed : Bool) : Draft → Int → Prop
  | number (n : Int) (fits : fitsWord n = true) : States signed (.number (.int n fits)) n
  | text {s : String} {n : Int} (h : Text.Spells signed s n) : States signed (.string s) n

/-- The words of a type, from the lowest to the highest, are read from exactly the values that state them and read back
from their own text. A list of them is read from exactly the lists whose items are read one by one. -/
structure ReadsWords {α : Type} (signed : Bool) (low high : Int) (value : α → Int) (toText : α → Json)
    (decode : Decoder α) : Prop where
  read : ∀ v n, (∃ x, decode v = .ok x ∧ value x = n) ↔ States signed v n ∧ low ≤ n ∧ n ≤ high
  readBack : ∀ x delivery, decode ((toText x).draft delivery) = .ok x
  readList : ∀ v xs, decodeWords decode v = .ok xs ↔
    ∃ items, v = .array items ∧ List.Forall₂ (fun w x => decode w = .ok x) items xs

section Words

variable {α : Type} {signed : Bool} {low high : Int} {read : List Char → Except Text.IntegerFault Int} {v : Draft}

theorem decodeWord_eq_ok_iff
    (hread : ∀ cs n, read cs = .ok n ↔ Text.IsNumeral signed cs n ∧ low ≤ n ∧ n ≤ high) {n : Int} :
    decodeWord low high read v = .ok n ↔ States signed v n ∧ low ≤ n ∧ n ≤ high := by
  constructor
  · intro h
    unfold decodeWord at h
    split at h
    · rename_i m fits
      split at h
      · rename_i hrange
        obtain rfl := Except.ok.inj h
        exact ⟨.number m fits, hrange⟩
      · cases h
    · rename_i s
      split at h
      · rename_i m hm
        obtain rfl := Except.ok.inj h
        obtain ⟨hnumeral, hrange⟩ := (hread _ _).1 hm
        exact ⟨.text (Text.spells_iff.2 hnumeral), hrange⟩
      · cases h
    · cases h
  · rintro ⟨hstates, hrange⟩
    cases hstates with
    | number n fits => exact if_pos hrange
    | text h =>
      have hnumeral := (hread _ _).2 ⟨Text.spells_iff.1 h, hrange⟩
      simp only [decodeWord, hnumeral]

/-- A word is read where its integer is, and is the word of that integer. -/
theorem exists_word_iff (hread : ∀ cs n, read cs = .ok n ↔ Text.IsNumeral signed cs n ∧ low ≤ n ∧ n ≤ high)
    {word : Int → α} {value : α → Int} (hvalue : ∀ n, low ≤ n → n ≤ high → value (word n) = n) (n : Int) :
    (∃ x, word <$> decodeWord low high read v = .ok x ∧ value x = n) ↔ States signed v n ∧ low ≤ n ∧ n ≤ high := by
  rw [← decodeWord_eq_ok_iff hread]
  constructor
  · rintro ⟨x, hx, rfl⟩
    obtain ⟨m, hm, rfl⟩ := exists_of_map_eq_ok hx
    obtain ⟨-, hlow, hhigh⟩ := (decodeWord_eq_ok_iff hread).1 hm
    rw [hvalue m hlow hhigh, hm]
  · intro h
    obtain ⟨-, hlow, hhigh⟩ := (decodeWord_eq_ok_iff hread).1 h
    exact ⟨word n, by rw [h]; rfl, hvalue n hlow hhigh⟩

/-- Only what may stand for an integer is read as a word. -/
theorem isWordLike_of_decodeWord {word : Int → α} {x : α} (h : word <$> decodeWord low high read v = .ok x) :
    isWordLike v = true := by
  obtain ⟨n, hn, -⟩ := exists_of_map_eq_ok h
  unfold decodeWord at hn
  split at hn
  · rfl
  · rfl
  · cases hn

end Words

section Lists

variable {α : Type} {item : Decoder α} {items : List Draft} {xs : List α}

theorem decodeEach_eq_ok_iff :
    decodeEach item items = .ok xs ↔ List.Forall₂ (fun w x => item w = .ok x) items xs := by
  constructor
  · intro h
    induction items generalizing xs with
    | nil =>
      obtain rfl := Except.ok.inj h
      exact .nil
    | cons w rest ih =>
      rw [decodeEach] at h
      obtain ⟨x, hx, h⟩ := exists_of_bind_eq_ok h
      obtain ⟨ys, hys, h⟩ := exists_of_bind_eq_ok h
      obtain rfl := Except.ok.inj h
      exact .cons hx (ih hys)
  · intro h
    induction h with
    | nil => rfl
    | cons hx _ ih =>
      rw [decodeEach, hx, ih]
      rfl

/-- The items of a list are looked at before the first of them is read, but none is refused that could be read. -/
theorem decodeWords_eq_ok_iff (hitem : ∀ w x, item w = .ok x → isWordLike w = true) {v : Draft} :
    decodeWords item v = .ok xs ↔
      ∃ items, v = .array items ∧ List.Forall₂ (fun w x => item w = .ok x) items xs := by
  constructor
  · intro h
    unfold decodeWords at h
    split at h
    · rename_i items
      split at h
      · exact ⟨items, rfl, decodeEach_eq_ok_iff.1 h⟩
      · cases h
    · cases h
  · rintro ⟨items, rfl, h⟩
    have hall : items.all isWordLike = true := by
      refine List.all_eq_true.2 fun w hw => ?_
      obtain ⟨x, -, hx⟩ := exists_of_mem_forall₂ h hw
      exact hitem w x hx
    rw [decodeWords, if_pos hall]
    exact decodeEach_eq_ok_iff.2 h

end Lists

/-- Signed and unsigned words are read from exactly the values that state an integer of their range. -/
theorem readsWords :
    ReadsWords true (-2 ^ 63) (2 ^ 63 - 1) Int64.toInt ofInt64Text decodeInt64Text ∧
      ReadsWords false 0 (2 ^ 64 - 1) (fun n : UInt64 => (n.toNat : Int)) ofUInt64Text decodeUInt64Text := by
  constructor
  · constructor
    · exact fun v => exists_word_iff (fun _ _ => Text.readInt64_eq_ok_iff) fun n hlow hhigh =>
        Int64.toInt_ofInt_of_le hlow (by omega)
    · exact fun n delivery => recovers_int64Text (f := id) n delivery (.refl (fun _ _ => rfl) _)
    · exact fun v xs => decodeWords_eq_ok_iff fun _ _ => isWordLike_of_decodeWord
  · constructor
    · refine fun v => exists_word_iff (fun _ _ => Text.readUInt64_eq_ok_iff) fun n hlow hhigh => ?_
      have hfits : n.toNat < 2 ^ 64 := by omega
      rw [UInt64.toNat_ofNat_of_lt' hfits, Int.toNat_of_nonneg hlow]
    · exact fun n delivery => recovers_uint64Text (f := id) n delivery (.refl (fun _ _ => rfl) _)
    · exact fun v xs => decodeWords_eq_ok_iff fun _ _ => isWordLike_of_decodeWord

end Telemetry.Json
