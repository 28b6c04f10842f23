import Telemetry.Text.Blank
import Telemetry.Text.Integer

/-! Whole numbers are read back from the text they are written as. -/
namespace Telemetry.Text

theorem isDigit_of_mem_toDigits {n : Nat} {c : Char} (hc : c ∈ Nat.toDigits 10 n) : c.isDigit = true :=
  Nat.isDigit_of_mem_toDigits (by decide) (by decide) hc

/-- The text of an integer: perhaps a sign, and its digits. -/
theorem toList_toString_int (n : Int) :
    (toString n).toList = (if n < 0 then ['-'] else []) ++ Nat.toDigits 10 n.natAbs := by
  cases n with
  | ofNat k => simp [toString, Int.repr, Nat.toList_repr]
  | negSucc k =>
    simp only [toString, Int.repr, String.toList_append, Nat.toList_repr, Int.negSucc_lt_zero, if_pos]
    rfl

section Read

variable {limit : Nat} {ds : List Char}

/-- Digits of a number within the limit are read as that number. -/
theorem readDigits_of_le (hds : ∀ c ∈ ds, c.isDigit = true) {n : Nat}
    (h : Nat.ofDigitChars 10 ds n ≤ limit) : readDigits limit n ds = .ok (Nat.ofDigitChars 10 ds n) := by
  induction ds generalizing n with
  | nil => simp [readDigits]
  | cons d ds ih =>
    have hd := hds d List.mem_cons_self
    rw [Nat.ofDigitChars_cons] at h ⊢
    have hprefix : 10 * n + (d.toNat - '0'.toNat) ≤ limit := by
      refine Nat.le_trans ?_ h
      rw [Nat.ofDigitChars_eq_ofDigitChars_zero]
      refine Nat.le_trans ?_ (Nat.le_add_right _ _)
      exact Nat.le_mul_of_pos_left _ (Nat.pow_pos (by decide))
    simp only [readDigits]
    rw [if_pos hd, if_neg (show ¬limit < 10 * n + (d.toNat - 48) from Nat.not_lt.2 hprefix)]
    exact ih (fun c hc => hds c (List.mem_cons_of_mem _ hc)) h

private theorem readInteger_digits {signed : Bool} {minimum : Nat} (hne : ds ≠ [])
    (hds : ∀ c ∈ ds, c.isDigit = true) :
    readInteger signed minimum limit ds = Int.ofNat <$> readDigits limit 0 ds := by
  obtain ⟨d, rest, rfl⟩ := List.exists_cons_of_ne_nil hne
  have hd := hds d List.mem_cons_self
  have hplus : d ≠ '+' := by rintro rfl; exact absurd hd (by decide)
  have hminus : d ≠ '-' := by rintro rfl; exact absurd hd (by decide)
  unfold readInteger
  split <;> simp_all

/-- The digits of a number within the limit. -/
theorem readInteger_natural {signed : Bool} {minimum n : Nat} (h : n ≤ limit) :
    readInteger signed minimum limit (Nat.toDigits 10 n) = .ok (n : Int) := by
  have hvalue := Nat.ofDigitChars_ten_toDigits (n := n)
  rw [readInteger_digits Nat.toDigits_ne_nil fun _ => isDigit_of_mem_toDigits,
    readDigits_of_le (fun _ => isDigit_of_mem_toDigits) (by rwa [hvalue]), hvalue]
  rfl

/-- A signed number within its limits is read back from its text. -/
theorem readInteger_toString {minimum : Nat} {n : Int} (hlow : -minimum ≤ n) (hhigh : n ≤ limit) :
    readInteger true minimum limit (toString n).toList = .ok n := by
  rw [toList_toString_int]
  rcases Int.lt_or_le n 0 with h | h
  · rw [if_pos h]
    obtain ⟨d, rest, hd⟩ := List.exists_cons_of_ne_nil (Nat.toDigits_ne_nil (n := n.natAbs) (b := 10))
    have hvalue := Nat.ofDigitChars_ten_toDigits (n := n.natAbs)
    have hread : readDigits minimum 0 (Nat.toDigits 10 n.natAbs) = .ok n.natAbs := by
      rw [readDigits_of_le (fun _ => isDigit_of_mem_toDigits) (by rw [hvalue]; omega), hvalue]
    rw [hd] at hread ⊢
    simp only [List.cons_append, List.nil_append, readInteger, hread, if_true]
    exact congrArg Except.ok (by simp only [Int.ofNat_eq_natCast]; omega)
  · rw [if_neg (Int.not_lt.2 h), List.nil_append, readInteger_natural (by omega)]
    exact congrArg Except.ok (Int.natAbs_of_nonneg h)

end Read

section Trim

theorem isBlank_of_isDigit {c : Char} (h : c.isDigit = true) : isBlank c = false := by
  simp only [Char.isDigit, Bool.and_eq_true, decide_eq_true_eq] at h
  have hlow : 48 ≤ c.toNat := h.1
  have hhigh : c.toNat ≤ 57 := h.2
  simp only [isBlank, Bool.or_eq_false_iff, Bool.and_eq_false_iff, beq_eq_false_iff_ne,
    decide_eq_false_iff_not]
  omega

private theorem dropWhile_eq_self {p : Char → Bool} {cs : List Char} (h : ∀ c ∈ cs, p c = false) :
    cs.dropWhile p = cs := by
  cases cs with
  | nil => rfl
  | cons c cs => rw [List.dropWhile_cons_of_neg (by simp [h c])]

/-- A text without blanks is trimmed to itself. -/
theorem trimChars_eq_self {cs : List Char} (h : ∀ c ∈ cs, isBlank c = false) : trimChars cs = cs := by
  rw [trimChars, dropWhile_eq_self h, dropWhile_eq_self fun c hc => h c (List.mem_reverse.1 hc),
    List.reverse_reverse]

theorem trimChars_toDigits (n : Nat) : trimChars (Nat.toDigits 10 n) = Nat.toDigits 10 n :=
  trimChars_eq_self fun _ hc => isBlank_of_isDigit (isDigit_of_mem_toDigits hc)

theorem trimChars_toString_int (n : Int) : trimChars (toString n).toList = (toString n).toList := by
  refine trimChars_eq_self fun c hc => ?_
  rw [toList_toString_int] at hc
  rcases List.mem_append.1 hc with hc | hc
  · split at hc
    · rw [List.mem_singleton.1 hc]
      decide
    · exact absurd hc List.not_mem_nil
  · exact isBlank_of_isDigit (isDigit_of_mem_toDigits hc)

end Trim

end Telemetry.Text
