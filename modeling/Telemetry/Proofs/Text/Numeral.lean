import Mathlib.Data.List.TakeWhile
import Telemetry.Proofs.Text.Integer

/-! The texts that stand for whole numbers. A number is read from exactly the numerals within its range, however many
digits they have, and white space around a numeral does not count. -/
namespace Telemetry.Text

/-- At least one ASCII digit, most significant first. -/
structure IsDigits (ds : List Char) (n : Nat) : Prop where
  ne_nil : ds ≠ []
  digits : ∀ c ∈ ds, c.isDigit = true
  value : Nat.ofDigitChars 10 ds 0 = n

/-- A whole number in text: its digits, with a sign in front or without one. Only signed numbers have a minus sign. -/
inductive IsNumeral (signed : Bool) : List Char → Int → Prop
  | bare {ds : List Char} {n : Nat} (h : IsDigits ds n) : IsNumeral signed ds n
  | plus {ds : List Char} {n : Nat} (h : IsDigits ds n) : IsNumeral signed ('+' :: ds) n
  | minus {ds : List Char} {n : Nat} (hsigned : signed = true) (h : IsDigits ds n) : IsNumeral signed ('-' :: ds) (-n)

/-- A text that is a numeral with white space around it. -/
def Spells (signed : Bool) (s : String) (n : Int) : Prop :=
  ∃ before numeral after, s.toList = before ++ numeral ++ after ∧ (∀ c ∈ before, isBlank c = true) ∧
    (∀ c ∈ after, isBlank c = true) ∧ IsNumeral signed numeral n

section Reading

variable {limit : Nat} {ds : List Char}

/-- Digits are read exactly if they do not lead beyond the limit. -/
theorem readDigits_eq_ok_iff {n m : Nat} (hn : n ≤ limit) :
    readDigits limit n ds = .ok m ↔
      (∀ c ∈ ds, c.isDigit = true) ∧ Nat.ofDigitChars 10 ds n = m ∧ m ≤ limit := by
  constructor
  · intro h
    induction ds generalizing n with
    | nil =>
      obtain rfl := Except.ok.inj h
      exact ⟨List.forall_mem_nil _, rfl, hn⟩
    | cons c cs ih =>
      unfold readDigits at h
      dsimp only at h
      split at h
      · rename_i hc
        split at h
        · cases h
        · rename_i hlimit
          obtain ⟨hcs, hvalue, hm⟩ := ih (Nat.not_lt.1 hlimit) h
          exact ⟨List.forall_mem_cons.2 ⟨hc, hcs⟩, hvalue, hm⟩
      · cases h
  · rintro ⟨hds, rfl, hm⟩
    exact readDigits_of_le hds hm

/-- So a reading of digits that are there is a number within the limit. -/
theorem map_readDigits_eq_ok_iff (hne : ds ≠ []) {f : Nat → Int} {n : Int} :
    f <$> readDigits limit 0 ds = .ok n ↔ ∃ m, IsDigits ds m ∧ m ≤ limit ∧ f m = n := by
  constructor
  · intro h
    cases hread : readDigits limit 0 ds with
    | error fault =>
      rw [hread] at h
      cases h
    | ok m =>
      rw [hread] at h
      obtain ⟨hds, hvalue, hm⟩ := (readDigits_eq_ok_iff (Nat.zero_le limit)).1 hread
      exact ⟨m, ⟨hne, hds, hvalue⟩, hm, Except.ok.inj h⟩
  · rintro ⟨m, hds, hm, rfl⟩
    rw [(readDigits_eq_ok_iff (Nat.zero_le limit)).2 ⟨hds.digits, hds.value, hm⟩]
    rfl

variable {signed : Bool} {below above : Nat} {c : Char} {cs : List Char} {n : Int}

theorem readInteger_plus (hne : ds ≠ []) :
    readInteger signed below above ('+' :: ds) = Int.ofNat <$> readDigits above 0 ds := by
  cases ds with
  | nil => exact absurd rfl hne
  | cons d ds => rfl

theorem readInteger_minus (hne : ds ≠ []) :
    readInteger signed below above ('-' :: ds) =
      if signed then (fun n => -Int.ofNat n) <$> readDigits below 0 ds else .error .invalidDigit := by
  cases ds with
  | nil => exact absurd rfl hne
  | cons d ds => rfl

theorem readInteger_bare (hplus : c ≠ '+') (hminus : c ≠ '-') :
    readInteger signed below above (c :: cs) = Int.ofNat <$> readDigits above 0 (c :: cs) := by
  unfold readInteger
  split <;> simp_all

theorem IsDigits.head_ne {sign : Char} (hsign : sign.isDigit = false) {n : Nat} (h : IsDigits (c :: cs) n) :
    c ≠ sign := by
  rintro rfl
  exact absurd (h.digits c List.mem_cons_self) (by simp [hsign])

/-- A number is read from a text exactly if the text is a numeral of it and it is within the range. -/
theorem readInteger_eq_ok_iff :
    readInteger signed below above cs = .ok n ↔ IsNumeral signed cs n ∧ -below ≤ n ∧ n ≤ above := by
  constructor
  · intro h
    obtain _ | ⟨c, ds⟩ := cs
    · cases h
    -- the first character decides how the rest is read; a sign alone is refused
    by_cases hplus : c = '+'
    · subst hplus
      have hne : ds ≠ [] := by
        rintro rfl
        cases h
      rw [readInteger_plus hne] at h
      obtain ⟨m, hds, hm, hvalue⟩ := (map_readDigits_eq_ok_iff hne).1 h
      obtain rfl : (m : Int) = n := hvalue
      exact ⟨.plus hds, by omega, by omega⟩
    by_cases hminus : c = '-'
    · subst hminus
      have hne : ds ≠ [] := by
        rintro rfl
        cases h
      rw [readInteger_minus hne] at h
      split at h
      · rename_i hsigned
        obtain ⟨m, hds, hm, hvalue⟩ := (map_readDigits_eq_ok_iff hne).1 h
        obtain rfl : -(m : Int) = n := hvalue
        exact ⟨.minus hsigned hds, by omega, by omega⟩
      · cases h
    · rw [readInteger_bare hplus hminus] at h
      obtain ⟨m, hds, hm, hvalue⟩ := (map_readDigits_eq_ok_iff (List.cons_ne_nil c ds)).1 h
      obtain rfl : (m : Int) = n := hvalue
      exact ⟨.bare hds, by omega, by omega⟩
  · rintro ⟨hnumeral, hlow, hhigh⟩
    cases hnumeral with
    | bare hds =>
      obtain ⟨c, ds, rfl⟩ := List.exists_cons_of_ne_nil hds.ne_nil
      rw [readInteger_bare (hds.head_ne rfl) (hds.head_ne rfl)]
      exact (map_readDigits_eq_ok_iff hds.ne_nil).2 ⟨_, hds, by omega, rfl⟩
    | plus hds =>
      rw [readInteger_plus hds.ne_nil]
      exact (map_readDigits_eq_ok_iff hds.ne_nil).2 ⟨_, hds, by omega, rfl⟩
    | minus hsigned hds =>
      rw [readInteger_minus hds.ne_nil, if_pos hsigned]
      exact (map_readDigits_eq_ok_iff hds.ne_nil).2 ⟨_, hds, by omega, rfl⟩

theorem readInt64_eq_ok_iff : readInt64 cs = .ok n ↔ IsNumeral true cs n ∧ -2 ^ 63 ≤ n ∧ n ≤ 2 ^ 63 - 1 :=
  readInteger_eq_ok_iff

theorem readUInt64_eq_ok_iff : readUInt64 cs = .ok n ↔ IsNumeral false cs n ∧ 0 ≤ n ∧ n ≤ 2 ^ 64 - 1 :=
  readInteger_eq_ok_iff

end Reading

section Trimming

variable {cs before inner after : List Char}

/-- Trimming takes a run of blanks off each end. -/
theorem exists_append_trimChars (cs : List Char) :
    ∃ before after, cs = before ++ trimChars cs ++ after ∧ (∀ c ∈ before, isBlank c = true) ∧
      ∀ c ∈ after, isBlank c = true := by
  have htail : cs.dropWhile isBlank =
      trimChars cs ++ ((cs.dropWhile isBlank).reverse.takeWhile isBlank).reverse := by
    rw [trimChars, ← List.reverse_append, List.takeWhile_append_dropWhile, List.reverse_reverse]
  refine ⟨cs.takeWhile isBlank, ((cs.dropWhile isBlank).reverse.takeWhile isBlank).reverse, ?_,
    fun c hc => List.mem_takeWhile_imp hc, fun c hc => List.mem_takeWhile_imp (List.mem_reverse.1 hc)⟩
  rw [List.append_assoc, ← htail, List.takeWhile_append_dropWhile]

/-- What stands between two runs of blanks is left if it has no blank itself. -/
theorem trimChars_append (hbefore : ∀ c ∈ before, isBlank c = true) (hafter : ∀ c ∈ after, isBlank c = true)
    (hne : inner ≠ []) (hinner : ∀ c ∈ inner, isBlank c = false) : trimChars (before ++ inner ++ after) = inner := by
  have hfirst : (inner ++ after).dropWhile isBlank = inner ++ after := by
    obtain ⟨c, cs, rfl⟩ := List.exists_cons_of_ne_nil hne
    exact List.dropWhile_cons_of_neg (by simp [hinner c List.mem_cons_self])
  have hlast : inner.reverse.dropWhile isBlank = inner.reverse := by
    obtain ⟨c, cs, hcs⟩ := List.exists_cons_of_ne_nil (List.reverse_ne_nil_iff.2 hne)
    have hc : c ∈ inner := List.mem_reverse.1 (hcs ▸ List.mem_cons_self)
    rw [hcs, List.dropWhile_cons_of_neg (by simp [hinner c hc])]
  rw [trimChars, List.append_assoc, List.dropWhile_append_of_pos hbefore, hfirst, List.reverse_append,
    List.dropWhile_append_of_pos fun c hc => hafter c (List.mem_reverse.1 hc), hlast, List.reverse_reverse]

variable {signed : Bool} {n : Int}

theorem IsNumeral.ne_nil (h : IsNumeral signed cs n) : cs ≠ [] := by
  cases h with
  | bare hds => exact hds.ne_nil
  | plus | minus => exact List.cons_ne_nil _ _

theorem IsNumeral.not_blank (h : IsNumeral signed cs n) : ∀ c ∈ cs, isBlank c = false := by
  have hdigits : ∀ {ds n}, IsDigits ds n → ∀ c ∈ ds, isBlank c = false :=
    fun hds c hc => isBlank_of_isDigit (hds.digits c hc)
  cases h with
  | bare hds => exact hdigits hds
  | plus hds => exact List.forall_mem_cons.2 ⟨by decide, hdigits hds⟩
  | minus _ hds => exact List.forall_mem_cons.2 ⟨by decide, hdigits hds⟩

/-- A text spells a number exactly if trimming leaves a numeral of the number. -/
theorem spells_iff {s : String} : Spells signed s n ↔ IsNumeral signed (trimChars s.toList) n := by
  constructor
  · rintro ⟨before, numeral, after, hs, hbefore, hafter, hnumeral⟩
    rwa [hs, trimChars_append hbefore hafter hnumeral.ne_nil hnumeral.not_blank]
  · intro h
    obtain ⟨before, after, hs, hbefore, hafter⟩ := exists_append_trimChars s.toList
    exact ⟨before, _, after, hs, hbefore, hafter, h⟩

end Trimming
end Telemetry.Text
