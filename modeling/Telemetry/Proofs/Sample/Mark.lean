import Telemetry.Store.Write
import Telemetry.Proofs.Json.Number

/-! Where the mark of demo data stands in the text of stored attributes: in that of a true boolean whose key is
the mark's, or ends in a quote and the mark's key. The backslash that escapes the quote is no part of the mark. -/
namespace Telemetry.Store

open Json

/-- What follows the key in the text of a mark. -/
def markTail : List Char := ':' :: (AttributeValue.bool true).toJson.render

theorem sampleMark_eq : sampleMark = '"' :: (sampleKey.toList ++ '"' :: markTail) := by decide +kernel

section Skipping

variable {tail : List Char}

/-- Whatever has no quote is passed over. -/
theorem mark_infix_append {text : List Char} (h : '"' ∉ text) :
    sampleMark <:+: text ++ tail ↔ sampleMark <:+: tail := by
  induction text with
  | nil => rw [List.nil_append]
  | cons c text ih =>
    have hc : '"' ≠ c := fun heq => h (heq ▸ List.mem_cons_self)
    rw [List.cons_append, List.infix_cons_iff, ih fun hmem => h (List.mem_cons_of_mem c hmem), sampleMark_eq,
      List.cons_prefix_cons]
    simp only [hc, false_and, false_or]

theorem mark_infix_cons {c : Char} (h : '"' ≠ c) : sampleMark <:+: c :: tail ↔ sampleMark <:+: tail := by
  have htext : '"' ∉ [c] := by simpa using h
  exact mark_infix_append htext

end Skipping

section Strings

private theorem hexDigit_ne_quote {n : Nat} (h : n < 16) : Text.hexDigit n ≠ '"' := by
  revert n
  decide

/-- A character stands for itself, or is written after a backslash. Only a quote has a quote in its text. -/
private theorem escapeChar_cases (c : Char) :
    c ≠ '"' ∧ escapeChar c = [c] ∨
      ∃ rest, escapeChar c = '\\' :: rest ∧ (c = '"' ∧ rest = ['"'] ∨ c ≠ '"' ∧ '"' ∉ rest) := by
  unfold escapeChar
  split
  · exact .inr ⟨_, rfl, .inl ⟨rfl, rfl⟩⟩
  iterate 6 exact .inr ⟨_, rfl, .inr ⟨by decide, by decide⟩⟩
  · rename_i hquote _ _ _ _ _ _
    split
    · have hhigh : Text.hexDigit (c.toNat / 16) ≠ '"' := hexDigit_ne_quote (by omega)
      have hlow : Text.hexDigit (c.toNat % 16) ≠ '"' := hexDigit_ne_quote (by omega)
      exact .inr ⟨_, rfl, .inr ⟨hquote, by simp [hhigh.symm, hlow.symm]⟩⟩
    · exact .inl ⟨hquote, rfl⟩

/-- A string that begins with characters that stand for themselves, and then ends, consists of them. -/
private theorem plain_prefix_iff {key cs rest tail : List Char} (hkey : ∀ c ∈ key, escapeChar c = [c]) :
    key ++ '"' :: rest <+: cs.flatMap escapeChar ++ '"' :: tail ↔ cs = key ∧ rest <+: tail := by
  induction key generalizing cs with
  | nil =>
    cases cs with
    | nil => simp
    | cons c cs =>
      rcases escapeChar_cases c with ⟨hc, hplain⟩ | ⟨_, hescaped, -⟩
      · simp [hplain, hc.symm]
      · simp [hescaped]
  | cons k key ih =>
    obtain ⟨hk, hrest⟩ := List.forall_mem_cons.1 hkey
    cases cs with
    | nil =>
      have hquote : k ≠ '"' := by
        rintro rfl
        exact absurd hk (by decide)
      simp [hquote]
    | cons c cs =>
      rcases escapeChar_cases c with ⟨hc, hplain⟩ | ⟨_, hescaped, -⟩
      · simp only [List.flatMap_cons, hplain, List.cons_append, List.nil_append, List.cons_prefix_cons,
          ih hrest, List.cons.injEq, and_assoc, eq_comm (a := k)]
      · have hslash : k ≠ '\\' := by
          rintro rfl
          exact absurd hk (by decide)
        have hne : c ≠ k := by
          rintro rfl
          rw [hk] at hescaped
          exact hslash (List.cons.inj hescaped).1
        simp [hescaped, hslash, hne]

private theorem sampleKey_plain : ∀ c ∈ sampleKey.toList, escapeChar c = [c] := by
  simp [sampleKey, escapeChar]

/-- Whether the text of a key ends in the way of the mark's key: the key is the mark's, or ends in a quote and
the mark's key. -/
def EndsLikeMark (key : List Char) : Prop :=
  key = sampleKey.toList ∨ '"' :: sampleKey.toList <:+ key

variable {tail : List Char}

/-- A mark that begins inside a string begins at an escaped quote. -/
private theorem mark_infix_string {cs : List Char} (htail : tail.head? ≠ some 't') :
    sampleMark <:+: cs.flatMap escapeChar ++ '"' :: tail ↔
      '"' :: sampleKey.toList <:+ cs ∧ markTail <+: tail ∨ sampleMark <:+: tail := by
  induction cs with
  | nil =>
    have hhead : ¬sampleMark <+: '"' :: tail := by
      rw [sampleMark_eq, List.cons_prefix_cons]
      rintro ⟨-, rest, rfl⟩
      exact htail rfl
    simp [List.infix_cons_iff, hhead]
  | cons c cs ih =>
    rw [List.flatMap_cons, List.append_assoc, List.suffix_cons_iff]
    rcases escapeChar_cases c with ⟨hc, hplain⟩ | ⟨rest, hescaped, ⟨rfl, rfl⟩ | ⟨hc, hquote⟩⟩
    · rw [hplain, List.singleton_append, mark_infix_cons hc.symm, ih]
      simp [hc.symm]
    · rw [hescaped]
      simp only [List.cons_append, List.nil_append]
      rw [mark_infix_cons (by decide), List.infix_cons_iff, ih]
      nth_rewrite 1 [sampleMark_eq]
      rw [List.cons_prefix_cons, plain_prefix_iff sampleKey_plain]
      simp only [true_and, List.cons.injEq, eq_comm (a := cs)]
      tauto
    · rw [hescaped, mark_infix_append (by simpa using hquote), ih]
      simp [hc.symm]

/-- Of a string and what follows it, a mark can be in what follows, or begin in the string and end behind it. -/
theorem mark_infix_renderString {s : String} (htail : tail.head? ≠ some 't') :
    sampleMark <:+: renderString s ++ tail ↔
      EndsLikeMark s.toList ∧ markTail <+: tail ∨ sampleMark <:+: tail := by
  rw [renderString, List.cons_append, List.append_assoc, List.singleton_append, List.infix_cons_iff,
    mark_infix_string htail]
  nth_rewrite 1 [sampleMark_eq]
  rw [List.cons_prefix_cons, plain_prefix_iff sampleKey_plain, EndsLikeMark]
  tauto

end Strings

section Values

private theorem quote_not_mem_digits {ds : List Char} (h : ∀ c ∈ ds, c.isDigit = true) : '"' ∉ ds :=
  fun hmem => absurd (h _ hmem) (by decide)

private theorem quote_not_mem_text {n : Decimal.Numeral} (h : n.WellFormed) : '"' ∉ n.text := by
  have hwhole := quote_not_mem_digits h.whole_digits
  have hfraction : '"' ∉ Decimal.Numeral.fractionText n.fraction := by
    have hdigits := quote_not_mem_digits h.fraction_digits
    cases hf : n.fraction with
    | none => exact List.not_mem_nil
    | some ds => simpa [Decimal.Numeral.fractionText, hf] using hdigits
  have hexponent : '"' ∉ Decimal.Numeral.exponentText n.exponent := by
    cases n.exponent with
    | none => exact List.not_mem_nil
    | some e =>
      have hdigits : '"' ∉ Nat.toDigits 10 e.natAbs :=
        quote_not_mem_digits fun _ => Text.isDigit_of_mem_toDigits
      simp only [Decimal.Numeral.exponentText, List.mem_cons, hdigits, or_false]
      split <;> decide
  simp [Decimal.Numeral.text, hwhole, hfraction, hexponent]

private theorem quote_not_mem_number (n : Number) : '"' ∉ n.render := by
  cases n with
  | int n fits =>
    have hdigits : '"' ∉ Nat.toDigits 10 n.natAbs := quote_not_mem_digits fun _ => Text.isDigit_of_mem_toDigits
    simp only [Number.render, Text.toList_toString_int, List.mem_append, hdigits, or_false]
    split <;> decide
  | float x hx =>
    obtain ⟨n, htext, hn⟩ := exists_readable ((Decimal.isFinite_iff x).1 hx)
    have hdigits := quote_not_mem_text hn.wellFormed
    simp only [Number.render, Decimal.Layout.finite, htext]
    split
    · simpa using hdigits
    · exact hdigits

/-- No mark begins in the text of the value. -/
def Unmarked (v : Json) : Prop :=
  ∀ {tail : List Char}, Stops tail → (sampleMark <:+: v.render ++ tail ↔ sampleMark <:+: tail)

private theorem unmarked_of_render {v : Json} (h : '"' ∉ v.render) : Unmarked v :=
  fun _ => mark_infix_append h

/-- What follows a value is not what follows the key of a mark. -/
private theorem markTail_not_leading {tail : List Char} (h : Stops tail) : ¬markTail <+: tail := by
  rintro ⟨rest, rfl⟩
  rcases h ':' rfl with h | h | h <;> exact absurd h (by decide)

private theorem head?_ne_of_stops {tail : List Char} (h : Stops tail) : tail.head? ≠ some 't' := by
  intro ht
  rcases h 't' ht with h | h | h <;> exact absurd h (by decide)

private theorem unmarked_string (s : String) : Unmarked (.string s) := by
  intro tail htail
  rw [render, mark_infix_renderString (head?_ne_of_stops htail)]
  simp only [markTail_not_leading htail, and_false, false_or]

private theorem unmarked_number (n : Number) : Unmarked (.number n) := by
  refine unmarked_of_render ?_
  rw [render]
  exact quote_not_mem_number n

private theorem unmarked_ofFloat (x : Float) : Unmarked (.ofFloat x) := by
  rw [ofFloat]
  split
  · exact unmarked_number _
  · exact unmarked_of_render (by decide)

private theorem unmarked_bool (b : Bool) : Unmarked (.bool b) := by
  cases b <;> exact unmarked_of_render (by decide)

private theorem mark_infix_renderItems {items : List Json} {tail : List Char} (h : ∀ v ∈ items, Unmarked v) :
    sampleMark <:+: renderItems items ++ tail ↔ sampleMark <:+: tail := by
  induction items with
  | nil => exact mark_infix_cons (by decide)
  | cons v rest ih =>
    obtain ⟨hv, hrest⟩ := List.forall_mem_cons.1 h
    have hstops : Stops (renderItems rest ++ tail) := by
      cases rest <;> exact stops_cons (by simp) _
    rw [renderItems, List.cons_append, List.append_assoc, mark_infix_cons (by decide), hv hstops, ih hrest]

private theorem unmarked_array {items : List Json} (h : ∀ v ∈ items, Unmarked v) : Unmarked (.array items) := by
  intro tail _
  cases items with
  | nil =>
    have htext : '"' ∉ ['[', ']'] := by decide
    exact mark_infix_append htext
  | cons v rest =>
    obtain ⟨hv, hrest⟩ := List.forall_mem_cons.1 h
    have hstops : Stops (renderItems rest ++ tail) := by
      cases rest <;> exact stops_cons (by simp) _
    rw [render, List.cons_append, List.append_assoc, mark_infix_cons (by decide), hv hstops,
      mark_infix_renderItems hrest]

private theorem unmarked_list {α : Type} {f : α → Json} (h : ∀ x, Unmarked (f x)) (xs : List α) :
    Unmarked (.array (xs.map f)) :=
  unmarked_array (List.forall_mem_map.2 fun x _ => h x)

private theorem unmarked_plain (v : AttributeValue) : Unmarked v.plain := by
  cases v with
  | string s => exact unmarked_string s
  | int n => exact unmarked_number _
  | float x => exact unmarked_ofFloat x
  | bool b => exact unmarked_bool b
  | stringList items => exact unmarked_list unmarked_string items
  | intList items => exact unmarked_list (fun _ => unmarked_number _) items
  | floatList items => exact unmarked_list unmarked_ofFloat items
  | boolList items => exact unmarked_list unmarked_bool items

private theorem not_endsLikeMark_tag (v : AttributeValue) : ¬EndsLikeMark v.tag.toList := by
  unfold EndsLikeMark
  cases v <;> simp only [AttributeValue.tag] <;> decide +kernel

private theorem render_toJson (v : AttributeValue) :
    v.toJson.render = '{' :: (renderString v.tag ++ ':' :: (v.plain.render ++ ['}'])) := rfl

private theorem unmarked_toJson (v : AttributeValue) : Unmarked v.toJson := by
  intro tail _
  have hstops : Stops ('}' :: tail) := stops_cons (by simp) tail
  rw [render_toJson]
  simp only [List.cons_append, List.append_assoc, List.nil_append]
  rw [mark_infix_cons (by decide), mark_infix_renderString (by simp), mark_infix_cons (by decide),
    unmarked_plain v hstops, mark_infix_cons (by decide)]
  simp only [not_endsLikeMark_tag, false_and, false_or]

private theorem markTail_eq :
    markTail = ':' :: '{' :: '"' :: ("boolean".toList ++ '"' :: [':', 't', 'r', 'u', 'e', '}']) := by
  decide +kernel

/-- Only the text of a true boolean is what stands behind the key of a mark. -/
private theorem markTail_prefix_iff {v : AttributeValue} {tail : List Char} :
    markTail <+: ':' :: (v.toJson.render ++ tail) ↔ v = .bool true := by
  have hplain : ∀ c ∈ "boolean".toList, escapeChar c = [c] := by simp [escapeChar]
  rw [markTail_eq, render_toJson, renderString]
  simp only [List.cons_append, List.append_assoc, List.nil_append, List.cons_prefix_cons, true_and]
  rw [plain_prefix_iff hplain, String.toList_inj]
  cases v with
  | bool b => cases b <;> simp [AttributeValue.tag, AttributeValue.plain, render]
  | _ => simp [AttributeValue.tag]

end Values

section Attributes

private theorem mark_infix_members (entries : List (String × AttributeValue)) :
    sampleMark <:+: renderMembers (entries.map fun e => (e.1, e.2.toJson)) ↔
      ∃ e ∈ entries, e.2 = .bool true ∧ EndsLikeMark e.1.toList := by
  induction entries with
  | nil =>
    have hnil : ¬sampleMark <:+: ['}'] := by decide
    simpa [renderMembers] using hnil
  | cons e rest ih =>
    have hstops : Stops (renderMembers (rest.map fun e => (e.1, e.2.toJson))) := by
      cases rest <;> exact stops_cons (by simp) _
    rw [List.map_cons, renderMembers, mark_infix_cons (by decide), mark_infix_renderString (by simp),
      markTail_prefix_iff, mark_infix_cons (by decide), unmarked_toJson e.2 hstops, ih, List.exists_mem_cons_iff,
      and_comm (a := EndsLikeMark _)]

/-- The stored text of a map has the mark exactly if a true boolean has a key that ends like it. -/
theorem mark_infix_attributes (a : Attributes) :
    sampleMark <:+: a.toJson.render ↔ ∃ e ∈ a.entries, e.2 = .bool true ∧ EndsLikeMark e.1.toList := by
  have hmembers := mark_infix_members a.entries
  rw [Attributes.toJson]
  cases hentries : a.entries with
  | nil =>
    have hnil : ¬sampleMark <:+: ['{', '}'] := by decide
    simpa [render] using hnil
  | cons e rest =>
    rw [hentries, List.map_cons, renderMembers, mark_infix_cons (by decide)] at hmembers
    rw [List.map_cons, render, mark_infix_cons (by decide), hmembers]

end Attributes
end Telemetry.Store
