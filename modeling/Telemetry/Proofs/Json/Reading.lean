import Telemetry.Json.Decoder
import Telemetry.Proofs.Json.Text

/-! Reading back the text of a value. Everything comes back as it was written, except that each double is
replaced by the double its text is read as. -/
namespace Telemetry.Json

/-- The number that the text of a number is read as. -/
def Number.reread : Number → Number
  | .int n fits => .int n fits
  | .float x hx => .float (stored x) (isFinite_stored hx)

mutual

/-- The draft that the text of a value is read as. -/
def reread : Json → Draft
  | .null => .null
  | .bool b => .bool b
  | .number n => .number n.reread
  | .string s => .string s
  | .array items => .array (rereadItems items)
  | .object members => .object .stream (rereadMembers members)

def rereadItems : List Json → List Draft
  | [] => []
  | v :: rest => reread v :: rereadItems rest

def rereadMembers : List (String × Json) → List (Option String × Draft)
  | [] => []
  | (k, v) :: rest => (some k, reread v) :: rereadMembers rest

end

section Numbers

variable {tail : List Char}

theorem readNumber_render (n : Number) (htail : Stops tail) :
    readNumber (n.render ++ tail) = some (.number n.reread, tail) := by
  cases n with
  | int n fits => exact readNumber_int n fits htail
  | float x hx =>
    obtain ⟨hs, hread⟩ := readNumber_finite hx
    exact hread tail htail

private theorem head_of_readNumber {cs : List Char} {r : Draft × List Char} (h : readNumber cs = some r) :
    ∃ c rest, cs = c :: rest ∧ (c = '-' ∨ c.isDigit = true) := by
  cases cs with
  | nil => simp [readNumber, readMagnitude, spanDigits] at h
  | cons c cs =>
    refine ⟨c, cs, rfl, ?_⟩
    by_cases hminus : c = '-'
    · exact .inl hminus
    · right
      by_contra hdigit
      rw [readNumber] at h
      · simp [readMagnitude, spanDigits, hdigit] at h
      · intro rest hrest
        exact hminus (List.cons.inj hrest).1

private theorem not_special {c : Char} (h : c = '-' ∨ c.isDigit = true) :
    isSpace c = false ∧ c ≠ ']' ∧ c ≠ '}' ∧ c ≠ 'n' ∧ c ≠ 't' ∧ c ≠ 'f' ∧ c ≠ '"' ∧ c ≠ '[' ∧ c ≠ '{' := by
  rcases h with rfl | h
  · decide
  · refine ⟨?_, ?_, ?_, ?_, ?_, ?_, ?_, ?_, ?_⟩
    · by_contra hspace
      simp only [isSpace, Bool.not_eq_false, Bool.or_eq_true, beq_iff_eq] at hspace
      rcases hspace with ((rfl | rfl) | rfl) | rfl <;> exact absurd h (by decide)
    all_goals
      rintro rfl
      exact absurd h (by decide)

private theorem readValue_of_readNumber {cs : List Char} {v : Draft} {rest : List Char}
    (h : readNumber cs = some (v, rest)) (n : Nat) : readValue (n + 1) cs = (v, some rest) := by
  obtain ⟨c, cs, rfl, hc⟩ := head_of_readNumber h
  obtain ⟨hspace, -, -, hn, ht, hf, hquote, hopen, hbrace⟩ := not_special hc
  rw [readValue, skipSpace_cons hspace]
  split <;> simp_all

end Numbers

section Heads

/-- A value starts with neither a blank nor a closing bracket. -/
private theorem head_render (v : Json) :
    ∃ c cs, v.render = c :: cs ∧ isSpace c = false ∧ c ≠ ']' ∧ c ≠ '}' := by
  match v with
  | .null => exact ⟨'n', _, rfl, by decide⟩
  | .bool true => exact ⟨'t', _, rfl, by decide⟩
  | .bool false => exact ⟨'f', _, rfl, by decide⟩
  | .string s => exact ⟨'"', _, rfl, by decide⟩
  | .array [] => exact ⟨'[', _, rfl, by decide⟩
  | .array (_ :: _) => exact ⟨'[', _, rfl, by decide⟩
  | .object [] => exact ⟨'{', _, rfl, by decide⟩
  | .object ((_, _) :: _) => exact ⟨'{', _, rfl, by decide⟩
  | .number n =>
    obtain ⟨c, cs, hrender, hc⟩ := head_of_readNumber (readNumber_render n stops_nil)
    obtain ⟨hspace, hbracket, hbrace, -⟩ := not_special hc
    rw [List.append_nil] at hrender
    exact ⟨c, cs, hrender, hspace, hbracket, hbrace⟩

private theorem skipSpace_render (v : Json) (tail : List Char) :
    skipSpace (v.render ++ tail) = v.render ++ tail := by
  obtain ⟨c, cs, hrender, hspace, -⟩ := head_render v
  rw [hrender, List.cons_append, skipSpace_cons hspace]

private theorem length_render_pos (v : Json) : 0 < v.render.length := by
  obtain ⟨c, cs, hrender, -⟩ := head_render v
  rw [hrender]
  exact Nat.succ_pos _

theorem stops_renderItems (items : List Json) (tail : List Char) :
    Stops (renderItems items ++ tail) := by
  cases items with
  | nil => exact stops_cons (by decide) _
  | cons v rest => exact stops_cons (by decide) _

theorem stops_renderMembers (members : List (String × Json)) (tail : List Char) :
    Stops (renderMembers members ++ tail) := by
  cases members with
  | nil => exact stops_cons (by decide) _
  | cons m rest => exact stops_cons (by decide) _

theorem readKey_renderString (k : String) (rest : List Char) :
    readKey (renderString k ++ ':' :: rest) = some (some k, rest) := by
  have hunits := readUnits_text k.toList (':' :: rest)
  rw [readKey, renderString, List.cons_append, skipSpace_cons (by decide), List.append_assoc,
    List.singleton_append]
  simp only [hunits]
  rw [Option.bind_eq_bind, Option.bind_some, skipSpace_cons (by decide)]
  simp only [unitsText_toList]
  rfl

end Heads

/-- A value is read back from its text, whatever follows it, in two steps for each character. -/
def ReadsBack (v : Json) : Prop :=
  ∀ steps tail, 2 * v.render.length ≤ steps → Stops tail →
    readValue steps (v.render ++ tail) = (v.reread, some tail)

section Scalars

private theorem readsBack_number (n : Number) : ReadsBack (.number n) := by
  intro steps tail hsteps htail
  obtain ⟨k, rfl⟩ : ∃ k, steps = k + 1 := ⟨steps - 1, by have := length_render_pos (.number n); omega⟩
  exact readValue_of_readNumber (readNumber_render n htail) k

private theorem readsBack_string (s : String) : ReadsBack (.string s) := by
  intro steps tail hsteps _
  obtain ⟨k, rfl⟩ : ∃ k, steps = k + 1 := ⟨steps - 1, by have := length_render_pos (.string s); omega⟩
  have hunits := readUnits_text s.toList tail
  simp only [render, renderString, List.cons_append, List.append_assoc, List.nil_append]
  rw [readValue, skipSpace_cons (by decide)]
  simp only [hunits, unitsText_toList]
  rfl

end Scalars

/-- The items after the first are read up to the closing bracket. -/
def ItemsReadBack (rest : List Json) : Prop :=
  ∀ v, ReadsBack v → ∀ steps tail, 2 * (v.render.length + (renderItems rest).length) ≤ steps →
    readItems steps (v.render ++ (renderItems rest ++ tail)) =
      (v.reread :: rereadItems rest, some tail)

/-- The members after the first are read up to the closing brace. -/
def MembersReadBack (rest : List (String × Json)) : Prop :=
  ∀ k v, ReadsBack v → ∀ steps tail,
    2 * ((renderString k).length + 1 + v.render.length + (renderMembers rest).length) ≤ steps →
      readMembers steps (renderString k ++ ':' :: (v.render ++ (renderMembers rest ++ tail))) =
        ((some k, v.reread) :: rereadMembers rest, some tail)

section Containers

private theorem itemsReadBack_nil : ItemsReadBack [] := by
  intro v hv steps tail hsteps
  obtain ⟨k, rfl⟩ : ∃ k, steps = k + 1 := ⟨steps - 1, by have := length_render_pos v; omega⟩
  have hread := hv k (']' :: tail) (by simp only [renderItems, List.length_singleton] at hsteps; omega)
    (stops_cons (by decide) _)
  simp only [renderItems, List.singleton_append, readItems, hread, Option.map_some]
  rw [skipSpace_cons (by decide)]
  rfl

private theorem itemsReadBack_cons {w : Json} (hw : ReadsBack w) {rest : List Json}
    (hrest : ItemsReadBack rest) : ItemsReadBack (w :: rest) := by
  intro v hv steps tail hsteps
  obtain ⟨k, rfl⟩ : ∃ k, steps = k + 1 := ⟨steps - 1, by have := length_render_pos v; omega⟩
  simp only [renderItems, List.length_cons, List.length_append] at hsteps
  have hread := hv k (renderItems (w :: rest) ++ tail) (by omega) (stops_renderItems _ _)
  have hnext := hrest w hw k tail (by omega)
  simp only [renderItems, List.cons_append, List.append_assoc] at hread ⊢
  simp only [readItems, hread, Option.map_some]
  rw [skipSpace_cons (by decide)]
  simp only [hnext]
  rfl

private theorem membersReadBack_nil : MembersReadBack [] := by
  intro key v hv steps tail hsteps
  obtain ⟨k, rfl⟩ : ∃ k, steps = k + 1 := ⟨steps - 1, by have := length_render_pos v; omega⟩
  have hread := hv k ('}' :: tail) (by simp only [renderMembers, List.length_singleton] at hsteps; omega)
    (stops_cons (by decide) _)
  simp only [renderMembers, List.singleton_append, readMembers, readKey_renderString, hread,
    Option.map_some]
  rw [skipSpace_cons (by decide)]
  rfl

private theorem membersReadBack_cons {key : String} {w : Json} (hw : ReadsBack w)
    {rest : List (String × Json)} (hrest : MembersReadBack rest) : MembersReadBack ((key, w) :: rest) := by
  intro first v hv steps tail hsteps
  obtain ⟨k, rfl⟩ : ∃ k, steps = k + 1 := ⟨steps - 1, by have := length_render_pos v; omega⟩
  simp only [renderMembers, List.length_cons, List.length_append] at hsteps
  have hread := hv k (renderMembers ((key, w) :: rest) ++ tail) (by omega) (stops_renderMembers _ _)
  have hnext := hrest key w hw k tail (by omega)
  simp only [renderMembers, List.cons_append, List.append_assoc] at hread ⊢
  simp only [readMembers, readKey_renderString, hread, Option.map_some]
  rw [skipSpace_cons (by decide)]
  simp only [hnext]
  rfl

private theorem readsBack_array_nil : ReadsBack (.array []) := by
  intro steps tail hsteps _
  obtain ⟨k, rfl⟩ : ∃ k, steps = k + 1 := ⟨steps - 1, by simp only [render, List.length_cons] at hsteps; omega⟩
  simp only [render, List.cons_append, List.nil_append]
  rw [readValue, skipSpace_cons (by decide)]
  simp only [skipSpace_cons (c := ']') (by decide)]
  rfl

private theorem readsBack_array_cons {v : Json} (hv : ReadsBack v) {rest : List Json}
    (hrest : ItemsReadBack rest) : ReadsBack (.array (v :: rest)) := by
  intro steps tail hsteps _
  simp only [render, List.length_cons, List.length_append] at hsteps
  obtain ⟨k, rfl⟩ : ∃ k, steps = k + 1 := ⟨steps - 1, by omega⟩
  have hread := hrest v hv k tail (by omega)
  have hskip := skipSpace_render v (renderItems rest ++ tail)
  obtain ⟨c, cs, hrender, -, hbracket, -⟩ := head_render v
  simp only [render, List.cons_append, List.append_assoc]
  rw [readValue, skipSpace_cons (by decide)]
  simp only [hskip]
  rw [hrender] at hread ⊢
  simp only [List.cons_append] at hread ⊢
  split
  · rename_i heq
    exact absurd (List.cons.inj heq).1 hbracket
  · rw [hread]
    rfl

private theorem readsBack_object_nil : ReadsBack (.object []) := by
  intro steps tail hsteps _
  obtain ⟨k, rfl⟩ : ∃ k, steps = k + 1 := ⟨steps - 1, by simp only [render, List.length_cons] at hsteps; omega⟩
  simp only [render, List.cons_append, List.nil_append]
  rw [readValue, skipSpace_cons (by decide)]
  simp only [skipSpace_cons (c := '}') (by decide)]
  rfl

private theorem readsBack_object_cons {key : String} {v : Json} (hv : ReadsBack v)
    {rest : List (String × Json)} (hrest : MembersReadBack rest) :
    ReadsBack (.object ((key, v) :: rest)) := by
  intro steps tail hsteps _
  simp only [render, List.length_cons, List.length_append] at hsteps
  obtain ⟨k, rfl⟩ : ∃ k, steps = k + 1 := ⟨steps - 1, by omega⟩
  have hread := hrest key v hv k tail (by omega)
  simp only [render, List.cons_append, List.append_assoc]
  rw [readValue, skipSpace_cons (by decide)]
  simp only [renderString, List.cons_append] at hread ⊢
  simp only [skipSpace_cons (c := '"') (by decide)]
  split
  · rename_i heq
    exact absurd (List.cons.inj heq).1 (by decide)
  · rw [hread]
    rfl

end Containers

mutual

/-- Every value is read back from its text. -/
theorem readsBack : ∀ v : Json, ReadsBack v
  | .null => by
    intro steps tail hsteps _
    obtain ⟨k, rfl⟩ : ∃ k, steps = k + 1 := ⟨steps - 1, by have := length_render_pos .null; omega⟩
    rfl
  | .bool true => by
    intro steps tail hsteps _
    obtain ⟨k, rfl⟩ : ∃ k, steps = k + 1 := ⟨steps - 1, by have := length_render_pos (.bool true); omega⟩
    rfl
  | .bool false => by
    intro steps tail hsteps _
    obtain ⟨k, rfl⟩ : ∃ k, steps = k + 1 := ⟨steps - 1, by have := length_render_pos (.bool false); omega⟩
    rfl
  | .number n => readsBack_number n
  | .string s => readsBack_string s
  | .array [] => readsBack_array_nil
  | .array (v :: rest) => readsBack_array_cons (readsBack v) (itemsReadBack rest)
  | .object [] => readsBack_object_nil
  | .object ((_, v) :: rest) => readsBack_object_cons (readsBack v) (membersReadBack rest)

private theorem itemsReadBack : ∀ rest : List Json, ItemsReadBack rest
  | [] => itemsReadBack_nil
  | v :: rest => itemsReadBack_cons (readsBack v) (itemsReadBack rest)

private theorem membersReadBack : ∀ rest : List (String × Json), MembersReadBack rest
  | [] => membersReadBack_nil
  | (_, v) :: rest => membersReadBack_cons (readsBack v) (membersReadBack rest)

end

mutual

/-- A value within the limit keeps all its lists and objects. -/
theorem limit_reread (d : Nat) : ∀ v : Json, v.depth ≤ d → v.reread.limit d = v.reread
  | .null, _ => rfl
  | .bool _, _ => rfl
  | .number _, _ => rfl
  | .string _, _ => rfl
  | .array items, h => by
    simp only [depth] at h
    obtain ⟨k, rfl⟩ : ∃ k, d = k + 1 := ⟨d - 1, by omega⟩
    simp only [reread, Draft.limit]
    rw [limitItems_reread k items (by omega)]
  | .object members, h => by
    simp only [depth] at h
    obtain ⟨k, rfl⟩ : ∃ k, d = k + 1 := ⟨d - 1, by omega⟩
    simp only [reread, Draft.limit]
    rw [limitMembers_reread k members (by omega)]

private theorem limitItems_reread (d : Nat) :
    ∀ items : List Json, itemsDepth items ≤ d → Draft.limitItems d (rereadItems items) = rereadItems items
  | [], _ => rfl
  | v :: rest, h => by
    simp only [itemsDepth] at h
    simp only [rereadItems, Draft.limitItems]
    rw [limit_reread d v (by omega), limitItems_reread d rest (by omega)]

private theorem limitMembers_reread (d : Nat) :
    ∀ members : List (String × Json), membersDepth members ≤ d →
      Draft.limitMembers d (rereadMembers members) = rereadMembers members
  | [], _ => rfl
  | (k, v) :: rest, h => by
    simp only [membersDepth] at h
    simp only [rereadMembers, Draft.limitMembers]
    rw [limit_reread d v (by omega), limitMembers_reread d rest (by omega)]

end

/-- The text of a value is read to its end, up to what nests too deep. -/
theorem readDraft_limit (v : Json) : readDraft v.render = (v.reread.limit depthLimit, true) := by
  have hread := readsBack v (2 * v.render.length + 1) [] (by omega) stops_nil
  rw [List.append_nil] at hread
  simp only [readDraft, hread]
  rfl

/-- The text of a value that does not nest too deep is read as a whole. -/
theorem readDraft_render {v : Json} (h : v.depth ≤ depthLimit) : readDraft v.render = (v.reread, true) := by
  rw [readDraft_limit, limit_reread depthLimit v h]

/-- Decoding the text of a value is decoding what the value is read back as. -/
theorem decodeText_text {α : Type} (decode : Decoder α) {v : Json} (h : v.depth ≤ depthLimit) :
    decodeText decode v.text = decode v.reread := by
  rw [decodeText, text, String.toList_ofList, readDraft_render h]
  dsimp only
  cases decode v.reread <;> rfl


end Telemetry.Json
