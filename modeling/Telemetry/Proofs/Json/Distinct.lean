import Telemetry.Proofs.Json.Reading

/-! Different values have different texts, also where a double is not read back as itself: reading shows where each
part of a text ends, and a double is told apart by its digits. -/
namespace Telemetry.Json

/-- Where two texts agree, the values end at the same place and are read alike. -/
theorem reread_eq_of_render_append {v w : Json} {t u : List Char} (h : v.render ++ t = w.render ++ u)
    (ht : Stops t) (hu : Stops u) : v.reread = w.reread ∧ t = u := by
  have hv := readsBack v (2 * v.render.length + 2 * w.render.length) t (by omega) ht
  have hw := readsBack w (2 * v.render.length + 2 * w.render.length) u (by omega) hu
  rw [h, hw] at hv
  obtain ⟨hread, htail⟩ := Prod.mk.inj hv
  exact ⟨hread.symm, (Option.some.inj htail).symm⟩

theorem reread_eq_of_render {v w : Json} (h : v.render = w.render) : v.reread = w.reread :=
  (reread_eq_of_render_append (congrArg (· ++ []) h) stops_nil stops_nil).1

/-- Texts of a value and what follows it agree part by part. -/
theorem render_eq_of_append {v w : Json} {t u : List Char} (h : v.render ++ t = w.render ++ u)
    (ht : Stops t) (hu : Stops u) : v.render = w.render ∧ t = u := by
  obtain rfl := (reread_eq_of_render_append h ht hu).2
  exact ⟨List.append_cancel_right h, rfl⟩

theorem Number.render_injective {n m : Number} (h : n.render = m.render) : n = m := by
  have hread := readNumber_render n stops_nil
  rw [h, readNumber_render m stops_nil] at hread
  have hnumber : m.reread = n.reread := Draft.number.inj (Prod.mk.inj (Option.some.inj hread)).1
  cases n with
  | int n hn =>
    cases m with
    | int m hm => exact hnumber.symm
    | float y hy => cases hnumber
  | float x hx =>
    cases m with
    | int m hm => cases hnumber
    | float y hy =>
      obtain rfl := finite_injective h
      rfl

/-- Keys are told apart by their texts, whatever follows the colon. -/
theorem key_eq_of_render {k l : String} {t u : List Char}
    (h : renderString k ++ ':' :: t = renderString l ++ ':' :: u) : k = l ∧ t = u := by
  have hread := readKey_renderString k t
  rw [h, readKey_renderString l u] at hread
  obtain ⟨hkey, htail⟩ := Prod.mk.inj (Option.some.inj hread)
  exact ⟨(Option.some.inj hkey).symm, htail.symm⟩

/-- Items are told apart one after the other, and so is what follows them. -/
private theorem item_eq_of_render {v w : Json} {rest others : List Json}
    (h : v.render ++ renderItems rest = w.render ++ renderItems others) :
    v.render = w.render ∧ renderItems rest = renderItems others := by
  have hrest := stops_renderItems rest []
  have hothers := stops_renderItems others []
  rw [List.append_nil] at hrest hothers
  exact render_eq_of_append h hrest hothers

/-- Members are told apart one after the other, and so is what follows them. -/
private theorem member_eq_of_render {k l : String} {v w : Json} {rest others : List (String × Json)}
    (h : renderString k ++ ':' :: (v.render ++ renderMembers rest) =
      renderString l ++ ':' :: (w.render ++ renderMembers others)) :
    k = l ∧ v.render = w.render ∧ renderMembers rest = renderMembers others := by
  have hrest := stops_renderMembers rest []
  have hothers := stops_renderMembers others []
  rw [List.append_nil] at hrest hothers
  obtain ⟨hkey, hvalue⟩ := key_eq_of_render h
  exact ⟨hkey, render_eq_of_append hvalue hrest hothers⟩

mutual

/-- Different values have different texts. -/
theorem render_injective : ∀ v w : Json, v.render = w.render → v = w
  | .null, w, h => by
    have hread := reread_eq_of_render h
    cases w with
    | null => rfl
    | _ => cases hread
  | .bool b, w, h => by
    have hread := reread_eq_of_render h
    cases w with
    | bool c => exact congrArg bool (Draft.bool.inj hread)
    | _ => cases hread
  | .number n, w, h => by
    have hread := reread_eq_of_render h
    cases w with
    | number m => exact congrArg number (Number.render_injective h)
    | _ => cases hread
  | .string s, w, h => by
    have hread := reread_eq_of_render h
    cases w with
    | string t => exact congrArg string (Draft.string.inj hread)
    | _ => cases hread
  | .array [], w, h => by
    have hread := reread_eq_of_render h
    cases w with
    | array others =>
      cases others with
      | nil => rfl
      | cons w others => cases hread
    | _ => cases hread
  | .array (v :: rest), w, h => by
    have hread := reread_eq_of_render h
    cases w with
    | array others =>
      cases others with
      | nil => cases hread
      | cons w others =>
        obtain ⟨hitem, hrest⟩ := item_eq_of_render (List.cons.inj h).2
        rw [render_injective v w hitem, renderItems_injective rest others hrest]
    | _ => cases hread
  | .object [], w, h => by
    have hread := reread_eq_of_render h
    cases w with
    | object others =>
      cases others with
      | nil => rfl
      | cons m others => cases hread
    | _ => cases hread
  | .object ((k, v) :: rest), w, h => by
    have hread := reread_eq_of_render h
    cases w with
    | object others =>
      cases others with
      | nil => cases hread
      | cons m others =>
        obtain ⟨hkey, hvalue, hrest⟩ := member_eq_of_render (List.cons.inj h).2
        rw [hkey, render_injective v m.2 hvalue, renderMembers_injective rest others hrest]
    | _ => cases hread

private theorem renderItems_injective :
    ∀ rest others : List Json, renderItems rest = renderItems others → rest = others
  | [], [], _ => rfl
  | [], _ :: _, h => absurd (List.cons.inj h).1 (by decide)
  | _ :: _, [], h => absurd (List.cons.inj h).1 (by decide)
  | v :: rest, w :: others, h => by
    obtain ⟨hitem, hrest⟩ := item_eq_of_render (List.cons.inj h).2
    rw [render_injective v w hitem, renderItems_injective rest others hrest]

private theorem renderMembers_injective :
    ∀ rest others : List (String × Json), renderMembers rest = renderMembers others → rest = others
  | [], [], _ => rfl
  | [], _ :: _, h => absurd (List.cons.inj h).1 (by decide)
  | _ :: _, [], h => absurd (List.cons.inj h).1 (by decide)
  | (k, v) :: rest, (l, w) :: others, h => by
    obtain ⟨hkey, hvalue, hrest⟩ := member_eq_of_render (List.cons.inj h).2
    rw [hkey, render_injective v w hvalue, renderMembers_injective rest others hrest]

end

theorem text_injective {v w : Json} (h : v.text = w.text) : v = w :=
  render_injective v w (String.ofList_injective h)

end Telemetry.Json
