import Mathlib.Data.List.Perm.Basic
import Telemetry.Proofs.Json.Reading

/-! Values that state the same. A value can be written down with the members of its objects in any order, and its
text gives each double back as the one that the digits are read as. -/
namespace Telemetry.Json

section Lists

variable {α β γ : Type} {R : α → β → Prop} {xs : List α} {ys : List β}

/-- Lists have the same images if their items do, place by place. -/
theorem map_eq_of_forall₂ {f : α → γ} {g : β → γ} (h : List.Forall₂ (fun x y => f x = g y) xs ys) :
    xs.map f = ys.map g := by
  rw [← List.forall₂_eq_eq_eq, List.forall₂_map_left_iff, List.forall₂_map_right_iff]
  exact h

theorem exists_of_mem_forall₂ (h : List.Forall₂ R xs ys) {x : α} (hx : x ∈ xs) : ∃ y ∈ ys, R x y := by
  induction h with
  | nil => exact absurd hx List.not_mem_nil
  | cons hxy _ ih =>
    rcases List.mem_cons.1 hx with rfl | hx
    · exact ⟨_, List.mem_cons_self, hxy⟩
    · obtain ⟨y, hy, hxy⟩ := ih hx
      exact ⟨y, List.mem_cons_of_mem _ hy, hxy⟩

end Lists

/-- The second value states the first again: each double is replaced by its image, and the members of each object
come in any order. -/
inductive Restates (f : Float → Float) : Json → Json → Prop
  | null : Restates f .null .null
  | bool (b : Bool) : Restates f (.bool b) (.bool b)
  | int (n : Int) (fits : fitsWord n = true) : Restates f (.number (.int n fits)) (.number (.int n fits))
  | float {x y : Float} (hx : x.isFinite = true) (hy : y.isFinite = true) (h : f x = y) :
      Restates f (.number (.float x hx)) (.number (.float y hy))
  | string (s : String) : Restates f (.string s) (.string s)
  | array {xs ys : List Json} (h : List.Forall₂ (Restates f) xs ys) : Restates f (.array xs) (.array ys)
  | object {xs ys zs : List (String × Json)} (hkeys : xs.map Prod.fst = ys.map Prod.fst)
      (h : List.Forall₂ (Restates f) (xs.map Prod.snd) (ys.map Prod.snd)) (hperm : ys.Perm zs) :
      Restates f (.object xs) (.object zs)

namespace Restates

variable {f g : Float → Float}

/-- A relation that holds of scalars, and of lists and objects if it holds of their items and members. -/
structure Cases (f : Float → Float) (motive : Json → Json → Prop) : Prop where
  null : motive .null .null
  bool : ∀ b, motive (.bool b) (.bool b)
  int : ∀ n fits, motive (.number (.int n fits)) (.number (.int n fits))
  float : ∀ {x y} hx hy, f x = y → motive (.number (.float x hx)) (.number (.float y hy))
  string : ∀ s, motive (.string s) (.string s)
  array : ∀ {xs ys}, List.Forall₂ motive xs ys → motive (.array xs) (.array ys)
  object : ∀ {xs ys zs : List (String × Json)}, xs.map Prod.fst = ys.map Prod.fst →
    List.Forall₂ motive (xs.map Prod.snd) (ys.map Prod.snd) → ys.Perm zs → motive (.object xs) (.object zs)

section Cases

variable {motive : Json → Json → Prop}

mutual

/-- Such a relation holds of all values that state the same. -/
theorem Cases.of_restates (c : Cases f motive) : ∀ v w : Json, Restates f v w → motive v w
  | .null, _, .null => c.null
  | .bool _, _, .bool b => c.bool b
  | .number _, _, .int n fits => c.int n fits
  | .number _, _, .float hx hy h => c.float hx hy h
  | .string _, _, .string s => c.string s
  | .array xs, _, .array h => c.array (c.of_items xs _ h)
  | .object xs, _, .object hkeys h hperm => c.object hkeys (c.of_members xs _ h) hperm

private theorem Cases.of_items (c : Cases f motive) :
    ∀ xs ys : List Json, List.Forall₂ (Restates f) xs ys → List.Forall₂ motive xs ys
  | [], _, .nil => .nil
  | v :: xs, _, .cons h hrest => .cons (c.of_restates v _ h) (c.of_items xs _ hrest)

private theorem Cases.of_members (c : Cases f motive) : ∀ (xs : List (String × Json)) (ys : List Json),
    List.Forall₂ (Restates f) (xs.map Prod.snd) ys → List.Forall₂ motive (xs.map Prod.snd) ys
  | [], _, .nil => .nil
  | (_, v) :: xs, _, .cons h hrest => .cons (c.of_restates v _ h) (c.of_members xs _ hrest)

end

end Cases

section Same

mutual

/-- A value states itself if its doubles are kept. -/
theorem refl (hf : ∀ x, x.isFinite = true → f x = x) : ∀ v : Json, Restates f v v
  | .null => .null
  | .bool b => .bool b
  | .number (.int n fits) => .int n fits
  | .number (.float x hx) => .float hx hx (hf x hx)
  | .string s => .string s
  | .array items => .array (refl_items hf items)
  | .object members => .object rfl (refl_members hf members) (.refl members)

private theorem refl_items (hf : ∀ x, x.isFinite = true → f x = x) :
    ∀ items : List Json, List.Forall₂ (Restates f) items items
  | [] => .nil
  | v :: rest => .cons (refl hf v) (refl_items hf rest)

private theorem refl_members (hf : ∀ x, x.isFinite = true → f x = x) :
    ∀ members : List (String × Json), List.Forall₂ (Restates f) (members.map Prod.snd) (members.map Prod.snd)
  | [] => .nil
  | (_, v) :: rest => .cons (refl hf v) (refl_members hf rest)

end

/-- Only the images of finite doubles count. -/
theorem congr {v w : Json} (h : Restates f v w) (hfg : ∀ x, x.isFinite = true → f x = g x) : Restates g v w := by
  have hcases : Cases f (Restates g) := {
    null := .null
    bool := .bool
    int := .int
    float := fun hx hy h => .float hx hy (hfg _ hx ▸ h)
    string := .string
    array := .array
    object := .object }
  exact hcases.of_restates v w h

end Same

section Parts

variable {members : List (String × Json)} {w : Json}

theorem eq_null {v : Json} (h : Restates f v .null) : v = .null := by
  cases h
  rfl

theorem exists_items {xs : List Json} (h : Restates f (.array xs) w) :
    ∃ ys, w = .array ys ∧ List.Forall₂ (Restates f) xs ys := by
  cases h with
  | array h => exact ⟨_, rfl, h⟩

/-- The members of an object are stated again one by one, before they change places. -/
theorem exists_members (h : Restates f (.object members) w) :
    ∃ ys zs, w = .object zs ∧ ys.Perm zs ∧
      List.Forall₂ (fun m y => m.1 = y.1 ∧ Restates f m.2 y.2) members ys := by
  cases h with
  | @object _ ys zs hkeys h hperm =>
    refine ⟨ys, zs, rfl, hperm, ?_⟩
    clear hperm
    induction members generalizing ys with
    | nil =>
      obtain rfl := List.map_eq_nil_iff.1 hkeys.symm
      exact .nil
    | cons m rest ih =>
      obtain ⟨y, ys, rfl, hkey, hrest⟩ := List.map_eq_cons_iff.1 hkeys.symm
      obtain ⟨hvalue, hvalues⟩ := List.forall₂_cons.1 h
      exact .cons ⟨hkey.symm, hvalue⟩ (ih hrest.symm hvalues)

/-- The order of the members that are stated does not count either. -/
theorem of_perm {xs : List (String × Json)} (hperm : xs.Perm members) (h : Restates f (.object members) w) :
    Restates f (.object xs) w := by
  obtain ⟨ys, zs, rfl, hzs, hys⟩ := h.exists_members
  obtain ⟨us, hus, huys⟩ := List.perm_comp_forall₂ hperm hys
  refine .object (map_eq_of_forall₂ (hus.imp fun _ _ h => h.1)) ?_ (huys.trans hzs)
  rw [List.forall₂_map_left_iff, List.forall₂_map_right_iff]
  exact hus.imp fun _ _ h => h.2

/-- The only value under a key stays so, if it is a text. -/
theorem mem_iff_eq_string {key s : String} (hmem : ∀ v, (key, v) ∈ members ↔ v = .string s)
    (h : Restates f (.object members) w) : ∃ zs, w = .object zs ∧ ∀ v, (key, v) ∈ zs ↔ v = .string s := by
  obtain ⟨ys, zs, rfl, hzs, hys⟩ := h.exists_members
  refine ⟨zs, rfl, fun v => ?_⟩
  rw [← hzs.mem_iff]
  constructor
  · intro hv
    obtain ⟨⟨k, u⟩, hm, hkey, hvalue⟩ := exists_of_mem_forall₂ hys.flip hv
    obtain rfl : k = key := hkey
    obtain rfl := (hmem u).1 hm
    cases hvalue
    rfl
  · rintro rfl
    obtain ⟨⟨k, u⟩, hy, hkey, hvalue⟩ := exists_of_mem_forall₂ hys ((hmem _).2 rfl)
    obtain rfl : key = k := hkey
    cases hvalue
    exact hy

end Parts

section Depth

/-- The order of members does not count for how deep values nest. -/
theorem depth_eq {v w : Json} (h : Restates f v w) : w.depth = v.depth := by
  have hitems : ∀ {xs ys : List Json}, List.Forall₂ (fun v w => w.depth = v.depth) xs ys →
      itemsDepth ys = itemsDepth xs := by
    intro xs ys hxs
    induction hxs with
    | nil => rfl
    | cons hv _ ih => rw [itemsDepth, itemsDepth, hv, ih]
  have hmembers : ∀ members : List (String × Json), membersDepth members = itemsDepth (members.map Prod.snd) := by
    intro members
    induction members with
    | nil => rfl
    | cons m rest ih => rw [membersDepth, ih, List.map_cons, itemsDepth]
  have hperm : ∀ {xs ys : List Json}, xs.Perm ys → itemsDepth xs = itemsDepth ys := by
    intro xs ys hxs
    induction hxs with
    | nil => rfl
    | cons v _ ih => rw [itemsDepth, itemsDepth, ih]
    | swap v w rest => simp only [itemsDepth, Nat.max_left_comm]
    | trans _ _ ih₁ ih₂ => rw [ih₁, ih₂]
  have hcases : Cases f fun v w => w.depth = v.depth := {
    null := rfl
    bool := fun _ => rfl
    int := fun _ _ => rfl
    float := fun _ _ _ => rfl
    string := fun _ => rfl
    array := fun h => by rw [depth, depth, hitems h]
    object := fun _ h hzs => by
      rw [depth, depth, hmembers, hmembers, ← hitems h, hperm (hzs.map Prod.snd)] }
  exact hcases.of_restates v w h

end Depth

end Restates

section Text

mutual

/-- The value that the text of a value is read as. -/
def restored : Json → Json
  | .number (.float x hx) => .number (.float (stored x) (isFinite_stored hx))
  | .array items => .array (restoredItems items)
  | .object members => .object (restoredMembers members)
  | v => v

def restoredItems : List Json → List Json
  | [] => []
  | v :: rest => restored v :: restoredItems rest

def restoredMembers : List (String × Json) → List (String × Json)
  | [] => []
  | (k, v) :: rest => (k, restored v) :: restoredMembers rest

end

mutual

/-- The text of a value is read as another value, member by member. -/
theorem reread_eq : ∀ v : Json, v.reread = v.restored.draft .stream
  | .null => rfl
  | .bool _ => rfl
  | .number (.int _ _) => rfl
  | .number (.float _ _) => rfl
  | .string _ => rfl
  | .array items => by rw [reread, restored, draft, rereadItems_eq items]
  | .object members => by rw [reread, restored, draft, rereadMembers_eq members]

theorem rereadItems_eq : ∀ items : List Json, rereadItems items = draftItems .stream (restoredItems items)
  | [] => rfl
  | v :: rest => by rw [rereadItems, restoredItems, draftItems, reread_eq v, rereadItems_eq rest]

theorem rereadMembers_eq :
    ∀ members : List (String × Json), rereadMembers members = draftMembers .stream (restoredMembers members)
  | [] => rfl
  | (k, v) :: rest => by rw [rereadMembers, restoredMembers, draftMembers, reread_eq v, rereadMembers_eq rest]

end

theorem restoredItems_eq_map (items : List Json) : restoredItems items = items.map restored := by
  induction items with
  | nil => rfl
  | cons v rest ih => rw [restoredItems, ih, List.map_cons]

theorem restoredMembers_eq_map (members : List (String × Json)) :
    restoredMembers members = members.map fun m => (m.1, m.2.restored) := by
  induction members with
  | nil => rfl
  | cons m rest ih => rw [restoredMembers, ih, List.map_cons]

/-- What the text of a value is read as states the value, with each double as its digits are read. -/
theorem Restates.restored {v w : Json} (h : Restates id v w) : Restates stored v w.restored := by
  have hcases : Restates.Cases id fun v w => Restates stored v w.restored := {
    null := .null
    bool := .bool
    int := .int
    float := fun hx hy h => .float hx (isFinite_stored hy) (congrArg stored h)
    string := .string
    array := fun h => by
      rw [Json.restored, restoredItems_eq_map]
      exact .array (List.forall₂_map_right_iff.2 h)
    object := fun {xs ys zs} hkeys h hperm => by
      rw [Json.restored, restoredMembers_eq_map]
      refine .object ?_ ?_ (hperm.map fun m => (m.1, m.2.restored))
      · rw [hkeys, List.map_map]
        rfl
      · rw [List.map_map]
        show List.Forall₂ _ _ (ys.map (Json.restored ∘ Prod.snd))
        rw [← List.map_map]
        exact List.forall₂_map_right_iff.2 h }
  exact hcases.of_restates v w h

end Text

end Telemetry.Json
