import Telemetry.Proofs.Json.Restated

/-! What the text of a value is parsed as: the value with each double as its digits are read, or nothing if lists and
objects nest too deep in it. -/
namespace Telemetry.Json

section Doubles

mutual

/-- The doubles in a value. -/
def doubles : Json → List Float
  | .number (.float x _) => [x]
  | .array items => itemsDoubles items
  | .object members => membersDoubles members
  | _ => []

def itemsDoubles : List Json → List Float
  | [] => []
  | v :: rest => doubles v ++ itemsDoubles rest

def membersDoubles : List (String × Json) → List Float
  | [] => []
  | (_, v) :: rest => doubles v ++ membersDoubles rest

end

mutual

/-- A value comes back as it is if its doubles do. -/
theorem restored_eq_self_iff : ∀ v : Json, v.restored = v ↔ ∀ x ∈ v.doubles, stored x = x
  | .null => iff_of_true rfl (List.forall_mem_nil _)
  | .bool _ => iff_of_true rfl (List.forall_mem_nil _)
  | .string _ => iff_of_true rfl (List.forall_mem_nil _)
  | .number (.int _ _) => iff_of_true rfl (List.forall_mem_nil _)
  | .number (.float x _) => by simp [restored, doubles]
  | .array items => by rw [restored, array.injEq, restoredItems_eq_self_iff items, doubles]
  | .object members => by rw [restored, object.injEq, restoredMembers_eq_self_iff members, doubles]

theorem restoredItems_eq_self_iff :
    ∀ items : List Json, restoredItems items = items ↔ ∀ x ∈ itemsDoubles items, stored x = x
  | [] => iff_of_true rfl (List.forall_mem_nil _)
  | v :: rest => by
    rw [restoredItems, List.cons.injEq, itemsDoubles, List.forall_mem_append, restored_eq_self_iff v,
      restoredItems_eq_self_iff rest]

theorem restoredMembers_eq_self_iff :
    ∀ members : List (String × Json), restoredMembers members = members ↔
      ∀ x ∈ membersDoubles members, stored x = x
  | [] => iff_of_true rfl (List.forall_mem_nil _)
  | (k, v) :: rest => by
    rw [restoredMembers, List.cons.injEq, Prod.mk.injEq, membersDoubles, List.forall_mem_append,
      restored_eq_self_iff v, restoredMembers_eq_self_iff rest]
    simp only [true_and]

end

end Doubles

section Canonical

theorem canonicalItems_iff {items : List Json} : CanonicalItems items ↔ ∀ v ∈ items, v.Canonical := by
  induction items with
  | nil => exact iff_of_true trivial (List.forall_mem_nil _)
  | cons v rest ih => rw [CanonicalItems, ih, List.forall_mem_cons]

theorem canonicalMembers_iff {members : List (String × Json)} :
    CanonicalMembers members ↔ ∀ m ∈ members, m.2.Canonical := by
  induction members with
  | nil => exact iff_of_true trivial (List.forall_mem_nil _)
  | cons m rest ih => rw [CanonicalMembers, ih, List.forall_mem_cons]

mutual

/-- A value whose keys ascend is kept as it is. -/
theorem Canonical.canonical_eq : ∀ {v : Json}, v.Canonical → v.canonical = v
  | .null, _ => rfl
  | .bool _, _ => rfl
  | .number _, _ => rfl
  | .string _, _ => rfl
  | .array _, h => congrArg array (canonicalItems_eq h)
  | .object _, ⟨hkeys, h⟩ => by
    rw [canonical, canonicalMembers_eq h, Keyed.ofList_eq_self hkeys]

private theorem canonicalItems_eq : ∀ {items : List Json}, CanonicalItems items → canonicalItems items = items
  | [], _ => rfl
  | _ :: _, ⟨h, hrest⟩ => congrArg₂ List.cons h.canonical_eq (canonicalItems_eq hrest)

private theorem canonicalMembers_eq :
    ∀ {members : List (String × Json)}, CanonicalMembers members → canonicalMembers members = members
  | [], _ => rfl
  | (_, _) :: _, ⟨h, hrest⟩ =>
    congrArg₂ List.cons (congrArg (Prod.mk _) h.canonical_eq) (canonicalMembers_eq hrest)

end

mutual

theorem Canonical.restored : ∀ {v : Json}, v.Canonical → v.restored.Canonical
  | .null, _ => trivial
  | .bool _, _ => trivial
  | .number (.int _ _), _ => trivial
  | .number (.float _ _), _ => trivial
  | .string _, _ => trivial
  | .array _, h => canonicalItems_restored h
  | .object members, ⟨hkeys, h⟩ => by
    refine ⟨?_, canonicalMembers_restored h⟩
    rw [restoredMembers_eq_map]
    exact List.pairwise_map.2 hkeys

private theorem canonicalItems_restored :
    ∀ {items : List Json}, CanonicalItems items → CanonicalItems (restoredItems items)
  | [], _ => trivial
  | _ :: _, ⟨h, hrest⟩ => ⟨h.restored, canonicalItems_restored hrest⟩

private theorem canonicalMembers_restored :
    ∀ {members : List (String × Json)}, CanonicalMembers members → CanonicalMembers (restoredMembers members)
  | [], _ => trivial
  | (_, _) :: _, ⟨h, hrest⟩ => ⟨h.restored, canonicalMembers_restored hrest⟩

end

end Canonical

section Depth

theorem depth_restored (v : Json) : v.restored.depth = v.depth :=
  (Restates.refl (f := id) (fun _ _ => rfl) v).restored.depth_eq

variable {delivery : Delivery}

mutual

/-- A value beyond the limit is broken where it nests too deep. -/
theorem toJson?_limit (d : Nat) : ∀ v : Json, d < v.depth → ((v.draft delivery).limit d).toJson? = none
  | .null, h | .bool _, h | .number _, h | .string _, h => absurd h (Nat.not_lt_zero d)
  | .array items, h => by
    cases d with
    | zero => rfl
    | succ d =>
      have hitems := itemsToJson?_limit d items (Nat.lt_of_succ_lt_succ h)
      rw [draft, Draft.limit, Draft.toJson?, hitems, Option.map_none]
  | .object members, h => by
    cases d with
    | zero => rfl
    | succ d =>
      have hmembers := membersToJson?_limit d members (Nat.lt_of_succ_lt_succ h)
      rw [draft, Draft.limit, Draft.toJson?, hmembers, Option.map_none]

private theorem itemsToJson?_limit (d : Nat) : ∀ items : List Json, d < itemsDepth items →
    Draft.itemsToJson? (Draft.limitItems d (draftItems delivery items)) = none
  | [], h => absurd h (Nat.not_lt_zero d)
  | v :: rest, h => by
    rw [draftItems, Draft.limitItems, Draft.itemsToJson?]
    rcases lt_max_iff.1 h with h | h
    · rw [toJson?_limit d v h]
      rfl
    · rw [itemsToJson?_limit d rest h]
      cases Draft.toJson? _ <;> rfl

private theorem membersToJson?_limit (d : Nat) : ∀ members : List (String × Json), d < membersDepth members →
    Draft.membersToJson? (Draft.limitMembers d (draftMembers delivery members)) = none
  | [], h => absurd h (Nat.not_lt_zero d)
  | (k, v) :: rest, h => by
    rw [draftMembers, Draft.limitMembers, Draft.membersToJson?]
    rcases lt_max_iff.1 h with h | h
    · rw [toJson?_limit d v h]
      rfl
    · rw [membersToJson?_limit d rest h]
      cases Draft.toJson? _ <;> rfl

end

end Depth

/-- The text of a value is parsed exactly if the value does not nest too deep. -/
theorem parse?_text (v : Json) : parse? v.text = if v.depth ≤ depthLimit then some v.restored else none := by
  have hparse : parse? v.text = ((v.restored.draft .stream).limit depthLimit).toJson? := by
    rw [parse?, text, String.toList_ofList, parseChars, readDraft_limit, reread_eq]
    rfl
  rw [hparse]
  split
  · rw [← reread_eq, limit_reread depthLimit v ‹_›, reread_eq, Draft.toJson?_draft]
  · refine toJson?_limit depthLimit v.restored ?_
    rw [depth_restored]
    omega

end Telemetry.Json
