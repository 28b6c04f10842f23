/-! Lists of entries under ascending text keys. Texts compare by code point, which is also the order of
their UTF-8 bytes. -/
namespace Telemetry.Keyed

variable {α β : Type}

/-- Each key is smaller than all keys after it; so no key occurs twice. -/
def Ascending (entries : List (String × α)) : Prop :=
  entries.Pairwise fun a b => a.1 < b.1

/-- Puts an entry in its place; an entry that has the key is replaced. -/
def insert (key : String) (value : α) : List (String × α) → List (String × α)
  | [] => [(key, value)]
  | (k, v) :: rest =>
    if key < k then (key, value) :: (k, v) :: rest
    else if key = k then (key, value) :: rest
    else (k, v) :: insert key value rest

/-- Inserts entries in the given order; of those with one key the last stays. -/
def ofList (entries : List (String × α)) : List (String × α) :=
  entries.foldl (fun done entry => insert entry.1 entry.2 done) []

theorem mem_insert {key : String} {value : α} {entries : List (String × α)} {e : String × α}
    (h : e ∈ insert key value entries) : e = (key, value) ∨ e ∈ entries := by
  induction entries with
  | nil => exact .inl (by simpa [insert] using h)
  | cons head rest ih =>
    obtain ⟨k, v⟩ := head
    unfold insert at h
    split at h
    · simpa using h
    · split at h
      · rcases List.mem_cons.1 h with h | h
        · exact .inl h
        · exact .inr (List.mem_cons_of_mem _ h)
      · rcases List.mem_cons.1 h with h | h
        · exact .inr (h ▸ List.mem_cons_self)
        · exact (ih h).imp id (List.mem_cons_of_mem _)

/-- The key has the new value, and all other keys have the values they had. -/
theorem lookup_insert (key : String) (value : α) (entries : List (String × α)) (k : String) :
    (insert key value entries).lookup k = if k = key then some value else entries.lookup k := by
  induction entries with
  | nil => grind [insert]
  | cons head rest ih =>
    unfold insert
    split <;> grind

/-- Of the values that are listed with a key the last one counts. -/
theorem lookup_ofList (entries : List (String × α)) (key : String) :
    (ofList entries).lookup key = entries.reverse.lookup key := by
  rw [ofList, List.foldl_eq_foldr_reverse]
  induction entries.reverse with
  | nil => rfl
  | cons e rest ih =>
    rw [List.foldr_cons, lookup_insert, ih]
    grind

/-- A new key is put between the others. -/
theorem insert_perm {key : String} (value : α) {entries : List (String × α)} (h : ∀ e ∈ entries, e.1 ≠ key) :
    (insert key value entries).Perm ((key, value) :: entries) := by
  induction entries with
  | nil => exact .refl _
  | cons head rest ih =>
    obtain ⟨k, v⟩ := head
    unfold insert
    split
    · exact .refl _
    · split
      · rename_i heq
        exact absurd heq.symm (h _ List.mem_cons_self)
      · have hrest := ih fun e he => h e (List.mem_cons_of_mem _ he)
        exact (hrest.cons (k, v)).trans (.swap _ _ _)

/-- An entry whose key is greater than all others is put at the end. -/
theorem insert_of_lt {key : String} {value : α} {entries : List (String × α)}
    (h : ∀ e ∈ entries, e.1 < key) : insert key value entries = entries ++ [(key, value)] := by
  induction entries with
  | nil => rfl
  | cons e rest ih =>
    obtain ⟨k, v⟩ := e
    have hlt : k < key := h (k, v) List.mem_cons_self
    rw [insert, if_neg (String.lt_asymm hlt), if_neg (fun heq : key = k => String.lt_irrefl k (heq ▸ hlt)),
      ih fun e he => h e (List.mem_cons_of_mem _ he), List.cons_append]

/-- Entries whose keys ascend are collected as they are. -/
theorem ofList_eq_self {entries : List (String × α)} (h : Ascending entries) : ofList entries = entries := by
  suffices ∀ done : List (String × α), Ascending (done ++ entries) →
      entries.foldl (fun done entry => insert entry.1 entry.2 done) done = done ++ entries from
    this [] h
  clear h
  induction entries with
  | nil => exact fun done _ => (List.append_nil done).symm
  | cons e rest ih =>
    intro done h
    have hlast : insert e.1 e.2 done = done ++ [e] :=
      insert_of_lt fun d hd => (List.pairwise_append.1 h).2.2 d hd e List.mem_cons_self
    have happend : done ++ e :: rest = (done ++ [e]) ++ rest := by rw [List.append_assoc, List.singleton_append]
    rw [List.foldl_cons, hlast, happend]
    exact ih _ (happend ▸ h)

/-- Nothing is collected that is not listed. -/
theorem mem_of_mem_ofList {entries : List (String × α)} {e : String × α} (h : e ∈ ofList entries) : e ∈ entries := by
  suffices ∀ done : List (String × α), e ∈ entries.foldl (fun done entry => insert entry.1 entry.2 done) done →
      e ∈ done ∨ e ∈ entries from
    (this [] h).resolve_left List.not_mem_nil
  clear h
  induction entries with
  | nil => exact fun _ h => .inl h
  | cons head rest ih =>
    intro done h
    rcases ih _ h with h | h
    · rcases mem_insert h with rfl | h
      · exact .inr List.mem_cons_self
      · exact .inl h
    · exact .inr (List.mem_cons_of_mem _ h)

/-- Insertion keeps keys ascending. -/
theorem Ascending.insert {entries : List (String × α)} (h : Ascending entries) (key : String) (value : α) :
    Ascending (insert key value entries) := by
  induction entries with
  | nil => exact List.pairwise_singleton _ _
  | cons head rest ih =>
    obtain ⟨k, v⟩ := head
    obtain ⟨hk, hrest⟩ := List.pairwise_cons.1 h
    unfold Keyed.insert
    split
    · rename_i hlt
      refine List.pairwise_cons.2 ⟨fun e he => ?_, h⟩
      rcases List.mem_cons.1 he with rfl | he
      · exact hlt
      · exact String.lt_trans hlt (hk e he)
    · rename_i hge
      split
      · rename_i heq
        exact List.pairwise_cons.2 ⟨fun e he => heq ▸ hk e he, hrest⟩
      · rename_i hne
        refine List.pairwise_cons.2 ⟨fun e he => ?_, ih hrest⟩
        rcases mem_insert he with rfl | he
        · exact String.not_le.1 fun hle => hne (String.le_antisymm hle (String.not_lt.1 hge))
        · exact hk e he

/-- Entries whose keys ascend stand in one order only. -/
theorem Ascending.eq_of_perm {xs ys : List (String × α)} (hxs : Ascending xs) (hys : Ascending ys)
    (h : xs.Perm ys) : xs = ys :=
  List.Perm.eq_of_pairwise (fun _ _ _ _ hlt hgt => absurd hgt (String.lt_asymm hlt)) hxs hys h

/-- An entry is found under its key. -/
theorem Ascending.lookup_eq_some_iff {entries : List (String × α)} (h : Ascending entries) {key : String} {value : α} :
    entries.lookup key = some value ↔ (key, value) ∈ entries := by
  induction entries with
  | nil => simp
  | cons e rest ih =>
    obtain ⟨hhead, hrest⟩ := List.pairwise_cons.1 h
    have hne : ∀ x ∈ rest, x.1 ≠ e.1 := fun x hx heq => String.lt_irrefl e.1 (heq ▸ hhead x hx)
    have hlookup := ih hrest
    grind

/-- No key occurs twice. -/
theorem Ascending.nodup {entries : List (String × α)} (h : Ascending entries) :
    (entries.map Prod.fst).Nodup := by
  refine List.pairwise_map.2 (h.imp fun hlt heq => ?_)
  exact String.lt_irrefl _ (heq ▸ hlt)

/-- Entries whose keys ascend are the same if under each key they have the same value. -/
theorem Ascending.eq_of_lookup {xs ys : List (String × α)} (hxs : Ascending xs) (hys : Ascending ys)
    (h : ∀ key, xs.lookup key = ys.lookup key) : xs = ys := by
  have hmem : ∀ e, e ∈ xs ↔ e ∈ ys := fun e => by
    rw [← hxs.lookup_eq_some_iff, ← hys.lookup_eq_some_iff, h]
  have hnodup : ∀ {entries : List (String × α)}, Ascending entries → entries.Nodup := fun hentries =>
    List.Pairwise.of_map Prod.fst (fun _ _ hne heq => hne (congrArg Prod.fst heq)) hentries.nodup
  exact hxs.eq_of_perm hys ((List.perm_ext_iff_of_nodup (hnodup hxs) (hnodup hys)).2 hmem)

/-- Entries collected from a list have ascending keys. -/
theorem ascending_ofList (entries : List (String × α)) : Ascending (ofList entries) := by
  suffices ∀ done : List (String × α), Ascending done →
      Ascending (entries.foldl (fun done entry => Keyed.insert entry.1 entry.2 done) done) from
    this [] List.Pairwise.nil
  induction entries with
  | nil => exact fun _ h => h
  | cons e rest ih => exact fun done h => ih _ (h.insert e.1 e.2)

end Telemetry.Keyed
