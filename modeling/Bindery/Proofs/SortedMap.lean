import Bindery.Proofs.Names

/-! # Looking keys up — one entry for each key

    The keys of a sorted map ascend strictly, so each has one entry and looking
    it up gives the value of that entry (`get?_eq_some_iff`).  The map of a list
    has the entries of the list, where equal keys come with equal values
    (`get?_ofList`). -/

namespace Bindery.SortedMap

variable {K V : Type} [SortKey K] {map : SortedMap K V} {key key' : K} {value : V}

/-- No key has two entries. -/
theorem nodup_keys (map : SortedMap K V) : (map.entries.map (·.1)).Nodup := by
  refine List.pairwise_map.mpr (map.ascending.imp fun {a b} hlt heq => ?_)
  rw [heq] at hlt
  exact List.lt_irrefl _ hlt

/-! ## The map of a list -/

/-- An inserted entry is there, and of other entries at most the values change. -/
theorem exists_mem_insertEntry {entries : List (K × V)}
    (h : key = key' ∨ ∃ v, (key', v) ∈ entries) :
    ∃ v, (key', v) ∈ insertEntry key value entries := by
  induction entries with
  | nil =>
      obtain rfl | ⟨v, hv⟩ := h
      · exact ⟨value, List.mem_cons_self⟩
      · exact nomatch hv
  | cons head rest ih =>
      obtain ⟨k, v⟩ := head
      unfold insertEntry
      split
      · obtain rfl | ⟨v', hv'⟩ := h
        · exact ⟨value, List.mem_cons_self⟩
        · exact ⟨v', List.mem_cons_of_mem _ hv'⟩
      · split
        · rename_i hsame
          obtain rfl := SortKey.rank_injective hsame
          obtain rfl | ⟨v', hv'⟩ := h
          · exact ⟨value, List.mem_cons_self⟩
          · rcases List.mem_cons.mp hv' with heq | hv'
            · rw [(Prod.mk.inj heq).1]
              exact ⟨value, List.mem_cons_self⟩
            · exact ⟨v', List.mem_cons_of_mem _ hv'⟩
        · obtain rfl | ⟨v', hv'⟩ := h
          · obtain ⟨v', hv'⟩ := ih (.inl rfl)
            exact ⟨v', List.mem_cons_of_mem _ hv'⟩
          · rcases List.mem_cons.mp hv' with heq | hv'
            · exact ⟨v', heq ▸ List.mem_cons_self⟩
            · obtain ⟨v'', hv''⟩ := ih (.inr ⟨v', hv'⟩)
              exact ⟨v'', List.mem_cons_of_mem _ hv''⟩

/-- The entries of the map of a list are items of the list. -/
theorem mem_of_mem_entries_ofList {entries : List (K × V)} {e : K × V}
    (h : e ∈ (ofList entries).entries) : e ∈ entries := by
  have hfold : ∀ (entries : List (K × V)) (map : SortedMap K V),
      e ∈ (entries.foldl (fun map e => map.insert e.1 e.2) map).entries →
        e ∈ map.entries ∨ e ∈ entries := by
    intro entries
    induction entries with
    | nil => exact fun map h => .inl h
    | cons head rest ih =>
        intro map h
        rcases ih (map.insert head.1 head.2) h with h | h
        · rcases mem_insertEntry h with rfl | h
          · exact .inr List.mem_cons_self
          · exact .inl h
        · exact .inr (List.mem_cons_of_mem _ h)
  rcases hfold entries empty h with h | h
  · exact nomatch h
  · exact h

/-- The map of a list has the keys of the list. -/
theorem exists_mem_entries_ofList {entries : List (K × V)} (h : (key, value) ∈ entries) :
    ∃ v, (key, v) ∈ (ofList entries).entries := by
  have hfold : ∀ (entries : List (K × V)) (map : SortedMap K V),
      (∃ v, (key, v) ∈ map.entries) ∨ (∃ v, (key, v) ∈ entries) →
        ∃ v, (key, v) ∈ (entries.foldl (fun map e => map.insert e.1 e.2) map).entries := by
    intro entries
    induction entries with
    | nil => exact fun map h => h.resolve_right fun ⟨v, hv⟩ => (nomatch hv)
    | cons head rest ih =>
        rintro map (h | ⟨v, hv⟩)
        · exact ih (map.insert head.1 head.2) (.inl (exists_mem_insertEntry (.inr h)))
        · rcases List.mem_cons.mp hv with rfl | hv
          · exact ih _ (.inl (exists_mem_insertEntry (.inl rfl)))
          · exact ih (map.insert head.1 head.2) (.inr ⟨v, hv⟩)
  exact hfold entries empty (.inr ⟨value, h⟩)

/-- There is one map with the entries of a list, in whatever order these come. -/
theorem ofList_of_perm {entries : List (K × V)} (h : entries.Perm map.entries) :
    ofList entries = map := by
  have hkeys : (entries.map (·.1)).Nodup := (h.map _).nodup_iff.mpr map.nodup_keys
  have hperm : (ofList entries).entries.Perm map.entries := by
    refine .trans ?_ h
    refine (List.perm_ext_iff_of_nodup (ofList entries).nodup_keys.of_map hkeys.of_map).mpr ?_
    rintro ⟨k, v⟩
    refine ⟨mem_of_mem_entries_ofList, fun hmem => ?_⟩
    obtain ⟨v', hv'⟩ := exists_mem_entries_ofList hmem
    rwa [List.inj_on_of_nodup_map hkeys hmem (mem_of_mem_entries_ofList hv') rfl]
  refine ext (hperm.eq_of_pairwise ?_ (ofList entries).ascending map.ascending)
  intro a b _ _ hab hba
  exact absurd hba (List.lt_asymm hab)

/-- Maps that have the same entries of some kind list them the same. -/
theorem filter_entries_eq {other : SortedMap K V} {kept : K × V → Bool}
    (h : ∀ e, kept e = true → (e ∈ map.entries ↔ e ∈ other.entries)) :
    map.entries.filter kept = other.entries.filter kept := by
  have hperm : (map.entries.filter kept).Perm (other.entries.filter kept) := by
    refine (List.perm_ext_iff_of_nodup (map.nodup_keys.of_map.filter _)
      (other.nodup_keys.of_map.filter _)).mpr fun e => ?_
    rw [List.mem_filter, List.mem_filter]
    exact and_congr_left (h e)
  refine hperm.eq_of_pairwise ?_ (map.ascending.filter _) (other.ascending.filter _)
  intro a b _ _ hab hba
  exact absurd hba (List.lt_asymm hab)

/-! ## Looking up -/

variable [DecidableEq K]

/-- The value of a key is that of its entry. -/
theorem get?_eq_some_iff : map.get? key = some value ↔ (key, value) ∈ map.entries := by
  unfold get?
  rw [Option.map_eq_some_iff]
  constructor
  · rintro ⟨⟨k, v⟩, hfound, rfl⟩
    obtain ⟨hmem, rfl⟩ := (find?_named_iff map.nodup_keys).mp hfound
    exact hmem
  · intro h
    exact ⟨(key, value), (find?_named_iff map.nodup_keys).mpr ⟨h, rfl⟩, rfl⟩

/-- A map is what it gives for each key. -/
theorem eq_of_get? {other : SortedMap K V} (h : ∀ key, map.get? key = other.get? key) :
    map = other := by
  have hsame := @filter_entries_eq _ _ _ map other (fun _ => true) fun ⟨key, value⟩ _ => by
    rw [← get?_eq_some_iff, ← get?_eq_some_iff, h]
  rw [List.filter_true, List.filter_true] at hsame
  exact ext hsame

/-- A map has the keys that it has values for. -/
theorem contains_iff : map.contains key = true ↔ ∃ value, map.get? key = some value := by
  unfold contains
  rw [List.any_eq_true]
  constructor
  · rintro ⟨⟨k, v⟩, hmem, hkey⟩
    obtain rfl : k = key := of_decide_eq_true hkey
    exact ⟨v, get?_eq_some_iff.mpr hmem⟩
  · rintro ⟨v, hv⟩
    exact ⟨(key, v), get?_eq_some_iff.mp hv, decide_eq_true rfl⟩

/-- A map has the keys that it lists. -/
theorem contains_iff_mem_keys : map.contains key = true ↔ key ∈ map.keys := by
  simp only [contains, keys, List.any_eq_true, decide_eq_true_eq, List.mem_map]

/-- A key without a value is no key of the map. -/
theorem get?_eq_none_iff : map.get? key = none ↔ map.contains key = false := by
  rw [← Bool.not_eq_true, contains_iff, Option.eq_none_iff_forall_ne_some, not_exists]

/-- An insertion changes the value of its key only. -/
theorem get?_insert (map : SortedMap K V) (key : K) (value : V) (other : K) :
    (map.insert key value).get? other = if other = key then some value else map.get? other := by
  have hcons : ∀ (k : K) (v : V) (rest : List (K × V)),
      (((k, v) :: rest).find? (·.1 = other)).map (·.2)
        = if other = k then some v else (rest.find? (·.1 = other)).map (·.2) := by
    intro k v rest
    rw [List.find?_cons]
    by_cases hk : other = k
    · rw [if_pos hk, decide_eq_true hk.symm]
      rfl
    · rw [if_neg hk, decide_eq_false (Ne.symm hk)]
  have hentries : ∀ entries : List (K × V),
      ((insertEntry key value entries).find? (·.1 = other)).map (·.2)
        = if other = key then some value else (entries.find? (·.1 = other)).map (·.2) := by
    intro entries
    induction entries with
    | nil => exact hcons key value []
    | cons head rest ih =>
        obtain ⟨k, v⟩ := head
        unfold insertEntry
        split
        · exact hcons key value _
        · split
          · rename_i hsame
            obtain rfl := SortKey.rank_injective hsame
            rw [hcons, hcons]
            by_cases hkey : other = key
            · rw [if_pos hkey, if_pos hkey]
            · rw [if_neg hkey, if_neg hkey, if_neg hkey]
          · rename_i hother
            have hne : k ≠ key := fun h => hother (congrArg SortKey.rank h.symm)
            rw [hcons, ih, hcons]
            by_cases hkey : other = key
            · rw [if_pos hkey, if_pos hkey, if_neg fun hk => hne (hk.symm.trans hkey)]
            · rw [if_neg hkey, if_neg hkey]
  exact hentries map.entries

/-- Where one value is inserted for several keys, each of them has it. -/
theorem get?_foldl_insert (keys : List K) (value : V) (map : SortedMap K V) (other : K) :
    (keys.foldl (fun map key => map.insert key value) map).get? other
      = if other ∈ keys then some value else map.get? other := by
  induction keys generalizing map with
  | nil => exact (if_neg List.not_mem_nil).symm
  | cons key keys ih =>
      rw [List.foldl_cons, ih, get?_insert, if_congr List.mem_cons rfl rfl]
      by_cases hkey : other = key
      · rw [if_pos hkey, ite_self, if_pos (.inl hkey)]
      · rw [if_neg hkey]
        exact if_congr (or_iff_right hkey).symm rfl rfl

/-- What is taken away is the value of its key only. -/
theorem get?_erase (map : SortedMap K V) (key other : K) :
    (map.erase key).get? other = if other = key then none else map.get? other := by
  have hmem : ∀ v, (map.erase key).get? other = some v
      ↔ other ≠ key ∧ map.get? other = some v := by
    intro v
    rw [get?_eq_some_iff, get?_eq_some_iff, and_comm]
    exact List.mem_filter.trans (and_congr_right' decide_eq_true_iff)
  ext v
  rw [hmem]
  split
  · rename_i hkey
    exact iff_of_false (fun h => h.1 hkey) (by simp)
  · rename_i hkey
    exact and_iff_right hkey

/-- The map of a list gives each key its value in the list, where equal keys come with
    equal values. -/
theorem get?_ofList {entries : List (K × V)}
    (hvalues : ∀ e ∈ entries, ∀ e' ∈ entries, e.1 = e'.1 → e.2 = e'.2) :
    (ofList entries).get? key = some value ↔ (key, value) ∈ entries := by
  rw [get?_eq_some_iff]
  constructor
  · exact mem_of_mem_entries_ofList
  · intro h
    obtain ⟨v, hv⟩ := exists_mem_entries_ofList h
    obtain rfl : v = value := hvalues _ (mem_of_mem_entries_ofList hv) _ h rfl
    exact hv

end Bindery.SortedMap
