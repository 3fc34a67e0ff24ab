import Bindery.Json.Basic

/-!
# Canonical JSON values

A value is canonical when the members of each of its objects are sorted by key, each key
once. The order of members carries no meaning in a canonical value.

* **`Json.canonical_canonical`** — making a value canonical twice is making it so once.
* **`Json.Canonical`** — a canonical value; **`Canonical.of`** makes one of any value.
-/

namespace Bindery.Json

/-- Members in strictly ascending order of their keys. -/
def Ascending (members : List (String × Json)) : Prop :=
  members.Pairwise fun a b => a.1 < b.1

/-- Inserting behind all keys appends. -/
theorem insertMember_append {key : String} {value : Json} {members : List (String × Json)}
    (h : ∀ m ∈ members, m.1 < key) :
    insertMember key value members = members ++ [(key, value)] := by
  induction members with
  | nil => rfl
  | cons head rest ih =>
    obtain ⟨k, v⟩ := head
    have less : k < key := h (k, v) (by simp)
    have notLess : ¬ key < k := String.lt_asymm less
    have notSame : key ≠ k := fun e => String.lt_irrefl k (e ▸ less)
    simp [insertMember, notLess, notSame, ih fun m hm => h m (by simp [hm])]

/-- The members after an insertion are the old ones and the new one. -/
theorem mem_insertMember {key : String} {value : Json} {members : List (String × Json)}
    {m : String × Json} (h : m ∈ insertMember key value members) :
    m = (key, value) ∨ m ∈ members := by
  induction members with
  | nil => simpa [insertMember] using h
  | cons head rest ih =>
    obtain ⟨k, v⟩ := head
    unfold insertMember at h
    split at h
    · simpa using h
    · split at h
      · rcases List.mem_cons.1 h with h | h
        · exact .inl h
        · exact .inr (List.mem_cons_of_mem _ h)
      · rcases List.mem_cons.1 h with h | h
        · exact .inr (h ▸ List.mem_cons_self ..)
        · rcases ih h with h | h
          · exact .inl h
          · exact .inr (List.mem_cons_of_mem _ h)

/-- Insertion keeps the members in ascending order. -/
theorem ascending_insertMember (key : String) (value : Json) {members : List (String × Json)}
    (h : Ascending members) : Ascending (insertMember key value members) := by
  induction members with
  | nil => simp [insertMember, Ascending]
  | cons head rest ih =>
    obtain ⟨k, v⟩ := head
    obtain ⟨first, tail⟩ := List.pairwise_cons.1 h
    unfold insertMember
    split
    · rename_i less
      refine List.pairwise_cons.2 ⟨?_, h⟩
      intro m hm
      rcases List.mem_cons.1 hm with rfl | hm
      · exact less
      · exact String.lt_trans less (first m hm)
    · split
      · rename_i same
        exact List.pairwise_cons.2 ⟨fun m hm => same ▸ first m hm, tail⟩
      · rename_i notLess notSame
        have greater : k < key := by
          refine Decidable.byContradiction fun notGreater => notSame ?_
          exact String.le_antisymm (String.not_lt.1 notGreater) (String.not_lt.1 notLess)
        refine List.pairwise_cons.2 ⟨?_, ih tail⟩
        intro m hm
        rcases mem_insertMember hm with rfl | hm
        · exact greater
        · exact first m hm


/-- Members whose keys ascend and whose values are canonical stay as they are. -/
theorem canonicalMembers_of_ascending {members : List (String × Json)} :
    (done : List (String × Json)) → Ascending (done ++ members) →
    (∀ m ∈ members, m.2.canonical = m.2) → canonicalMembers members done = done ++ members := by
  induction members with
  | nil => intro done _ _; simp [canonicalMembers]
  | cons head rest ih =>
    intro done ascending fixed
    obtain ⟨k, v⟩ := head
    have behind : ∀ m ∈ done, m.1 < k := fun m hm =>
      (List.pairwise_append.1 ascending).2.2 m hm (k, v) (by simp)
    rw [canonicalMembers, fixed (k, v) (by simp), insertMember_append behind,
      ih (done ++ [(k, v)]) (by simpa using ascending) fun m hm => fixed m (by simp [hm])]
    simp

mutual

/-- Making a value canonical twice is making it so once. -/
theorem canonical_canonical : (value : Json) → value.canonical.canonical = value.canonical
  | .array items => by
    rw [canonical, canonical, canonicalItems_canonicalItems items]
  | .object members => by
    obtain ⟨ascending, fixed⟩ := canonicalMembers_fixed members [] .nil (by simp)
    rw [canonical, canonical, canonicalMembers_of_ascending [] ascending fixed]
    rfl
  | .null | .bool _ | .number _ | .string _ => by simp [canonical]

/-- The same of the items of an array. -/
theorem canonicalItems_canonicalItems : (items : List Json) →
    canonicalItems (canonicalItems items) = canonicalItems items
  | [] => rfl
  | item :: items => by
    simp [canonicalItems, canonical_canonical item, canonicalItems_canonicalItems items]

/-- Members that were inserted one after another ascend, and their values are canonical. -/
theorem canonicalMembers_fixed : (members done : List (String × Json)) → Ascending done →
    (∀ m ∈ done, m.2.canonical = m.2) →
    Ascending (canonicalMembers members done)
      ∧ ∀ m ∈ canonicalMembers members done, m.2.canonical = m.2
  | [], done, ascending, fixed => ⟨ascending, fixed⟩
  | (key, value) :: members, done, ascending, fixed => by
    rw [canonicalMembers]
    refine canonicalMembers_fixed members _ (ascending_insertMember _ _ ascending) ?_
    intro m hm
    rcases mem_insertMember hm with rfl | hm
    · exact canonical_canonical value
    · exact fixed m hm

end

/-- A canonical value. -/
structure Canonical where
  value : Json
  fixed : value.canonical = value

/-- The canonical form of a value. -/
def Canonical.of (value : Json) : Canonical := ⟨value.canonical, canonical_canonical value⟩

end Bindery.Json
