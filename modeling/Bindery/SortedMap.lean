/-!
# Maps with sorted keys

A finite map as the list of its entries in ascending key order. The order of a key is
that of its `SortKey.rank`, a list of texts compared from left to right, so one map
type serves plain names and structured paths alike. Two maps with the same entries are
equal, because the order is part of the type.

* **`SortKey`** — how a key is ranked; distinct keys have distinct ranks.
* **`SortedMap.insert`** — put an entry in its place; the last value of a key wins.
* **`SortedMap.erase`** — take the entry of a key away.
* **`SortedMap.get?`** — the value of a key.
-/

namespace Bindery

/-- Keys that are ordered by a list of texts. -/
class SortKey (K : Type) where
  rank : K → List String
  rank_injective : ∀ {a b : K}, rank a = rank b → a = b

instance : SortKey String where
  rank name := [name]
  rank_injective h := by simpa using h

instance : SortKey (List String) where
  rank names := names
  rank_injective h := h

variable {K V : Type} [SortKey K]

/-- A map: its entries in strictly ascending order of their keys. -/
structure SortedMap (K V : Type) [SortKey K] where
  entries : List (K × V)
  ascending : entries.Pairwise fun a b => SortKey.rank a.1 < SortKey.rank b.1

namespace SortedMap

/-- The map without entries. -/
def empty : SortedMap K V := ⟨[], .nil⟩

instance : Inhabited (SortedMap K V) := ⟨empty⟩

/-- Two maps are equal when their entries are. -/
@[ext]
theorem ext {a b : SortedMap K V} (h : a.entries = b.entries) : a = b := by
  cases a; cases b; cases h; rfl

instance [DecidableEq K] [DecidableEq V] : DecidableEq (SortedMap K V) := fun a b =>
  if h : a.entries = b.entries then isTrue (ext h)
  else isFalse fun e => h (e ▸ rfl)

/-- Put an entry into a list of entries, in front of the first larger key. -/
def insertEntry (key : K) (value : V) : List (K × V) → List (K × V)
  | [] => [(key, value)]
  | (k, v) :: rest =>
    if SortKey.rank key < SortKey.rank k then (key, value) :: (k, v) :: rest
    else if SortKey.rank key = SortKey.rank k then (key, value) :: rest
    else (k, v) :: insertEntry key value rest

/-- The keys after an insertion are the old ones and the new one. -/
theorem mem_insertEntry {key : K} {value : V} {entries : List (K × V)} {e : K × V}
    (h : e ∈ insertEntry key value entries) : e = (key, value) ∨ e ∈ entries := by
  induction entries with
  | nil => simpa [insertEntry] using h
  | cons head rest ih =>
    obtain ⟨k, v⟩ := head
    unfold insertEntry at h
    split at h
    · simpa using h
    · split at h
      · rcases List.mem_cons.1 h with h | h
        · exact .inl h
        · exact .inr (List.mem_cons_of_mem _ h)
      · rcases List.mem_cons.1 h with h | h
        · exact .inr (h ▸ List.mem_cons_self ..)
        · rcases ih h with h | h
          · exact .inl h
          · exact .inr (List.mem_cons_of_mem _ h)

/-- Insertion keeps the entries in ascending order. -/
theorem ascending_insertEntry (key : K) (value : V) {entries : List (K × V)}
    (h : entries.Pairwise fun a b => SortKey.rank a.1 < SortKey.rank b.1) :
    (insertEntry key value entries).Pairwise
      fun a b => SortKey.rank a.1 < SortKey.rank b.1 := by
  induction entries with
  | nil => simp [insertEntry]
  | cons head rest ih =>
    obtain ⟨k, v⟩ := head
    obtain ⟨first, tail⟩ := List.pairwise_cons.1 h
    unfold insertEntry
    split
    · rename_i less
      refine List.pairwise_cons.2 ⟨?_, h⟩
      intro e he
      rcases List.mem_cons.1 he with rfl | he
      · exact less
      · exact List.lt_trans less (first e he)
    · split
      · rename_i same
        exact List.pairwise_cons.2 ⟨fun e he => same ▸ first e he, tail⟩
      · rename_i notLess notSame
        have greater : SortKey.rank k < SortKey.rank key := by
          rcases List.le_iff_lt_or_eq.1 (List.not_lt.1 notLess) with lt | eq
          · exact lt
          · exact absurd eq.symm notSame
        refine List.pairwise_cons.2 ⟨?_, ih tail⟩
        intro e he
        rcases mem_insertEntry he with rfl | he
        · exact greater
        · exact first e he

/-- Put an entry into a map, replacing the entry of the same key. -/
def insert (map : SortedMap K V) (key : K) (value : V) : SortedMap K V :=
  ⟨insertEntry key value map.entries, ascending_insertEntry key value map.ascending⟩

/-- A map without the entry of a key. -/
def erase [DecidableEq K] (map : SortedMap K V) (key : K) : SortedMap K V :=
  ⟨map.entries.filter (·.1 ≠ key), map.ascending.filter _⟩

/-- The map of a list of entries; of several entries with one key the last is kept. -/
def ofList (entries : List (K × V)) : SortedMap K V :=
  entries.foldl (fun map e => map.insert e.1 e.2) empty

/-- The entries in ascending order of their keys. -/
def toList (map : SortedMap K V) : List (K × V) := map.entries

/-- The value of a key. -/
def get? [DecidableEq K] (map : SortedMap K V) (key : K) : Option V :=
  (map.entries.find? (·.1 = key)).map (·.2)

/-- Whether the map has a key. -/
def contains [DecidableEq K] (map : SortedMap K V) (key : K) : Bool :=
  map.entries.any (·.1 = key)

/-- The keys in ascending order. -/
def keys (map : SortedMap K V) : List K := map.entries.map (·.1)

end SortedMap

end Bindery
