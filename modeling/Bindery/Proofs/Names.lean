import Bindery.NodePath
import Mathlib.Data.List.Find
import Mathlib.Data.List.Nodup

/-! # Lists of named nodes

    The nodes of a scope are a list, and a reference finds the first node of
    its name.  Where names are distinct, finding is membership under that name
    (`find?_named_iff`) and a name sits in one place (`position_unique`); a
    renaming that merges no other name with that of a reference commutes with
    finding (`find?_map_renamed`). -/

namespace Bindery

variable {α β κ : Type}

/-- Names that tell the nodes of a scope apart and fit in a path. -/
structure ProperNames (names : List String) : Prop where
  distinct : names.Nodup
  valid : ∀ name ∈ names, NodePath.ValidName name

/-- What a mapped list holds in a place comes from there. -/
theorem getElem?_map_eq_some_iff {f : α → β} {l : List α} {i : Nat} {b : β} :
    (l.map f)[i]? = some b ↔ ∃ a, l[i]? = some a ∧ f a = b := by
  rw [List.getElem?_map, Option.map_eq_some_iff]

/-- Among distinct names a name sits in one place. -/
theorem position_unique {name : α → κ} {l : List α} {i j : Nat} {a b : α}
    (hl : (l.map name).Nodup) (hi : l[i]? = some a) (hj : l[j]? = some b)
    (hname : name a = name b) : i = j := by
  obtain ⟨hlen, -⟩ := List.getElem?_eq_some_iff.mp hi
  refine (List.getElem?_inj (by rwa [List.length_map]) hl).mp ?_
  rw [List.getElem?_map, List.getElem?_map, hi, hj]
  exact congrArg some hname

variable [DecidableEq κ]

/-- The node that is found has the name it is found under. -/
theorem name_of_find? {name : α → κ} {l : List α} {old : κ} {a : α}
    (h : l.find? (fun b => name b = old) = some a) : name a = old := by
  have := List.find?_some h
  exact of_decide_eq_true this

/-- Something is found under every name that occurs, and under no other. -/
theorem isSome_find?_iff {name : α → κ} {l : List α} {old : κ} :
    (l.find? (fun b => name b = old)).isSome ↔ old ∈ l.map name := by
  rw [List.find?_isSome, List.mem_map]
  constructor
  · rintro ⟨a, ha, h⟩; exact ⟨a, ha, of_decide_eq_true h⟩
  · rintro ⟨a, ha, h⟩; exact ⟨a, ha, decide_eq_true h⟩

/-- A name under which something is found occurs. -/
theorem mem_names_of_find? {name : α → κ} {l : List α} {old : κ} {a : α}
    (h : l.find? (fun b => name b = old) = some a) : old ∈ l.map name := by
  rw [← name_of_find? h]
  exact List.mem_map_of_mem (List.mem_of_find?_eq_some h)

/-- A name under which nothing is found does not occur. -/
theorem notMem_names_of_find? {name : α → κ} {l : List α} {old : κ}
    (h : l.find? (fun b => name b = old) = none) : old ∉ l.map name := by
  intro hmem
  obtain ⟨a, ha, heq⟩ := List.mem_map.mp hmem
  exact List.find?_eq_none.mp h a ha (decide_eq_true heq)

/-- Among distinct names the node of a name is the one that is found. -/
theorem find?_named_iff {name : α → κ} {l : List α} {old : κ} {a : α}
    (hl : (l.map name).Nodup) :
    l.find? (fun b => name b = old) = some a ↔ a ∈ l ∧ name a = old := by
  constructor
  · intro h
    exact ⟨List.mem_of_find?_eq_some h, name_of_find? h⟩
  · rintro ⟨ha, rfl⟩
    obtain ⟨b, hb⟩ := Option.isSome_iff_exists.mp
      (isSome_find?_iff.mpr (List.mem_map_of_mem (f := name) ha))
    have hmem := List.mem_of_find?_eq_some hb
    rw [hb, List.inj_on_of_nodup_map hl hmem ha (name_of_find? hb)]

/-- A list that repeats nothing: no item of its own and none that has been seen. -/
def RepeatsNothing (seen l : List α) : Prop := l.Nodup ∧ ∀ a ∈ l, a ∉ seen

/-- Nothing is repeated by an empty list. -/
theorem repeatsNothing_nil {seen : List α} : RepeatsNothing seen [] :=
  ⟨List.nodup_nil, fun _ h => (nomatch h)⟩

/-- A list repeats nothing when its first item is new and the rest, with that item
    seen, repeats nothing. -/
theorem repeatsNothing_cons {seen l : List α} {a : α} :
    RepeatsNothing seen (a :: l) ↔ a ∉ seen ∧ RepeatsNothing (a :: seen) l := by
  unfold RepeatsNothing
  rw [List.nodup_cons, List.forall_mem_cons]
  constructor
  · rintro ⟨⟨hmem, hnodup⟩, ha, hnew⟩
    refine ⟨ha, hnodup, fun b hb hseen => ?_⟩
    rcases List.mem_cons.mp hseen with rfl | hseen
    · exact hmem hb
    · exact hnew b hb hseen
  · rintro ⟨ha, hnodup, hnew⟩
    refine ⟨⟨fun hmem => hnew a hmem List.mem_cons_self, hnodup⟩, ha, fun b hb hseen => ?_⟩
    exact hnew b hb (List.mem_cons_of_mem a hseen)

/-- With nothing seen, only the items of the list itself count. -/
theorem repeatsNothing_iff_nodup {l : List α} : RepeatsNothing [] l ↔ l.Nodup :=
  ⟨fun h => h.1, fun h => ⟨h, fun _ _ hseen => (nomatch hseen)⟩⟩

/-- Finding commutes with a renaming under which no other name becomes that of
    the reference. -/
theorem find?_map_renamed {name : α → κ} {name' : β → κ} {g : α → β} {r : κ → κ}
    {l : List α} {old : κ} (hname : ∀ a ∈ l, name' (g a) = r (name a))
    (hold : ∀ a ∈ l, r (name a) = r old → name a = old) :
    (l.map g).find? (fun b => name' b = r old)
      = (l.find? (fun a => name a = old)).map g := by
  rw [List.find?_map]
  refine congrArg (Option.map g) (List.find?_congr fun a ha => ?_)
  show decide (name' (g a) = r old) = decide (name a = old)
  rw [hname a ha, decide_eq_decide]
  exact ⟨hold a ha, congrArg r⟩

end Bindery
