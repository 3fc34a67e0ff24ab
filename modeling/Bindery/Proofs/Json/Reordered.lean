import Bindery.Json.Canonical
import Bindery.Proofs.Except
import Bindery.Tree.Decode
import Mathlib.Order.MinMax

/-! # Reordered values — the order of members carries no meaning

    The members of an object are a list, but readers may see them in another
    order than their writer put them.  `Json.Reorders` relates two values that
    differ in nothing else, at any depth.  A value whose keys are distinct in
    every object is reordered by its canonical form (`reorders_canonical`), and
    all its reorderings have one canonical form (`Reorders.canonical_eq`) and
    one depth (`Reorders.depth_eq`). -/

namespace Bindery.Json

/-! ## The relation -/

mutual

/-- A value and the same value with the members of its objects in any order. -/
def Reorders : Json → Json → Prop
  | .array items, .array others => ReordersItems items others
  | .object members, .object others =>
    ∃ same, ReordersMembers members same ∧ same.Perm others
  | value, other => value = other

/-- Items and the same items, each reordered. -/
def ReordersItems : List Json → List Json → Prop
  | [], others => others = []
  | item :: items, others =>
    ∃ other rest, others = other :: rest ∧ item.Reorders other ∧ ReordersItems items rest

/-- Members and the same members in the same order, the value of each reordered. -/
def ReordersMembers : List (String × Json) → List (String × Json) → Prop
  | [], others => others = []
  | (key, value) :: members, others => ∃ other rest, others = (key, other) :: rest
    ∧ value.Reorders other ∧ ReordersMembers members rest

end

mutual

/-- The keys of every object in a value are distinct. -/
def Distinct : Json → Prop
  | .array items => DistinctItems items
  | .object members => (members.map (·.1)).Nodup ∧ DistinctMembers members
  | _ => True

/-- The keys of every object in some items are distinct. -/
def DistinctItems : List Json → Prop
  | [] => True
  | item :: items => item.Distinct ∧ DistinctItems items

/-- The keys of every object in the values of some members are distinct. -/
def DistinctMembers : List (String × Json) → Prop
  | [] => True
  | (_, value) :: members => value.Distinct ∧ DistinctMembers members

end

/-- Members and the same members in any order, the value of each reordered. -/
def MembersReorder (members others : List (String × Json)) : Prop :=
  ∃ same, ReordersMembers members same ∧ same.Perm others

variable {value other : Json} {items : List Json} {members others same : List (String × Json)}

theorem distinctItems_iff : DistinctItems items ↔ ∀ item ∈ items, item.Distinct := by
  induction items with
  | nil => simp [DistinctItems]
  | cons item items ih => rw [DistinctItems, ih, List.forall_mem_cons]

theorem distinctMembers_iff : DistinctMembers members ↔ ∀ m ∈ members, m.2.Distinct := by
  induction members with
  | nil => simp [DistinctMembers]
  | cons head members ih =>
      obtain ⟨key, value⟩ := head
      rw [DistinctMembers, ih, List.forall_mem_cons]

theorem reordersItems_iff {others : List Json} :
    ReordersItems items others ↔ List.Forall₂ Reorders items others := by
  induction items generalizing others with
  | nil => rw [ReordersItems, List.forall₂_nil_left_iff]
  | cons item items ih =>
      rw [ReordersItems, List.forall₂_cons_left_iff]
      constructor
      · rintro ⟨other, rest, rfl, hitem, hitems⟩
        exact ⟨other, rest, hitem, ih.mp hitems, rfl⟩
      · rintro ⟨other, rest, hitem, hitems, rfl⟩
        exact ⟨other, rest, rfl, hitem, ih.mpr hitems⟩

theorem reordersMembers_iff : ReordersMembers members others
    ↔ List.Forall₂ (fun m n => n.1 = m.1 ∧ m.2.Reorders n.2) members others := by
  induction members generalizing others with
  | nil => rw [ReordersMembers, List.forall₂_nil_left_iff]
  | cons head members ih =>
      obtain ⟨key, value⟩ := head
      rw [ReordersMembers, List.forall₂_cons_left_iff]
      constructor
      · rintro ⟨other, rest, rfl, hvalue, hmembers⟩
        exact ⟨(key, other), rest, ⟨rfl, hvalue⟩, ih.mp hmembers, rfl⟩
      · rintro ⟨⟨key', other⟩, rest, ⟨hkey, hvalue⟩, hmembers, rfl⟩
        obtain rfl : key' = key := hkey
        exact ⟨other, rest, rfl, hvalue, ih.mpr hmembers⟩

/-! ## What a value is reordered to -/

/-- A value that is no list and no object is reordered to itself alone. -/
theorem reorders_iff_eq (hitems : ∀ items, value ≠ .array items)
    (hmembers : ∀ members, value ≠ .object members) : value.Reorders other ↔ other = value := by
  cases value with
  | array items => exact absurd rfl (hitems items)
  | object members => exact absurd rfl (hmembers members)
  | _ => cases other <;> simp [Reorders, eq_comm]

theorem reorders_string {text : String} : (Json.string text).Reorders other ↔ other = .string text :=
  reorders_iff_eq nofun nofun

theorem reorders_number {number : Number} :
    (Json.number number).Reorders other ↔ other = .number number :=
  reorders_iff_eq nofun nofun

theorem reorders_bool {truth : Bool} : (Json.bool truth).Reorders other ↔ other = .bool truth :=
  reorders_iff_eq nofun nofun

theorem reorders_null : Json.null.Reorders other ↔ other = .null := reorders_iff_eq nofun nofun

theorem reorders_array : (Json.array items).Reorders other
    ↔ ∃ others, other = .array others ∧ List.Forall₂ Reorders items others := by
  cases other <;> simp [Reorders, reordersItems_iff]

theorem reorders_object : (Json.object members).Reorders other
    ↔ ∃ others, other = .object others ∧ MembersReorder members others := by
  cases other <;> simp [Reorders, MembersReorder]

/-- Reordered members have the same keys. -/
theorem ReordersMembers.keys_eq (h : ReordersMembers members others) :
    others.map (·.1) = members.map (·.1) := by
  induction reordersMembers_iff.mp h with
  | nil => rfl
  | cons hhead _ ih => rw [List.map_cons, List.map_cons, hhead.1, ih (reordersMembers_iff.mpr ‹_›)]

namespace MembersReorder

/-- Reordering keeps the keys. -/
theorem keys_perm (h : MembersReorder members others) : (members.map (·.1)).Perm (others.map (·.1)) := by
  obtain ⟨same, hsame, hperm⟩ := h
  rw [← hsame.keys_eq]
  exact hperm.map _

/-- A member is there under its key, with its value reordered. -/
theorem exists_mem {key : String} (h : MembersReorder members others)
    (hmem : (key, value) ∈ members) : ∃ other, (key, other) ∈ others ∧ value.Reorders other := by
  obtain ⟨same, hsame, hperm⟩ := h
  obtain ⟨⟨key', other⟩, hother, hkey, hvalue⟩ :=
    exists_of_forall₂_left (reordersMembers_iff.mp hsame) hmem
  obtain rfl : key' = key := hkey
  exact ⟨other, hperm.mem_iff.mp hother, hvalue⟩

/-- What is left of the members without one of them reorders what is left of the others. -/
theorem filter_ne {key : String} {rest : List (String × Json)}
    (h : MembersReorder ((key, value) :: rest) others) (hkey : key ∉ rest.map (·.1)) :
    MembersReorder rest (others.filter (·.1 ≠ key)) := by
  obtain ⟨same, ⟨other, same, rfl, -, hsame⟩, hperm⟩ := h
  refine ⟨same, hsame, ?_⟩
  have hrest : ((key, other) :: same).filter (·.1 ≠ key) = same := by
    rw [List.filter_cons_of_neg (by simp), List.filter_eq_self]
    intro m hm
    refine decide_eq_true fun heq => hkey ?_
    rw [← hsame.keys_eq, ← heq]
    exact List.mem_map_of_mem hm
  rw [← hrest]
  exact hperm.filter _

end MembersReorder

mutual

/-- Leaving everything where it is reorders a value. -/
theorem reorders_refl : (value : Json) → value.Reorders value
  | .array items => reorders_array.mpr ⟨items, rfl, reordersItems_iff.mp (reordersItems_refl items)⟩
  | .object members =>
    reorders_object.mpr ⟨members, rfl, members, reordersMembers_refl members, .refl _⟩
  | .null => reorders_null.mpr rfl
  | .bool _ => reorders_bool.mpr rfl
  | .number _ => reorders_number.mpr rfl
  | .string _ => reorders_string.mpr rfl

theorem reordersItems_refl : (items : List Json) → ReordersItems items items
  | [] => rfl
  | item :: items => ⟨item, items, rfl, reorders_refl item, reordersItems_refl items⟩

theorem reordersMembers_refl : (members : List (String × Json)) → ReordersMembers members members
  | [] => rfl
  | (_, value) :: members =>
    ⟨value, members, rfl, reorders_refl value, reordersMembers_refl members⟩

end

/-! ## Depth -/

theorem depth_lt_of_mem_items {item : Json} (h : item ∈ items) :
    item.depth < (Json.array items).depth := by
  suffices hle : item.depth ≤ depthItems items by rw [depth]; omega
  induction items with
  | nil => exact nomatch h
  | cons head items ih =>
      rw [depthItems]
      rcases List.mem_cons.mp h with rfl | h
      · exact le_max_left _ _
      · exact le_max_of_le_right (ih h)

theorem depthMembers_le_iff {bound : Nat} :
    depthMembers members ≤ bound ↔ ∀ m ∈ members, m.2.depth ≤ bound := by
  induction members with
  | nil => simp [depthMembers]
  | cons head members ih =>
      obtain ⟨key, value⟩ := head
      rw [depthMembers, max_le_iff, ih, List.forall_mem_cons]

theorem depth_lt_of_mem_members {key : String} (h : (key, value) ∈ members) :
    value.depth < (Json.object members).depth := by
  rw [depth]
  exact Nat.lt_succ_of_le (depthMembers_le_iff.mp le_rfl _ h)

/-- Members in another order are as deep. -/
theorem depthMembers_perm (h : members.Perm others) :
    depthMembers members = depthMembers others := by
  apply le_antisymm <;> refine depthMembers_le_iff.mpr fun m hm => ?_
  · exact depthMembers_le_iff.mp le_rfl m (h.mem_iff.mp hm)
  · exact depthMembers_le_iff.mp le_rfl m (h.mem_iff.mpr hm)

mutual

/-- Reordering keeps the depth. -/
theorem Reorders.depth_eq : {value other : Json} → value.Reorders other → other.depth = value.depth
  | .array items, other, h => by
    obtain ⟨others, rfl, hitems⟩ := reorders_array.mp h
    rw [depth, depth, ReordersItems.depth_eq (reordersItems_iff.mpr hitems)]
  | .object members, other, h => by
    obtain ⟨others, rfl, same, hsame, hperm⟩ := reorders_object.mp h
    rw [depth, depth, ← depthMembers_perm hperm, ReordersMembers.depth_eq hsame]
  | .null, other, h => by rw [reorders_null.mp h]
  | .bool _, other, h => by rw [reorders_bool.mp h]
  | .number _, other, h => by rw [reorders_number.mp h]
  | .string _, other, h => by rw [reorders_string.mp h]

theorem ReordersItems.depth_eq : {items others : List Json} → ReordersItems items others →
    depthItems others = depthItems items
  | [], _, h => by rw [h]
  | item :: items, others, h => by
    obtain ⟨other, rest, rfl, hitem, hitems⟩ := h
    rw [depthItems, depthItems, Reorders.depth_eq hitem, ReordersItems.depth_eq hitems]

theorem ReordersMembers.depth_eq : {members others : List (String × Json)} →
    ReordersMembers members others → depthMembers others = depthMembers members
  | [], _, h => by rw [h]
  | (key, value) :: members, others, h => by
    obtain ⟨other, rest, rfl, hvalue, hmembers⟩ := h
    rw [depthMembers, depthMembers, Reorders.depth_eq hvalue, ReordersMembers.depth_eq hmembers]

end

/-! ## Canonical form -/

/-- Members that ascend have distinct keys. -/
theorem Ascending.nodup (h : Ascending members) : (members.map (·.1)).Nodup := by
  refine List.pairwise_map.mpr (List.Pairwise.imp (fun {a b} hlt heq => ?_) h)
  rw [heq] at hlt
  exact String.lt_irrefl _ hlt

/-- There is one way to order members ascendingly. -/
theorem Ascending.eq_of_perm (h : Ascending members) (h' : Ascending others)
    (hperm : members.Perm others) : members = others := by
  have hsorted : members.Pairwise fun a b => a.1 < b.1 := h
  refine hperm.eq_of_pairwise ?_ hsorted h'
  intro a b _ _ hab hba
  exact absurd hba (String.lt_asymm hab)

/-- A member of a new key is added to the others. -/
theorem insertMember_perm {key : String} (h : key ∉ members.map (·.1)) :
    (insertMember key value members).Perm ((key, value) :: members) := by
  induction members with
  | nil => exact .refl _
  | cons head rest ih =>
      obtain ⟨k, v⟩ := head
      rw [List.map_cons, List.mem_cons, not_or] at h
      unfold insertMember
      split
      · exact .refl _
      · rw [if_neg h.1]
        exact ((ih h.2).cons (k, v)).trans (.swap _ _ _)

/-- A member with its value in canonical form. -/
def canonicalMember (m : String × Json) : String × Json := (m.1, m.2.canonical)

/-- Inserting members of new keys one after another adds them all, in canonical form. -/
theorem canonicalMembers_perm {done : List (String × Json)}
    (h : ((members ++ done).map (·.1)).Nodup) :
    (canonicalMembers members done).Perm (members.map canonicalMember ++ done) := by
  induction members generalizing done with
  | nil => exact .refl _
  | cons head members ih =>
      obtain ⟨key, value⟩ := head
      have hnew : key ∉ done.map (·.1) := by
        rw [List.cons_append, List.map_cons, List.nodup_cons, List.map_append, List.mem_append,
          not_or] at h
        exact h.1.2
      have hinsert : (insertMember key value.canonical done).Perm ((key, value.canonical) :: done) :=
        insertMember_perm hnew
      rw [canonicalMembers]
      refine (ih ?_).trans ((hinsert.append_left _).trans List.perm_middle)
      exact (((hinsert.append_left members).trans List.perm_middle).map (·.1)).nodup_iff.mpr h

/-- Members of distinct keys are ordered, in canonical form. -/
theorem canonicalMembers_nil_perm (h : (members.map (·.1)).Nodup) :
    (canonicalMembers members []).Perm (members.map canonicalMember) := by
  have hperm : (canonicalMembers members []).Perm (members.map canonicalMember ++ []) :=
    canonicalMembers_perm (by rwa [List.append_nil])
  rwa [List.append_nil] at hperm

/-- Members in canonical form ascend. -/
theorem ascending_canonicalMembers (members : List (String × Json)) :
    Ascending (canonicalMembers members []) :=
  (canonicalMembers_fixed members [] .nil (fun _ h => nomatch h)).1

mutual

/-- **CANONICAL FORM**: the canonical form of a value with distinct keys reorders it. -/
theorem reorders_canonical : (value : Json) → value.Distinct → value.Reorders value.canonical
  | .array items, h => by
    rw [canonical, reorders_array]
    exact ⟨_, rfl, reordersItems_iff.mp (reordersItems_canonical items h)⟩
  | .object members, h => by
    rw [canonical, reorders_object]
    exact ⟨_, rfl, _, reordersMembers_canonical members h.2, (canonicalMembers_nil_perm h.1).symm⟩
  | .null, _ => reorders_null.mpr rfl
  | .bool _, _ => reorders_bool.mpr rfl
  | .number _, _ => reorders_number.mpr rfl
  | .string _, _ => reorders_string.mpr rfl

theorem reordersItems_canonical : (items : List Json) → DistinctItems items →
    ReordersItems items (canonicalItems items)
  | [], _ => rfl
  | item :: items, h => ⟨item.canonical, canonicalItems items, rfl,
    reorders_canonical item h.1, reordersItems_canonical items h.2⟩

theorem reordersMembers_canonical : (members : List (String × Json)) → DistinctMembers members →
    ReordersMembers members (members.map canonicalMember)
  | [], _ => rfl
  | (_, value) :: members, h => ⟨value.canonical, members.map canonicalMember, rfl,
    reorders_canonical value h.1, reordersMembers_canonical members h.2⟩

end

mutual

/-- Reordering a value with distinct keys keeps its canonical form. -/
theorem Reorders.canonical_eq : {value other : Json} → value.Distinct → value.Reorders other →
    other.canonical = value.canonical
  | .array items, other, hd, h => by
    obtain ⟨others, rfl, hitems⟩ := reorders_array.mp h
    rw [canonical, canonical, ReordersItems.canonical_eq hd (reordersItems_iff.mpr hitems)]
  | .object members, other, hd, h => by
    obtain ⟨others, rfl, hothers⟩ := reorders_object.mp h
    have hkeys := hothers.keys_perm.nodup_iff.mp hd.1
    obtain ⟨same, hsame, hperm⟩ := hothers
    rw [canonical, canonical]
    refine congrArg Json.object (Ascending.eq_of_perm (ascending_canonicalMembers _)
      (ascending_canonicalMembers _) ?_)
    refine (canonicalMembers_nil_perm hkeys).trans ?_
    refine (hperm.symm.map canonicalMember).trans ?_
    rw [ReordersMembers.canonical_eq hd.2 hsame]
    exact (canonicalMembers_nil_perm hd.1).symm
  | .null, other, _, h => by rw [reorders_null.mp h]
  | .bool _, other, _, h => by rw [reorders_bool.mp h]
  | .number _, other, _, h => by rw [reorders_number.mp h]
  | .string _, other, _, h => by rw [reorders_string.mp h]

theorem ReordersItems.canonical_eq : {items others : List Json} → DistinctItems items →
    ReordersItems items others → canonicalItems others = canonicalItems items
  | [], _, _, h => by rw [h]
  | item :: items, others, hd, h => by
    obtain ⟨other, rest, rfl, hitem, hitems⟩ := h
    rw [canonicalItems, canonicalItems, Reorders.canonical_eq hd.1 hitem,
      ReordersItems.canonical_eq hd.2 hitems]

theorem ReordersMembers.canonical_eq : {members others : List (String × Json)} →
    DistinctMembers members → ReordersMembers members others →
    others.map canonicalMember = members.map canonicalMember
  | [], _, _, h => by rw [h]
  | (key, value) :: members, others, hd, h => by
    obtain ⟨other, rest, rfl, hvalue, hmembers⟩ := h
    rw [List.map_cons, List.map_cons, canonicalMember, canonicalMember,
      Reorders.canonical_eq hd.1 hvalue, ReordersMembers.canonical_eq hd.2 hmembers]

end

mutual

/-- In canonical form the keys of every object are distinct. -/
theorem distinct_canonical : (value : Json) → value.canonical.Distinct
  | .array items => by
    rw [canonical]
    exact distinctItems_canonical items
  | .object members => by
    rw [canonical]
    exact ⟨(ascending_canonicalMembers members).nodup,
      distinctMembers_iff.mpr (distinct_canonicalMembers members [] fun _ h => nomatch h)⟩
  | .null | .bool _ | .number _ | .string _ => trivial

theorem distinctItems_canonical : (items : List Json) → DistinctItems (canonicalItems items)
  | [] => trivial
  | item :: items => ⟨distinct_canonical item, distinctItems_canonical items⟩

theorem distinct_canonicalMembers : (members done : List (String × Json)) →
    (∀ m ∈ done, m.2.Distinct) → ∀ m ∈ canonicalMembers members done, m.2.Distinct
  | [], _, h => h
  | (_, value) :: members, done, h => by
    rw [canonicalMembers]
    refine distinct_canonicalMembers members _ fun m hm => ?_
    rcases mem_insertMember hm with rfl | hm
    · exact distinct_canonical value
    · exact h m hm

end

end Bindery.Json
