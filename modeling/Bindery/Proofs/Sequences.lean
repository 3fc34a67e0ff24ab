import Bindery.Proofs.Assignment
import Bindery.Proofs.Encoding

/-! # Sequences — tags that count from a start

    A source that counts gives the sibling in a position the start and as much
    more as there are siblings in front of it.  `RoomFor` says which positions
    get a number at all: the format has to be unsigned and the number has to fit
    both the format and a word of 64 bits, so that the wider format ends early.
    Room in the last position is room in all, which makes the condition on a
    whole collection one on its length (`exists_assigned_iff_roomFor`).

    Numbers that fit a format are told apart by their bytes
    (`key_tagBehind_inj`).  All siblings get new tags in one place, so none of
    them collide, whatever tags there were (`apply_sequential`). -/

namespace Bindery

/-- There is room for a number behind so many others: the format is unsigned, and the number
    fits both the format and a word of 64 bits. -/
def NumberFormat.RoomFor (size : NumberFormat) (start : UInt64) (behind : Nat) : Prop :=
  size.isUnsigned = true ∧ start.toNat + behind < min (wordCount (8 * size.size)) (wordCount 64)

/-- Room in the last position is room in all. -/
theorem NumberFormat.forall_roomFor_iff {size : NumberFormat} {start : UInt64} {n : Nat} :
    (∀ i < n, size.RoomFor start i) ↔ n = 0
      ∨ size.isUnsigned = true
        ∧ start.toNat + n - 1 < min (wordCount (8 * size.size)) (wordCount 64) := by
  constructor
  · intro hroom
    rcases Nat.eq_zero_or_pos n with hn | hn
    · exact .inl hn
    · rw [Nat.add_sub_assoc hn]
      exact .inr (hroom (n - 1) (Nat.sub_one_lt_of_lt hn))
  · rintro (rfl | ⟨hunsigned, hlast⟩) i hi
    · exact absurd hi (Nat.not_lt_zero i)
    · exact ⟨hunsigned, lt_of_le_of_lt (by omega) hlast⟩

/-- The members of a collection with tags by position. -/
theorem Program.siblings_withTags {program : Program} {set : SiblingSet}
    {tagAt : Nat → Option Discriminator} :
    (program.withTags set tagAt).siblings set
      = (program.siblings set).mapIdx fun i s => ⟨s.name, tagAt i⟩ := by
  refine List.ext_getElem? fun i => ?_
  cases set with
  | accounts =>
      simp only [withTags, siblings, List.getElem?_map, List.getElem?_mapIdx, Option.map_map]
      rfl
  | instructions =>
      simp only [withTags, siblings, List.getElem?_map, List.getElem?_mapIdx, Option.map_map]
      rfl

namespace AssignDiscriminators

variable {tree next : Tree} {operation : AssignDiscriminators} {variants : List EnumVariant}
  {start : UInt64} {size : NumberFormat} {siblings : List Sibling}

/-- The tag behind so many others in a sequence. -/
def tagBehind (operation : AssignDiscriminators) (start : UInt64) (size : NumberFormat)
    (behind : Nat) : Discriminator :=
  ⟨.number size (UInt64.ofNat (start.toNat + behind)), operation.offset⟩

/-- A number that there is room for is the start and as much more as there are others. -/
theorem toNat_tagBehind {behind : Nat} (h : size.RoomFor start behind) :
    (UInt64.ofNat (start.toNat + behind)).toNat = start.toNat + behind :=
  UInt64.toNat_ofNat_of_lt' (lt_of_lt_of_le h.2 (Nat.min_le_right _ _))

/-- Where there is room, the number fits. -/
theorem fits_tagBehind {behind : Nat} (h : size.RoomFor start behind) :
    (DiscriminatorValue.number size (UInt64.ofNat (start.toNat + behind))).Fits := by
  refine ⟨h.1, ?_⟩
  rw [toNat_tagBehind h]
  exact lt_of_lt_of_le h.2 (Nat.min_le_left _ _)

/-- Different numbers that there is room for differ in their bytes. -/
theorem key_tagBehind_inj {i j : Nat} (hi : size.RoomFor start i) (hj : size.RoomFor start j)
    (h : (operation.tagBehind start size i).key = (operation.tagBehind start size j).key) :
    i = j := by
  have hvalue :=
    Discriminator.encoded_inj (fits_tagBehind hi) (fits_tagBehind hj) (Prod.mk.inj h).2
  have hnumber := congrArg UInt64.toNat hvalue
  rw [toNat_tagBehind hi, toNat_tagBehind hj] at hnumber
  exact Nat.add_left_cancel hnumber

/-- A counting source has a tag for a sibling exactly when there is room for its number. -/
theorem valueFor_sequential_iff (hsource : operation.source = .sequential start size)
    {name : String} {rank : Nat} {tag : Discriminator} :
    operation.valueFor variants name rank = .ok tag ↔
      size.RoomFor start rank ∧ tag = operation.tagBehind start size rank := by
  rw [valueFor_eq_ok_iff, hsource]
  constructor
  · rintro ⟨value, ⟨hword⟩, ⟨hunsigned, hformat⟩, rfl⟩
    have hnumber : (UInt64.ofNat (start.toNat + rank)).toNat = start.toNat + rank :=
      UInt64.toNat_ofNat_of_lt' hword
    rw [hnumber] at hformat
    exact ⟨⟨hunsigned, lt_min hformat hword⟩, rfl⟩
  · rintro ⟨hroom, rfl⟩
    have hword : start.toNat + rank < wordCount 64 :=
      lt_of_lt_of_le hroom.2 (Nat.min_le_right _ _)
    exact ⟨_, .sequential hword, fits_tagBehind hroom, rfl⟩

/-- Where nothing is left out, the rank of a sibling is its position. -/
theorem rank_eq (honly : operation.only = []) {i : Nat} (hi : i ≤ siblings.length) :
    operation.rank siblings i = i := by
  have hall : ∀ s ∈ siblings.take i, decide (operation.Selects s.name) = true :=
    fun s _ => decide_eq_true (.inl honly)
  rw [rank, List.countP_eq_length.mpr hall, List.length_take, Nat.min_eq_left hi]

/-- Where nothing is left out, a counting source has tags for a collection exactly when there is
    room in every position. -/
theorem exists_assigned_iff_roomFor (honly : operation.only = [])
    (hsource : operation.source = .sequential start size) :
    (∃ tags, operation.assigned variants siblings = .ok tags) ↔
      ∀ i < siblings.length, size.RoomFor start i := by
  rw [exists_assigned_iff]
  constructor
  · intro h i hi
    obtain ⟨tag, htag⟩ := h i _ (List.getElem?_eq_getElem hi) (.inl honly)
    rw [rank_eq honly hi.le] at htag
    exact ((valueFor_sequential_iff hsource).mp htag).1
  · intro hroom i s hi _
    obtain ⟨hlt, -⟩ := List.getElem?_eq_some_iff.mp hi
    refine ⟨_, (valueFor_sequential_iff hsource).mpr ⟨?_, rfl⟩⟩
    rw [rank_eq honly hlt.le]
    exact hroom i hlt

/-- Tags in a sequence with room for all of them are apart. -/
theorem nodup_tagBehind {n : Nat} (hroom : ∀ i < n, size.RoomFor start i) :
    ((List.range n).map fun i => (operation.tagBehind start size i).key).Nodup := by
  refine List.Nodup.map_on (fun i hi j hj h => ?_) List.nodup_range
  exact key_tagBehind_inj (hroom i (List.mem_range.mp hi)) (hroom j (List.mem_range.mp hj)) h

/-- The tags of members that all have one, in order. -/
theorem filterMap_tag_mapIdx (tagAt : Nat → Discriminator) :
    (siblings.mapIdx fun i s => Sibling.mk s.name (some (tagAt i))).filterMap (·.tag)
      = (List.range siblings.length).map tagAt := by
  rw [List.mapIdx_eq_zipIdx_map, List.filterMap_map]
  have hsome : (fun item : Sibling × Nat => some (tagAt item.2))
      = some ∘ tagAt ∘ Prod.snd := rfl
  show siblings.zipIdx.filterMap (fun item : Sibling × Nat => some (tagAt item.2)) = _
  rw [hsome, List.filterMap_eq_map, ← List.map_map, List.zipIdx_map_snd, List.range_eq_range']

/-- Where a sibling has no tag, the failure says so. -/
theorem assigned_eq_error {fault : TransformError}
    (h : operation.assigned variants siblings = .error fault) :
    ∃ name reason, fault = .discriminatorMissing operation.scope name reason := by
  obtain ⟨⟨s, ordinal⟩, -, hitem⟩ := exists_of_mapM_eq_error h
  cases hvalue : operation.valueFor variants s.name ordinal with
  | ok tag => simp only [hvalue] at hitem; exact nomatch hitem
  | error reason =>
      simp only [hvalue] at hitem
      exact ⟨s.name, reason, (Except.error.inj hitem).symm⟩

/-- Where nothing is left out, assigning from a counting source fails as soon as a sibling of the
    program has no tag. -/
theorem apply_eq_error_of_assigned {program : Program} {slot : Slot} {fault : TransformError}
    (hprogram : (Index.of tree).program operation.program = .ok (program, slot))
    (honly : operation.only = []) (hsource : operation.source = .sequential start size)
    (h : operation.assigned [] (program.siblings operation.siblings) = .error fault) :
    operation.apply (Index.of tree) = .error fault := by
  refine bind_eq_error.mpr (.inr ⟨_, hprogram, ?_⟩)
  simp only [honly, List.find?_nil, hsource]
  exact bind_eq_error.mpr (.inr ⟨[], rfl, bind_eq_error.mpr (.inl h)⟩)

/-- Where there is room for all of them, members of distinct names get the tags of a sequence. -/
theorem apply_eq_ok_of_assigned {program : Program} {slot : Slot}
    {tags : List (String × Discriminator)}
    (hprogram : (Index.of tree).program operation.program = .ok (program, slot))
    (hnames : ((program.siblings operation.siblings).map (·.name)).Nodup)
    (honly : operation.only = []) (hsource : operation.source = .sequential start size)
    (h : operation.assigned [] (program.siblings operation.siblings) = .ok tags) :
    (∀ i < (program.siblings operation.siblings).length, size.RoomFor start i)
      ∧ ∃ p, slot = .program p ∧ operation.apply (Index.of tree) = .ok (tree.modifyProgram p
          (·.withTags operation.siblings fun i => some (operation.tagBehind start size i))) := by
  obtain ⟨p, rfl, -, hp⟩ := (Index.holds_of_program hprogram).program_inv
  have hroom := (exists_assigned_iff_roomFor honly hsource).mp ⟨tags, h⟩
  -- by name a sibling finds the tag of its position
  have htagOf : ∀ i s, (program.siblings operation.siblings)[i]? = some s →
      some (operation.tagBehind start size i) = (tagOf? tags s.name <|> s.tag) := by
    intro i s hi
    obtain ⟨hlt, -⟩ := List.getElem?_eq_some_iff.mp hi
    have hvalue : operation.valueFor [] s.name i = .ok (operation.tagBehind start size i) :=
      (valueFor_sequential_iff hsource).mpr ⟨hroom i hlt, rfl⟩
    rw [(tagOf?_assigned_iff hnames h hi).mpr ⟨.inl honly, by rwa [rank_eq honly hlt.le]⟩]
    rfl
  have hwith := Program.setTags_eq_withTags htagOf
  refine ⟨hroom, p, rfl, apply_eq_ok_iff.mpr ⟨p, program, [], tags, hprogram, ?_, ?_, h, ?_, ?_⟩⟩
  · rw [honly]
    exact fun _ hname => nomatch hname
  · rw [hsource]
    rfl
  · rw [← Program.siblings_setTags, hwith, Program.siblings_withTags, collision?_eq_none]
    refine repeatsNothing_iff_nodup.mpr ?_
    rw [filterMap_tag_mapIdx, List.map_map]
    exact nodup_tagBehind hroom
  · exact (Tree.modifyProgram_congr hp hwith).symm

/-- **COUNTING**: for a program that its path selects, with siblings of distinct names, assigning
    all of them the numbers from a start succeeds exactly when there are none, or the format is
    unsigned and the last number fits it and a word of 64 bits; siblings never collide, whatever
    tags they had; and each then has the start and as much more as there are in front of it,
    while nothing else in the tree changes. -/
theorem apply_sequential {program : Program} {slot : Slot} {n : Nat}
    (hprogram : (Index.of tree).program operation.program = .ok (program, slot))
    (hn : (program.siblings operation.siblings).length = n)
    (hnames : ((program.siblings operation.siblings).map (·.name)).Nodup)
    (honly : operation.only = []) (hsource : operation.source = .sequential start size) :
    ((∃ next, operation.apply (Index.of tree) = .ok next) ↔ n = 0
        ∨ size.isUnsigned = true
          ∧ start.toNat + n - 1 < min (wordCount (8 * size.size)) (wordCount 64))
      ∧ (∀ scope first second tag, operation.apply (Index.of tree)
          ≠ .error (.discriminatorCollision scope first second tag))
      ∧ ∀ next, operation.apply (Index.of tree) = .ok next →
          ∃ (p : Nat) (value : Nat → UInt64), slot = .program p
            ∧ next = tree.modifyProgram p (·.withTags operation.siblings fun i =>
                some ⟨.number size (value i), operation.offset⟩)
            ∧ ∀ i < n, (value i).toNat = start.toNat + i := by
  subst hn
  have hassigned :
      (∃ tags, operation.assigned [] (program.siblings operation.siblings) = .ok tags) ↔ _ :=
    exists_assigned_iff_roomFor honly hsource
  rw [← NumberFormat.forall_roomFor_iff, ← hassigned]
  cases h : operation.assigned [] (program.siblings operation.siblings) with
  | error fault =>
      have happly := apply_eq_error_of_assigned hprogram honly hsource h
      obtain ⟨name, reason, rfl⟩ := assigned_eq_error h
      refine ⟨iff_of_false ?_ not_exists_error_eq_ok, ?_, ?_⟩
      · rintro ⟨next, hnext⟩
        exact nomatch happly.symm.trans hnext
      · intro scope first second tag hcollision
        exact nomatch happly.symm.trans hcollision
      · intro next hnext
        exact nomatch happly.symm.trans hnext
  | ok tags =>
      obtain ⟨hroom, p, hslot, happly⟩ := apply_eq_ok_of_assigned hprogram hnames honly hsource h
      refine ⟨iff_of_true ⟨_, happly⟩ ⟨tags, rfl⟩, ?_, ?_⟩
      · intro scope first second tag hcollision
        exact nomatch happly.symm.trans hcollision
      · intro next hnext
        obtain rfl := Except.ok.inj (happly.symm.trans hnext)
        exact ⟨p, _, hslot, rfl, fun i hi => toNat_tagBehind (hroom i hi)⟩

/-- Tags for the two accounts of the bank, in the widest format. -/
def countVaults (start : UInt64) : AssignDiscriminators :=
  ⟨.program "bank", .accounts, [], .sequential start .u128, 0⟩

/-- Two numbers are left for them at the end of a word of 64 bits. -/
theorem apply_sequential_bank :
    (Index.of bankTree).program (.program "bank") = .ok (bankTree.programs[0], .program 0)
      ∧ ((bankTree.programs[0].siblings .accounts).map (·.name)).Nodup
      ∧ (∃ next, (countVaults 18446744073709551614).apply (Index.of bankTree) = .ok next
          ∧ ∃ value : Nat → UInt64, next.programs[0]? = some (bankTree.programs[0].withTags
              .accounts fun i => some ⟨.number .u128 (value i), 0⟩)
            ∧ ∀ i < 2, (value i).toNat = 18446744073709551614 + i)
      ∧ ¬ ∃ next, (countVaults 18446744073709551615).apply (Index.of bankTree) = .ok next := by
  have hprogram : (Index.of bankTree).program (.program "bank")
      = .ok (bankTree.programs[0], .program 0) := by decide +kernel
  have hnames : ((bankTree.programs[0].siblings .accounts).map (·.name)).Nodup := by decide +kernel
  obtain ⟨hsome, -, htags⟩ := @apply_sequential bankTree (countVaults 18446744073709551614)
    18446744073709551614 .u128 _ _ 2 hprogram rfl hnames rfl rfl
  obtain ⟨hnone, -⟩ := @apply_sequential bankTree (countVaults 18446744073709551615)
    18446744073709551615 .u128 _ _ 2 hprogram rfl hnames rfl rfl
  obtain ⟨next, hnext⟩ := hsome.mpr (.inr (by decide +kernel))
  obtain ⟨p, value, hslot, rfl, hvalue⟩ := htags next hnext
  obtain rfl := Slot.program.inj hslot
  refine ⟨hprogram, hnames, ⟨_, hnext, value, rfl, hvalue⟩, fun h => ?_⟩
  exact absurd (hnone.mp h) (by decide +kernel)

end AssignDiscriminators

end Bindery
