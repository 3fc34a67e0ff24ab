import Bindery.Proofs.Reachable

/-! # Assignments — when tags are assigned, and which

    An operation that assigns tags selects some of the siblings in a collection
    and draws their tags from a source.  `Admits` says in terms of the tree when
    it goes through and which tag each position then has: a selected sibling the
    value that the source gives it by its name and rank, any other the tag that
    it had.  Where names are distinct per scope, this is exactly what applying
    the operation does (`apply_eq_ok_iff_admits`): ranks follow the declared
    order whatever the order of the names that are asked for, and a new tag may
    not share its place and bytes with that of a sibling left out.

    Tags are computed by name and written by name; in between, positions are
    counted among the selected.  `getElem?_filter_iff` ties the rank of a
    selected sibling to its position, and `tagOf?_assigned_iff` its tag to
    both. -/

namespace Bindery

/-- An item of some rank is the head, or further on behind a head that counts or does not. -/
theorem exists_rank_cons_iff {α : Type} {p : α → Bool} {a b : α} {l : List α} {rank : Nat} :
    (∃ i, (b :: l)[i]? = some a ∧ p a = true ∧ ((b :: l).take i).countP p = rank) ↔
      (b = a ∧ p a = true ∧ 0 = rank) ∨ ∃ i, l[i]? = some a ∧ p a = true
        ∧ (l.take i).countP p + (if p b = true then 1 else 0) = rank := by
  constructor
  · rintro ⟨i, hi, ha, hrank⟩
    cases i with
    | zero => exact .inl ⟨Option.some.inj hi, ha, hrank⟩
    | succ i =>
        rw [List.take_succ_cons, List.countP_cons] at hrank
        exact .inr ⟨i, hi, ha, hrank⟩
  · rintro (⟨rfl, ha, hrank⟩ | ⟨i, hi, ha, hrank⟩)
    · exact ⟨0, rfl, ha, hrank⟩
    · refine ⟨i + 1, hi, ha, ?_⟩
      rw [List.take_succ_cons, List.countP_cons]
      exact hrank

/-- The item of some rank among those with a property, by its position in the list. -/
theorem getElem?_filter_iff {α : Type} {p : α → Bool} {a : α} :
    ∀ {l : List α} {rank : Nat}, (l.filter p)[rank]? = some a ↔
      ∃ i, l[i]? = some a ∧ p a = true ∧ (l.take i).countP p = rank := by
  intro l
  induction l with
  | nil =>
      intro rank
      constructor
      · intro h; exact nomatch h
      · rintro ⟨i, h, -⟩; exact nomatch h
  | cons b l ih =>
      intro rank
      rw [exists_rank_cons_iff]
      by_cases hb : p b = true
      · rw [List.filter_cons_of_pos hb]
        simp only [hb, if_true]
        cases rank with
        | zero =>
            rw [List.getElem?_cons_zero, Option.some.injEq]
            constructor
            · rintro rfl
              exact .inl ⟨rfl, hb, rfl⟩
            · rintro (⟨rfl, -, -⟩ | ⟨i, -, -, h⟩)
              · rfl
              · exact nomatch h
        | succ rank =>
            rw [List.getElem?_cons_succ, ih]
            constructor
            · rintro ⟨i, hi, ha, hrank⟩
              exact .inr ⟨i, hi, ha, congrArg Nat.succ hrank⟩
            · rintro (⟨-, -, h⟩ | ⟨i, hi, ha, hrank⟩)
              · exact nomatch h
              · exact ⟨i, hi, ha, Nat.succ.inj hrank⟩
      · rw [List.filter_cons_of_neg hb, ih]
        simp only [hb]
        constructor
        · intro h; exact .inr h
        · rintro (⟨rfl, ha, -⟩ | h)
          · exact absurd ha hb
          · exact h

/-- The same program with the tags of a collection given by position. -/
def Program.withTags (program : Program) (set : SiblingSet)
    (tagAt : Nat → Option Discriminator) : Program :=
  match set with
  | .accounts =>
    { program with accounts := program.accounts.mapIdx fun i a =>
        { a with discriminator := tagAt i } }
  | .instructions =>
    { program with instructions := program.instructions.mapIdx fun i instruction =>
        { instruction with discriminator := tagAt i } }

/-- Tags that are given by name are given by position. -/
theorem Program.setTags_eq_withTags {program : Program} {set : SiblingSet}
    {tagOf? : String → Option Discriminator} {tagAt : Nat → Option Discriminator}
    (h : ∀ i s, (program.siblings set)[i]? = some s → tagAt i = (tagOf? s.name <|> s.tag)) :
    program.setTags set tagOf? = program.withTags set tagAt := by
  cases set with
  | accounts =>
      unfold setTags withTags
      simp only [Program.mk.injEq, true_and, and_true]
      refine (mapIdx_eq_map fun i a hi => ?_).symm
      rw [h i ⟨a.name, a.discriminator⟩ (getElem?_map_eq_some_iff.mpr ⟨a, hi, rfl⟩)]
  | instructions =>
      unfold setTags withTags
      simp only [Program.mk.injEq, true_and, and_true]
      refine (mapIdx_eq_map fun i instruction hi => ?_).symm
      rw [h i ⟨instruction.name, instruction.discriminator⟩
        (getElem?_map_eq_some_iff.mpr ⟨instruction, hi, rfl⟩)]

/-- The names of siblings are distinct where those of their program are. -/
theorem Program.Distinct.siblings {program : Program} (h : program.Distinct) (set : SiblingSet) :
    ((program.siblings set).map (·.name)).Nodup := by
  cases set with
  | accounts =>
      simp only [Program.siblings, List.map_map]
      exact h.accounts
  | instructions =>
      simp only [Program.siblings, List.map_map]
      exact h.instructions

/-- Changes that are the same for the program in a place are the same for the tree. -/
theorem Tree.modifyProgram_congr {tree : Tree} {p : Nat} {program : Program}
    {change change' : Program → Program} (hp : tree.programs[p]? = some program)
    (h : change program = change' program) :
    tree.modifyProgram p change = tree.modifyProgram p change' := by
  have hprograms : tree.programs.modify p change = tree.programs.modify p change' := by
    rw [List.modify_eq_set_getElem?, List.modify_eq_set_getElem?, hp]
    show tree.programs.set p (change program) = tree.programs.set p (change' program)
    rw [h]
  rw [modifyProgram, hprograms, ← modifyProgram]

namespace AssignDiscriminators

/-- What an operation selects: every name, or the names that it asks for. -/
def Selects (operation : AssignDiscriminators) (name : String) : Prop :=
  operation.only = [] ∨ name ∈ operation.only

/-- What is selected can be computed. -/
instance decidableSelects (operation : AssignDiscriminators) (name : String) :
    Decidable (operation.Selects name) :=
  inferInstanceAs (Decidable (operation.only = [] ∨ name ∈ operation.only))

/-- The rank of a position among the siblings that are selected: how many of them come
    before it. -/
def rank (operation : AssignDiscriminators) (siblings : List Sibling) (i : Nat) : Nat :=
  (siblings.take i).countP fun s => operation.Selects s.name

variable {operation : AssignDiscriminators} {variants : List EnumVariant}
  {siblings : List Sibling} {tags : List (String × Discriminator)} {i : Nat} {s : Sibling}

/-- A name is selected when it is asked for or none is. -/
theorem selects_eq (name : String) : operation.selects name = decide (operation.Selects name) := by
  rw [Bool.eq_iff_iff, selects, Bool.or_eq_true, List.isEmpty_iff, List.contains_iff_mem,
    decide_eq_true_iff, Selects]

/-- The selected siblings with their ranks. -/
theorem mem_selected_iff {ordinal : Nat} :
    (s, ordinal) ∈ (siblings.filter fun s => operation.selects s.name).zipIdx ↔
      ∃ i, siblings[i]? = some s ∧ operation.Selects s.name
        ∧ operation.rank siblings i = ordinal := by
  rw [List.mem_zipIdx_iff_getElem?, getElem?_filter_iff]
  simp only [selects_eq, decide_eq_true_eq, rank]

/-- Tags are assigned when there is one for every selected sibling. -/
theorem exists_assigned_iff : (∃ tags, operation.assigned variants siblings = .ok tags) ↔
    ∀ i s, siblings[i]? = some s → operation.Selects s.name →
      ∃ tag, operation.valueFor variants s.name (operation.rank siblings i) = .ok tag := by
  constructor
  · rintro ⟨tags, h⟩ i s hi hselects
    obtain ⟨entry, -, -, hvalue⟩ := exists_of_forall₂_left (assigned_eq_ok_iff.mp h)
      (mem_selected_iff.mpr ⟨i, hi, hselects, rfl⟩)
    exact ⟨entry.2, hvalue⟩
  · intro h
    have hitems : ∀ item ∈ (siblings.filter fun s => operation.selects s.name).zipIdx,
        ∃ entry : String × Discriminator, entry.1 = item.1.name
          ∧ operation.valueFor variants item.1.name item.2 = .ok entry.2 := by
      rintro ⟨s, ordinal⟩ hmem
      obtain ⟨i, hi, hselects, rfl⟩ := mem_selected_iff.mp hmem
      obtain ⟨tag, htag⟩ := h i s hi hselects
      exact ⟨(s.name, tag), rfl, htag⟩
    obtain ⟨tags, htags⟩ := exists_forall₂ hitems
    exact ⟨tags, assigned_eq_ok_iff.mpr htags⟩

/-- Where names are distinct, the tag that is found for a name is the one assigned. -/
theorem tagOf?_eq_some_iff {name : String} {tag : Discriminator}
    (hnames : (tags.map (·.1)).Nodup) : tagOf? tags name = some tag ↔ (name, tag) ∈ tags := by
  have hreverse : (tags.reverse.map (·.1)).Nodup := by
    rw [List.map_reverse, List.nodup_reverse]
    exact hnames
  rw [tagOf?, Option.map_eq_some_iff]
  constructor
  · rintro ⟨⟨found, _⟩, hfound, rfl⟩
    obtain ⟨hmem, rfl⟩ := (find?_named_iff hreverse).mp hfound
    exact List.mem_reverse.mp hmem
  · intro hmem
    exact ⟨(name, tag), (find?_named_iff hreverse).mpr ⟨List.mem_reverse.mpr hmem, rfl⟩, rfl⟩

/-- Siblings of distinct names get the tags of the selected ones among them. -/
theorem tagOf?_assigned_iff (hnames : (siblings.map (·.name)).Nodup)
    (h : operation.assigned variants siblings = .ok tags) (hi : siblings[i]? = some s)
    {tag : Discriminator} : tagOf? tags s.name = some tag ↔
      operation.Selects s.name
        ∧ operation.valueFor variants s.name (operation.rank siblings i) = .ok tag := by
  have hitems := assigned_eq_ok_iff.mp h
  have htags : (tags.map (·.1)).Nodup := by
    have hnamed : tags.map (·.1) = (siblings.filter fun s =>
        operation.selects s.name).zipIdx.map (Sibling.name ∘ Prod.fst) :=
      map_eq_map_iff_forall₂.mpr (hitems.imp fun _ _ hitem => hitem.1).flip
    rw [hnamed, ← List.map_map, List.zipIdx_map_fst]
    exact hnames.sublist (List.filter_sublist.map _)
  rw [tagOf?_eq_some_iff htags]
  constructor
  · intro hmem
    obtain ⟨⟨found, ordinal⟩, hfound, hname, hvalue⟩ := exists_of_forall₂_right hitems hmem
    obtain ⟨j, hj, hselects, rfl⟩ := mem_selected_iff.mp hfound
    obtain rfl := position_unique hnames hi hj hname
    obtain rfl := Option.some.inj (hi.symm.trans hj)
    exact ⟨hselects, hvalue⟩
  · rintro ⟨hselects, hvalue⟩
    obtain ⟨⟨name, found⟩, hmem, rfl, hfound⟩ :=
      exists_of_forall₂_left hitems (mem_selected_iff.mpr ⟨i, hi, hselects, rfl⟩)
    rwa [Except.ok.inj (hvalue.symm.trans hfound)]

/-- Where names are distinct, tags by position are those that are assigned by name exactly when
    selected positions have what the source gives and others what they had. -/
theorem forall_tagAt_iff (hnames : (siblings.map (·.name)).Nodup)
    (h : operation.assigned variants siblings = .ok tags) {tagAt : Nat → Option Discriminator} :
    (∀ (i : Nat) (s : Sibling), siblings[i]? = some s → tagAt i = (tagOf? tags s.name <|> s.tag)) ↔
      (∀ (i : Nat) (s : Sibling), siblings[i]? = some s → operation.Selects s.name →
        ∃ value, operation.source.Gives variants s.name (operation.rank siblings i) value
          ∧ value.Fits ∧ tagAt i = some ⟨value, operation.offset⟩)
        ∧ ∀ (i : Nat) (s : Sibling), siblings[i]? = some s → ¬ operation.Selects s.name →
          tagAt i = s.tag := by
  have hselected : ∀ (i : Nat) (s : Sibling), siblings[i]? = some s → operation.Selects s.name →
      ∃ value, operation.source.Gives variants s.name (operation.rank siblings i) value
        ∧ value.Fits ∧ tagOf? tags s.name = some ⟨value, operation.offset⟩ := by
    intro i s hi hselects
    obtain ⟨tag, htag⟩ := exists_assigned_iff.mp ⟨tags, h⟩ i s hi hselects
    obtain ⟨value, hgives, hfits, rfl⟩ := valueFor_eq_ok_iff.mp htag
    exact ⟨value, hgives, hfits, (tagOf?_assigned_iff hnames h hi).mpr ⟨hselects, htag⟩⟩
  have hothers : ∀ (i : Nat) (s : Sibling), siblings[i]? = some s → ¬ operation.Selects s.name →
      tagOf? tags s.name = none := by
    intro i s hi hselects
    refine Option.eq_none_iff_forall_ne_some.mpr fun tag htag => hselects ?_
    exact ((tagOf?_assigned_iff hnames h hi).mp htag).1
  constructor
  · intro htagAt
    refine ⟨fun i s hi hselects => ?_, fun i s hi hselects => ?_⟩
    · obtain ⟨value, hgives, hfits, hfound⟩ := hselected i s hi hselects
      exact ⟨value, hgives, hfits, by rw [htagAt i s hi, hfound]; rfl⟩
    · rw [htagAt i s hi, hothers i s hi hselects]
      rfl
  · rintro ⟨hnew, hold⟩ i s hi
    by_cases hselects : operation.Selects s.name
    · obtain ⟨value, hgives, hfits, htag⟩ := hnew i s hi hselects
      have hvalue := valueFor_eq_ok_iff.mpr ⟨value, hgives, hfits, rfl⟩
      rw [htag, (tagOf?_assigned_iff hnames h hi).mpr ⟨hselects, hvalue⟩]
      rfl
    · rw [hold i s hi hselects, hothers i s hi hselects]
      rfl

end AssignDiscriminators

/-! ## The operation on a tree -/

/-- The variants that a source draws on: those of the enum in the tree that its path selects,
    none where it has no path. -/
def DiscriminatorSource.DrawsOn (tree : Tree) (variants : List EnumVariant) :
    DiscriminatorSource → Prop
  | .enumVariants enumType _ => ∃ slot defined,
      tree.Holds slot enumType (.definedType defined) ∧ defined.type = .enum variants
  | _ => variants = []

namespace Index

variable {tree : Tree} {path : NodePath}

/-- Where names are distinct, a path selects the variants of the enum that is held under it. -/
theorem enumVariants_eq_ok_iff (hd : tree.Distinct) {variants : List EnumVariant} :
    (Index.of tree).enumVariants path = .ok variants ↔ ∃ slot defined,
      tree.Holds slot path (.definedType defined) ∧ defined.type = .enum variants := by
  constructor
  · intro h
    obtain ⟨⟨defined, slot⟩, hdefined, h⟩ := bind_eq_ok.mp h
    refine ⟨slot, defined, (definedType_eq_ok_iff hd).mp hdefined, ?_⟩
    cases htype : defined.type with
    | enum found =>
        simp only [htype] at h
        rw [pure_eq_ok.mp h]
    | _ => simp only [htype] at h; exact nomatch h
  · rintro ⟨slot, defined, hheld, htype⟩
    refine bind_eq_ok.mpr ⟨_, (definedType_eq_ok_iff hd).mpr hheld, ?_⟩
    simp only [htype]
    rfl

end Index

/-- Where names are distinct, a source has the variants that it draws on. -/
theorem DiscriminatorSource.variants_eq_ok_iff {tree : Tree} (hd : tree.Distinct)
    {variants : List EnumVariant} {source : DiscriminatorSource} :
    source.variants (Index.of tree) = .ok variants ↔ source.DrawsOn tree variants := by
  cases source with
  | enumVariants enumType size => exact Index.enumVariants_eq_ok_iff hd
  | _ => exact pure_eq_ok.trans eq_comm

namespace AssignDiscriminators

/-- What an operation asks of a tree, and the tags by position that it leads to.  Selected
    siblings get what the source gives by name and rank, others keep what they have, and
    all of these tags differ in place or bytes. -/
structure Admits (operation : AssignDiscriminators) (tree : Tree) (p : Nat) (program : Program)
    (variants : List EnumVariant) (tagAt : Nat → Option Discriminator) : Prop where
  resolves : tree.Holds (.program p) operation.program (.program program)
  only : ∀ name ∈ operation.only, name ∈ (program.siblings operation.siblings).map (·.name)
  source : operation.source.DrawsOn tree variants
  selected : ∀ (i : Nat) (s : Sibling), (program.siblings operation.siblings)[i]? = some s →
    operation.Selects s.name → ∃ value,
      operation.source.Gives variants s.name
        (operation.rank (program.siblings operation.siblings) i) value
      ∧ value.Fits ∧ tagAt i = some ⟨value, operation.offset⟩
  others : ∀ (i : Nat) (s : Sibling), (program.siblings operation.siblings)[i]? = some s →
    ¬ operation.Selects s.name → tagAt i = s.tag
  apart : ((((program.withTags operation.siblings tagAt).siblings operation.siblings).filterMap
    (·.tag)).map (·.key)).Nodup

/-- **EXACT ASSIGNMENT**: where names are distinct per scope, assigning tags succeeds exactly
    on what the operation admits, and the tree then has the admitted tags and is otherwise as
    before. -/
theorem apply_eq_ok_iff_admits {tree next : Tree} {operation : AssignDiscriminators}
    (hd : tree.Distinct) :
    operation.apply (Index.of tree) = .ok next ↔ ∃ p program variants tagAt,
      operation.Admits tree p program variants tagAt
        ∧ next = tree.modifyProgram p (·.withTags operation.siblings tagAt) := by
  have hsiblings : ∀ {p : Nat} {program : Program}, tree.programs[p]? = some program →
      ((program.siblings operation.siblings).map (·.name)).Nodup := fun hp =>
    (hd.members _ (List.mem_of_getElem? hp)).siblings operation.siblings
  rw [apply_eq_ok_iff]
  constructor
  · rintro ⟨p, program, variants, tags, hprogram, honly, hvariants, hassigned, hcollision, rfl⟩
    have hheld := (Index.program_eq_ok_iff hd).mp hprogram
    obtain ⟨_, hslot, -, hp⟩ := hheld.program_inv
    obtain rfl := Slot.program.inj hslot
    have htagAt : ∀ (i : Nat) (s : Sibling), (program.siblings operation.siblings)[i]? = some s →
        ((program.siblings operation.siblings)[i]?.bind fun s : Sibling =>
            tagOf? tags s.name <|> s.tag) = (tagOf? tags s.name <|> s.tag) := by
      intro i s hi
      rw [hi]
      rfl
    obtain ⟨hselected, hothers⟩ := (forall_tagAt_iff (hsiblings hp) hassigned).mp htagAt
    have hwith := Program.setTags_eq_withTags htagAt
    refine ⟨p, program, variants, _, ⟨hheld, honly, (DiscriminatorSource.variants_eq_ok_iff hd).mp
      hvariants, hselected, hothers, ?_⟩, Tree.modifyProgram_congr hp hwith⟩
    rw [← hwith, Program.siblings_setTags]
    exact repeatsNothing_iff_nodup.mp (collision?_eq_none.mp hcollision)
  · rintro ⟨p, program, variants, tagAt, hadmits, rfl⟩
    obtain ⟨_, hslot, -, hp⟩ := hadmits.resolves.program_inv
    obtain rfl := Slot.program.inj hslot
    have hvalues : ∀ i s, (program.siblings operation.siblings)[i]? = some s →
        operation.Selects s.name → ∃ tag, operation.valueFor variants s.name
          (operation.rank (program.siblings operation.siblings) i) = .ok tag := by
      intro i s hi hselects
      obtain ⟨value, hgives, hfits, -⟩ := hadmits.selected i s hi hselects
      exact ⟨_, valueFor_eq_ok_iff.mpr ⟨value, hgives, hfits, rfl⟩⟩
    obtain ⟨tags, hassigned⟩ := exists_assigned_iff.mpr hvalues
    have hwith := Program.setTags_eq_withTags
      ((forall_tagAt_iff (hsiblings hp) hassigned).mpr ⟨hadmits.selected, hadmits.others⟩)
    refine ⟨p, program, variants, tags, (Index.program_eq_ok_iff hd).mpr hadmits.resolves,
      hadmits.only, (DiscriminatorSource.variants_eq_ok_iff hd).mpr hadmits.source, hassigned, ?_,
      (Tree.modifyProgram_congr hp hwith).symm⟩
    rw [← Program.siblings_setTags, hwith]
    exact collision?_eq_none.mpr (repeatsNothing_iff_nodup.mpr hadmits.apart)

/-- The tag of one instruction of the bank, asked for twice, from the variant of its name. -/
def closeBank : AssignDiscriminators :=
  ⟨.program "bank", .instructions, ["close", "close"],
    .enumVariants (.definedType "bank" "Side") .u16, 0⟩

theorem apply_eq_ok_iff_admits_bank : bankTree.Distinct ∧ ∃ next,
    closeBank.apply (Index.of bankTree) = .ok next
      ∧ next.programs.map (fun program => (program.siblings .instructions).map (·.tag))
          = [[some ⟨.number .u8 1, 0⟩, some ⟨.number .u16 1, 0⟩]]
      ∧ ∃ p program variants tagAt, closeBank.Admits bankTree p program variants tagAt
        ∧ next = bankTree.modifyProgram p (·.withTags closeBank.siblings tagAt) := by
  have hdistinct : bankTree.Distinct := (Tree.Reachable.load load_bank).wellFormed.distinct
  obtain ⟨next, hnext, htags⟩ : ∃ next, closeBank.apply (Index.of bankTree) = .ok next
      ∧ decide (next.programs.map (fun program => (program.siblings .instructions).map (·.tag))
          = [[some ⟨.number .u8 1, 0⟩, some ⟨.number .u16 1, 0⟩]]) = true :=
    exists_ok_of_any (by decide +kernel)
  exact ⟨hdistinct, next, hnext, of_decide_eq_true htags,
    (apply_eq_ok_iff_admits hdistinct).mp hnext⟩

end AssignDiscriminators

end Bindery
