import Bindery.Proofs.Attachments
import Bindery.Proofs.Rename.Apply

/-! # Well-formed trees — what loading promises

    Names are proper in every scope, every link of a program names a type of the
    same program, and tags tell the instructions of a program apart and fit
    their formats.  The names and links are what is declared and do not depend
    on what is attached (`Declared.keeping_iff`); of the attachments only tags
    matter (`WellFormed.congr`).  A substitution of names that an
    admissible rename gives keeps all of it (`WellFormed.substitute`). -/

namespace Bindery

/-- The inputs of an instruction have proper names. -/
structure Instruction.ProperInputs (instruction : Instruction) : Prop where
  accounts : ProperNames (instruction.accounts.map (·.name))
  arguments : ProperNames (instruction.arguments.map (·.name))

/-- What a program declares has proper names, and its links name its own types. -/
structure Program.Declared (program : Program) : Prop where
  accounts : ProperNames (program.accounts.map (·.name))
  instructions : ProperNames (program.instructions.map (·.name))
  definedTypes : ProperNames (program.definedTypes.map (·.name))
  errors : ProperNames (program.errors.map (·.name))
  inputs : ∀ instruction ∈ program.instructions, instruction.ProperInputs
  links : ∀ name ∈ program.links, program.defines name = true

/-- A number has an unsigned format that it fits. -/
def DiscriminatorValue.Fits : DiscriminatorValue → Prop
  | .number format value =>
    format.isUnsigned = true ∧ value.toNat < wordCount (8 * format.size)
  | .bytes _ => True

/-- The tags of a program, those of accounts first. -/
def Program.tags (program : Program) : List Discriminator :=
  program.accounts.filterMap (·.discriminator) ++ program.instructions.filterMap (·.discriminator)

/-- Instructions differ in the place or the bytes of their tags, and the numbers of
    all tags fit. -/
structure Program.Tagged (program : Program) : Prop where
  distinct : ((program.instructions.filterMap (·.discriminator)).map (·.key)).Nodup
  fits : ∀ tag ∈ program.tags, tag.value.Fits

/-- What loading promises of a tree. -/
structure Tree.WellFormed (tree : Tree) : Prop where
  programs : ProperNames (tree.programs.map (·.name))
  addresses : (tree.programs.map (·.publicKey)).Nodup
  sharedTypes : tree.sharedTypes = []
  declared : ∀ program ∈ tree.programs, program.Declared
  tagged : ∀ program ∈ tree.programs, program.Tagged

/-! ## Names tell nodes apart -/

/-- The names of a well-formed tree are distinct per scope. -/
theorem Tree.WellFormed.distinct {tree : Tree} (hw : tree.WellFormed) : tree.Distinct where
  programs := hw.programs.distinct
  sharedTypes := by rw [hw.sharedTypes]; exact List.nodup_nil
  members program hmem :=
    have hp := hw.declared program hmem
    { accounts := hp.accounts.distinct
      definedTypes := hp.definedTypes.distinct
      instructions := hp.instructions.distinct
      inputs := fun instruction hi =>
        ⟨(hp.inputs instruction hi).accounts.distinct,
          (hp.inputs instruction hi).arguments.distinct⟩ }

/-! ## Attachments other than tags do not matter -/

variable {kept : Attachment → Bool}

/-- What is declared does not depend on attachments. -/
theorem Program.Declared.keeping_iff {program : Program} :
    (program.keeping kept).Declared ↔ program.Declared := by
  have hinputs : (∀ instruction ∈ (program.keeping kept).instructions, instruction.ProperInputs)
      ↔ ∀ instruction ∈ program.instructions, instruction.ProperInputs := by
    show (∀ instruction ∈ program.instructions.map _, _) ↔ _
    rw [List.forall_mem_map]
    refine forall₂_congr fun instruction _ => ?_
    constructor
    · rintro ⟨haccounts, harguments⟩
      rw [Instruction.accountNames_keeping] at haccounts
      rw [Instruction.argumentNames_keeping] at harguments
      exact ⟨haccounts, harguments⟩
    · rintro ⟨haccounts, harguments⟩
      refine ⟨?_, ?_⟩
      · rwa [Instruction.accountNames_keeping]
      · rwa [Instruction.argumentNames_keeping]
  constructor
  · rintro ⟨ha, hi, ht, he, hin, hl⟩
    rw [accountNames_keeping] at ha
    rw [instructionNames_keeping] at hi
    rw [links_keeping] at hl
    exact ⟨ha, hi, ht, he, hinputs.mp hin, hl⟩
  · rintro ⟨ha, hi, ht, he, hin, hl⟩
    rw [← accountNames_keeping kept] at ha
    rw [← instructionNames_keeping kept] at hi
    rw [← links_keeping kept] at hl
    exact ⟨ha, hi, ht, he, hinputs.mpr hin, hl⟩

namespace Program

variable {program : Program}

/-- Where tags are kept, those of instructions are what they were. -/
theorem instructionTags_keeping (program : Program) (hkept : kept .tag = true) :
    (program.keeping kept).instructions.filterMap (·.discriminator)
      = program.instructions.filterMap (·.discriminator) := by
  simp only [keeping, List.filterMap_map]
  refine List.filterMap_congr fun i _ => ?_
  exact if_pos hkept

/-- Where tags are kept, they are what they were. -/
theorem tags_keeping (program : Program) (hkept : kept .tag = true) :
    (program.keeping kept).tags = program.tags := by
  have haccounts : (program.keeping kept).accounts.filterMap (·.discriminator)
      = program.accounts.filterMap (·.discriminator) := by
    simp only [keeping, List.filterMap_map]
    refine List.filterMap_congr fun a _ => ?_
    exact if_pos hkept
  unfold tags
  rw [haccounts, instructionTags_keeping program hkept]

/-- Where tags are kept, a program is as properly tagged as it was. -/
theorem Tagged.keeping_iff (hkept : kept .tag = true) :
    (program.keeping kept).Tagged ↔ program.Tagged := by
  have hinstructions := instructionTags_keeping program hkept
  have htags := tags_keeping program hkept
  constructor
  · rintro ⟨hdistinct, hfits⟩
    exact ⟨hinstructions ▸ hdistinct, htags ▸ hfits⟩
  · rintro ⟨hdistinct, hfits⟩
    exact ⟨hinstructions.symm ▸ hdistinct, htags.symm ▸ hfits⟩

end Program

namespace Tree.WellFormed

variable {tree next : Tree}

/-- A tree that is the same up to attachments is as well-formed if its tags are. -/
theorem of_keeping_eq (h : next.keeping kept = tree.keeping kept)
    (htagged : ∀ program ∈ next.programs, program.Tagged) (hw : tree.WellFormed) :
    next.WellFormed := by
  have hprograms : next.programs.map (·.keeping kept) = tree.programs.map (·.keeping kept) :=
    congrArg Tree.programs h
  have hview : ∀ {α : Type} (view : Program → α),
      (∀ program, view (program.keeping kept) = view program) →
        next.programs.map view = tree.programs.map view := by
    intro α view hsame
    have := congrArg (List.map view) hprograms
    simpa only [List.map_map, Function.comp_def, hsame] using this
  refine ⟨?_, ?_, (congrArg Tree.sharedTypes h).trans hw.sharedTypes, fun program hmem => ?_,
    htagged⟩
  · rw [hview _ fun _ => rfl]
    exact hw.programs
  · rw [hview _ fun _ => rfl]
    exact hw.addresses
  · obtain ⟨before, hbefore, hsame⟩ := Tree.exists_of_keeping_eq h hmem
    have hdeclared : (before.keeping kept).Declared :=
      Program.Declared.keeping_iff.mpr (hw.declared before hbefore)
    rw [hsame] at hdeclared
    exact Program.Declared.keeping_iff.mp hdeclared

/-- A tree that is the same up to attachments other than tags is as well-formed. -/
theorem congr (hkept : kept .tag = true) (h : next.keeping kept = tree.keeping kept)
    (hw : tree.WellFormed) : next.WellFormed := by
  refine hw.of_keeping_eq h fun program hmem => ?_
  obtain ⟨before, hbefore, hsame⟩ := Tree.exists_of_keeping_eq h hmem
  rw [← Program.Tagged.keeping_iff hkept, ← hsame, Program.Tagged.keeping_iff hkept]
  exact hw.tagged before hbefore

end Tree.WellFormed

/-! ## Admissible renames -/

section Substitution

variable {tree : Tree} {operation : Rename} {p : Nat} {program : Program}

/-- The inputs of a renamed instruction have proper names. -/
theorem Instruction.ProperInputs.substitute
    (hadm : operation.Admissible (Index.of tree)) (hp : tree.programs[p]? = some program)
    {instruction : Instruction} (hmem : instruction ∈ program.instructions)
    (h : instruction.ProperInputs) :
    (instruction.substitute operation.nameOf program).ProperInputs := by
  obtain ⟨i, hi⟩ := List.mem_iff_getElem?.mp hmem
  constructor
  · simp only [Instruction.substitute, List.map_map]
    refine hadm.properNames (NodePath.isScope_instructionAccount _ _) (fun a ha => ?_) h.accounts
    obtain ⟨m, hm⟩ := List.mem_iff_getElem?.mp ha
    exact Index.contains_iff.mpr ⟨_, _, .instructionAccount hp hi hm⟩
  · simp only [Instruction.substitute, List.map_map]
    refine hadm.properNames (NodePath.isScope_instructionArgument _ _) (fun a ha => ?_) h.arguments
    obtain ⟨m, hm⟩ := List.mem_iff_getElem?.mp ha
    exact Index.contains_iff.mpr ⟨_, _, .instructionArgument hp hi hm⟩

/-- What a renamed program declares has proper names, and its links name its own
    types. -/
theorem Program.Declared.substitute (hadm : operation.Admissible (Index.of tree))
    (hp : tree.programs[p]? = some program) (h : program.Declared) :
    (program.substitute operation.nameOf).Declared where
  accounts := by
    simp only [Program.substitute, List.map_map]
    refine hadm.properNames (NodePath.isScope_account _) (fun a ha => ?_) h.accounts
    obtain ⟨i, hi⟩ := List.mem_iff_getElem?.mp ha
    exact Index.contains_iff.mpr ⟨_, _, .account hp hi⟩
  instructions := by
    simp only [Program.substitute, List.map_map]
    refine hadm.properNames (NodePath.isScope_instruction _) (fun a ha => ?_) h.instructions
    obtain ⟨i, hi⟩ := List.mem_iff_getElem?.mp ha
    exact Index.contains_iff.mpr ⟨_, _, .instruction hp hi⟩
  definedTypes := by
    simp only [Program.substitute, List.map_map]
    refine hadm.properNames (NodePath.isScope_definedType _) (fun a ha => ?_) h.definedTypes
    obtain ⟨i, hi⟩ := List.mem_iff_getElem?.mp ha
    exact Index.contains_iff.mpr ⟨_, _, .definedType hp hi⟩
  errors := h.errors
  inputs := by
    refine List.forall_mem_map.mpr fun instruction hmem => ?_
    exact (h.inputs instruction hmem).substitute hadm hp hmem
  links := by
    rw [links_substitute]
    refine List.forall_mem_map.mpr fun name hname => ?_
    have hdefines := h.links name hname
    rw [linkPath, if_pos hdefines]
    exact defines_substitute hdefines

/-- The tags of instructions are not renamed. -/
theorem Program.instructionTags_substitute (names : NodePath → String) :
    (program.substitute names).instructions.filterMap (·.discriminator)
      = program.instructions.filterMap (·.discriminator) := by
  simp only [Program.substitute, List.filterMap_map]
  rfl

/-- Tags are not renamed. -/
theorem Program.tags_substitute (names : NodePath → String) :
    (program.substitute names).tags = program.tags := by
  have haccounts : (program.substitute names).accounts.filterMap (·.discriminator)
      = program.accounts.filterMap (·.discriminator) := by
    simp only [Program.substitute, List.filterMap_map]
    rfl
  unfold tags
  rw [haccounts, instructionTags_substitute]

/-- A renamed program is as properly tagged as it was. -/
theorem Program.Tagged.substitute (names : NodePath → String) (h : program.Tagged) :
    (program.substitute names).Tagged := by
  constructor
  · rw [instructionTags_substitute]
    exact h.distinct
  · rw [tags_substitute]
    exact h.fits

/-- **RENAMES KEEP WHAT LOADING PROMISES**: names that are exchanged or passed on
    stay proper, links follow their types, and tags are left alone. -/
theorem Tree.WellFormed.substitute (hadm : operation.Admissible (Index.of tree))
    (hw : tree.WellFormed) : (tree.substitute operation.nameOf).WellFormed where
  programs := by
    simp only [Tree.substitute, List.map_map]
    refine hadm.properNames NodePath.isScope_program (fun program hmem => ?_) hw.programs
    obtain ⟨p, hp⟩ := List.mem_iff_getElem?.mp hmem
    exact Index.contains_iff.mpr ⟨_, _, .program hp⟩
  addresses := by
    simp only [Tree.substitute, List.map_map]
    exact hw.addresses
  sharedTypes := by
    rw [Tree.substitute, hw.sharedTypes]
    rfl
  declared := by
    refine List.forall_mem_map.mpr fun program hmem => ?_
    obtain ⟨p, hp⟩ := List.mem_iff_getElem?.mp hmem
    exact (hw.declared program hmem).substitute hadm hp
  tagged := List.forall_mem_map.mpr fun program hmem => (hw.tagged program hmem).substitute _

end Substitution

end Bindery
