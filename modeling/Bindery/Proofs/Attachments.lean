import Bindery.Description.Load
import Bindery.Index
import Bindery.Operation.Defaults
import Bindery.Operation.Discriminators
import Bindery.Operation.Seeds
import Bindery.Proofs.Slots

/-! # Attachments — trees up to what operations attach

    Tags, address recipes and default values are attached to nodes that are
    declared once and for all.  `Tree.keeping` is a tree with some kinds of
    attachments forgotten; two trees are the same up to a kind when they are
    equal with that kind forgotten.  A change of one node that keeps it the same
    keeps the tree the same (`keeping_modifyProgram` and its companions).

    Each of the three operations that attach something to nodes attaches one
    kind of thing, and the tree stays the same up to that kind: recipes for
    `SetSeeds` (`SetSeeds.frame`), tags for `AssignDiscriminators`
    (`AssignDiscriminators.frame`), default values for `SetDefaults`
    (`SetDefaults.frame`). -/

namespace Bindery

/-- What operations attach to nodes. -/
inductive Attachment where
  | tag | recipe | default
deriving DecidableEq

/-- Every kind of attachment but one. -/
def Attachment.allBut (forgotten kind : Attachment) : Bool := kind ≠ forgotten

/-- An attachment that is kept or forgotten. -/
def keepIf {α : Type} (kept : Bool) (value : Option α) : Option α :=
  if kept then value else none

variable {kept : Attachment → Bool}

/-- The same account with the attachments of some kinds only. -/
def Account.keeping (kept : Attachment → Bool) (account : Account) : Account :=
  { account with
    discriminator := keepIf (kept .tag) account.discriminator
    seeds := keepIf (kept .recipe) account.seeds }

/-- The same instruction account with the attachments of some kinds only. -/
def InstructionAccount.keeping (kept : Attachment → Bool) (account : InstructionAccount) :
    InstructionAccount :=
  { account with defaultValue := keepIf (kept .default) account.defaultValue }

/-- The same instruction argument with the attachments of some kinds only. -/
def InstructionArgument.keeping (kept : Attachment → Bool) (argument : InstructionArgument) :
    InstructionArgument :=
  { argument with defaultValue := keepIf (kept .default) argument.defaultValue }

/-- The same instruction with the attachments of some kinds only. -/
def Instruction.keeping (kept : Attachment → Bool) (instruction : Instruction) : Instruction :=
  { instruction with
    accounts := instruction.accounts.map (·.keeping kept)
    arguments := instruction.arguments.map (·.keeping kept)
    discriminator := keepIf (kept .tag) instruction.discriminator }

/-- The same program with the attachments of some kinds only. -/
def Program.keeping (kept : Attachment → Bool) (program : Program) : Program :=
  { program with
    accounts := program.accounts.map (·.keeping kept)
    instructions := program.instructions.map (·.keeping kept) }

/-- The same tree with the attachments of some kinds only. -/
def Tree.keeping (kept : Attachment → Bool) (tree : Tree) : Tree :=
  { tree with programs := tree.programs.map (·.keeping kept) }

/-! ## What every view shows -/

namespace Program

variable (kept : Attachment → Bool) (program : Program)

/-- The names of accounts are no attachments. -/
@[simp]
theorem accountNames_keeping :
    (program.keeping kept).accounts.map (·.name) = program.accounts.map (·.name) := by
  simp only [keeping, List.map_map]
  rfl

/-- The names of instructions are no attachments. -/
@[simp]
theorem instructionNames_keeping :
    (program.keeping kept).instructions.map (·.name) = program.instructions.map (·.name) := by
  simp only [keeping, List.map_map]
  rfl

/-- Links are no attachments. -/
@[simp]
theorem links_keeping : (program.keeping kept).links = program.links := by
  simp only [links, keeping, Account.keeping, Instruction.keeping, InstructionArgument.keeping,
    List.flatMap_map]

end Program

namespace Instruction

variable (kept : Attachment → Bool) (instruction : Instruction)

/-- The names of instruction accounts are no attachments. -/
@[simp]
theorem accountNames_keeping :
    (instruction.keeping kept).accounts.map (·.name) = instruction.accounts.map (·.name) := by
  simp only [keeping, List.map_map]
  rfl

/-- The names of arguments are no attachments. -/
@[simp]
theorem argumentNames_keeping :
    (instruction.keeping kept).arguments.map (·.name) = instruction.arguments.map (·.name) := by
  simp only [keeping, List.map_map]
  rfl

end Instruction

/-! ## Changes that a view does not see -/

/-- What is made of a list with one item changed is what is made of the list with what is made
    of that item changed. -/
theorem map_modify {α β : Type} {view : α → β} {change : α → α} {change' : β → β} {l : List α}
    {i : Nat} (h : ∀ a, l[i]? = some a → view (change a) = change' (view a)) :
    (l.modify i change).map view = (l.map view).modify i change' := by
  refine List.ext_getElem? fun j => ?_
  rw [List.getElem?_map, List.getElem?_modify, List.getElem?_modify, List.getElem?_map]
  cases hj : l[j]? with
  | none => rfl
  | some a =>
      show some (view (if i = j then change a else a))
        = some (if i = j then change' (view a) else view a)
      by_cases hij : i = j
      · subst hij
        rw [if_pos rfl, if_pos rfl, h a hj]
      · rw [if_neg hij, if_neg hij]

/-- A change of one item that a view does not see is not seen in the list. -/
theorem map_modify_of_unseen {α β : Type} {view : α → β} {change : α → α}
    (h : ∀ a, view (change a) = view a) (l : List α) (i : Nat) :
    (l.modify i change).map view = l.map view := by
  have hmodify : (l.modify i change).map view = (l.map view).modify i id :=
    map_modify fun a _ => h a
  rw [hmodify, List.modify_id]

/-- A change of one item is seen in its place only. -/
theorem getElem?_modify_eq_map {α : Type} (change : α → α) (l : List α) (i j : Nat) :
    (l.modify i change)[j]? = l[j]?.map (if i = j then change else id) := by
  rw [List.getElem?_modify]
  by_cases hij : i = j
  · simp only [hij, if_true]
    rfl
  · simp only [hij, if_false]
    rfl

section Members

variable {α β : Type} (members : α → List β) {view : α → α}

/-- Members that owners show through a view are seen through it in their places. -/
theorem member_map {view' : β → β} (h : ∀ a, members (view a) = (members a).map view')
    (l : List α) (i j : Nat) :
    (l.map view)[i]?.bind (fun a => (members a)[j]?)
      = (l[i]?.bind fun a => (members a)[j]?).map view' := by
  rw [List.getElem?_map, Option.bind_map, Option.map_bind]
  refine Option.bind_congr fun a _ => ?_
  rw [Function.comp_apply, Function.comp_apply, h, List.getElem?_map]

/-- A change of one member of one owner is seen in its place only. -/
theorem member_modify {i' j' : Nat} {change : β → β}
    (h : ∀ a, members (view a) = (members a).modify j' change) (l : List α) (i j : Nat) :
    (l.modify i' view)[i]?.bind (fun a => (members a)[j]?)
      = (l[i]?.bind fun a => (members a)[j]?).map
          (if i' = i ∧ j' = j then change else id) := by
  rw [getElem?_modify_eq_map, Option.bind_map, Option.map_bind]
  refine Option.bind_congr fun a _ => ?_
  rw [Function.comp_apply, Function.comp_apply]
  by_cases hi : i' = i
  · rw [if_pos hi, h, getElem?_modify_eq_map]
    simp only [hi, true_and]
  · rw [if_neg hi, if_neg fun hplace => hi hplace.1, Option.map_id]
    rfl

end Members

/-- What holds of every item and of a changed one holds after the change. -/
theorem forall_mem_modify {α : Type} {l : List α} {i : Nat} {change : α → α} {P : α → Prop}
    (h : ∀ a ∈ l, P a) (hchange : ∀ a, l[i]? = some a → P (change a)) :
    ∀ a ∈ l.modify i change, P a := by
  intro a hmem
  obtain ⟨j, hj⟩ := List.mem_iff_getElem?.mp hmem
  rw [List.getElem?_modify] at hj
  obtain ⟨before, hbefore, rfl⟩ := Option.map_eq_some_iff.mp hj
  by_cases hij : i = j
  · subst hij
    rw [if_pos rfl]
    exact hchange before hbefore
  · rw [if_neg hij]
    exact h before (List.mem_of_getElem? hbefore)

namespace Tree

variable {tree : Tree} {p i : Nat}

/-- An unseen change of a program. -/
theorem keeping_modifyProgram {change : Program → Program}
    (h : ∀ program, (change program).keeping kept = program.keeping kept) :
    (tree.modifyProgram p change).keeping kept = tree.keeping kept := by
  unfold keeping modifyProgram
  rw [map_modify_of_unseen h]

/-- An unseen change of an account. -/
theorem keeping_modifyAccount {change : Account → Account}
    (h : ∀ account, (change account).keeping kept = account.keeping kept) :
    (tree.modifyAccount p i change).keeping kept = tree.keeping kept := by
  refine keeping_modifyProgram fun program => ?_
  unfold Program.keeping
  rw [map_modify_of_unseen h]

/-- An unseen change of an instruction. -/
theorem keeping_modifyInstruction {change : Instruction → Instruction}
    (h : ∀ instruction, (change instruction).keeping kept = instruction.keeping kept) :
    (tree.modifyInstruction p i change).keeping kept = tree.keeping kept := by
  refine keeping_modifyProgram fun program => ?_
  unfold Program.keeping
  rw [map_modify_of_unseen h]

/-- Each program of a tree has its like in a tree that is the same up to
    attachments. -/
theorem exists_of_keeping_eq {next : Tree} (h : next.keeping kept = tree.keeping kept)
    {program : Program} (hmem : program ∈ next.programs) :
    ∃ before ∈ tree.programs, before.keeping kept = program.keeping kept := by
  have hmem' : program.keeping kept ∈ (next.keeping kept).programs := List.mem_map_of_mem hmem
  rw [h] at hmem'
  obtain ⟨before, hbefore, hsame⟩ := List.mem_map.mp hmem'
  exact ⟨before, hbefore, hsame⟩

end Tree

/-! ## Frames — what the attaching operations leave alone -/

variable {tree next : Tree}

/-- **ONE RECIPE**: setting seeds changes the recipe of the account that the path
    selects. -/
theorem SetSeeds.apply_eq_ok {operation : SetSeeds}
    (h : operation.apply (Index.of tree) = .ok next) :
    ∃ p i program account, tree.programs[p]? = some program
      ∧ program.accounts[i]? = some account
      ∧ operation.account = .account program.name account.name
      ∧ Seed.check operation.seeds = .ok ()
      ∧ next = tree.modifyAccount p i ({ · with seeds := some operation.seeds }) := by
  obtain ⟨⟨account, slot⟩, haccount, h⟩ := bind_eq_ok.mp h
  obtain ⟨hcheck, h⟩ := check_bind_eq_ok.mp h
  obtain ⟨p, i, program, rfl, hpath, hp, hi⟩ := (Index.holds_of_account haccount).account_inv
  exact ⟨p, i, program, account, hp, hi, hpath, mapError_eq_ok.mp hcheck, (pure_eq_ok.mp h).symm⟩

/-- Setting seeds leaves all but recipes alone. -/
theorem SetSeeds.frame {operation : SetSeeds} (h : operation.apply (Index.of tree) = .ok next) :
    next.keeping (Attachment.allBut .recipe) = tree.keeping (Attachment.allBut .recipe) := by
  obtain ⟨p, i, program, account, -, -, -, -, rfl⟩ := apply_eq_ok h
  exact Tree.keeping_modifyAccount fun _ => rfl

/-- The variants that a source draws on: those of its enum, if it has one. -/
def DiscriminatorSource.variants (index : Index) :
    DiscriminatorSource → Except TransformError (List EnumVariant)
  | .enumVariants enumType _ => index.enumVariants enumType
  | _ => pure []

/-- The tags of a collection are unseen where tags are forgotten. -/
theorem Program.setTags_frame (siblings : SiblingSet) (tagOf? : String → Option Discriminator)
    (program : Program) :
    (program.setTags siblings tagOf?).keeping (Attachment.allBut .tag)
      = program.keeping (Attachment.allBut .tag) := by
  cases siblings with
  | accounts =>
      simp only [Program.setTags, Program.keeping, List.map_map]
      rfl
  | instructions =>
      simp only [Program.setTags, Program.keeping, List.map_map]
      rfl

namespace AssignDiscriminators

variable {operation : AssignDiscriminators}

/-- **TAGS OF ONE COLLECTION**: assigning tags succeeds exactly when the program resolves,
    the collection has every name that is asked for, the source has its variants and a tag
    for every selected member, and none collide; it changes the tags of that collection. -/
theorem apply_eq_ok_iff :
    operation.apply (Index.of tree) = .ok next ↔ ∃ p program variants assigned,
      (Index.of tree).program operation.program = .ok (program, .program p)
        ∧ (∀ name ∈ operation.only,
            name ∈ (program.siblings operation.siblings).map (·.name))
        ∧ operation.source.variants (Index.of tree) = .ok variants
        ∧ operation.assigned variants (program.siblings operation.siblings) = .ok assigned
        ∧ Sibling.collision? [] ((program.siblings operation.siblings).map fun s =>
            ⟨s.name, tagOf? assigned s.name <|> s.tag⟩) = none
        ∧ next = tree.modifyProgram p (·.setTags operation.siblings (tagOf? assigned)) := by
  have honly : ∀ program : Program, (operation.only.find?
      fun name => !(program.siblings operation.siblings).any (·.name = name)) = none
        ↔ ∀ name ∈ operation.only, name ∈ (program.siblings operation.siblings).map (·.name) := by
    intro program
    simp only [List.find?_eq_none, Bool.not_eq_true', Bool.not_eq_false, List.any_eq_true,
      decide_eq_true_eq, List.mem_map]
  constructor
  · intro h
    obtain ⟨⟨program, slot⟩, hprogram, h⟩ := bind_eq_ok.mp h
    obtain ⟨p, rfl, -, -⟩ := (Index.holds_of_program hprogram).program_inv
    cases hunknown : operation.only.find?
        fun name => !(program.siblings operation.siblings).any (·.name = name) with
    | some unknown => simp only [hunknown] at h; exact nomatch h
    | none =>
        simp only [hunknown] at h
        cases hsource : operation.source
        all_goals
          simp only [hsource] at h
          obtain ⟨variants, hvariants, h⟩ := bind_eq_ok.mp h
          obtain ⟨assigned, hassigned, h⟩ := bind_eq_ok.mp h
          refine ⟨p, program, variants, assigned, hprogram, (honly program).mp hunknown,
            hvariants, hassigned, ?_⟩
          cases hcollision : Sibling.collision? []
              ((program.siblings operation.siblings).map fun s =>
                ⟨s.name, tagOf? assigned s.name <|> s.tag⟩) with
          | some collision => simp only [hcollision] at h; exact nomatch h
          | none => simp only [hcollision] at h; exact ⟨rfl, (pure_eq_ok.mp h).symm⟩
  · rintro ⟨p, program, variants, assigned, hprogram, hnames, hvariants, hassigned, hcollision,
      rfl⟩
    refine bind_eq_ok.mpr ⟨_, hprogram, ?_⟩
    simp only [(honly program).mpr hnames]
    cases hsource : operation.source
    all_goals
      rw [hsource] at hvariants
      refine bind_eq_ok.mpr ⟨variants, hvariants, bind_eq_ok.mpr ⟨assigned, hassigned, ?_⟩⟩
      simp only [hcollision]
      rfl

/-- Assigning tags that succeeds gives them to the members of a program of the tree. -/
theorem apply_eq_ok (h : operation.apply (Index.of tree) = .ok next) :
    ∃ p program variants assigned,
      tree.programs[p]? = some program ∧ operation.program = .program program.name
        ∧ operation.assigned variants (program.siblings operation.siblings) = .ok assigned
        ∧ Sibling.collision? [] ((program.siblings operation.siblings).map fun s =>
            ⟨s.name, tagOf? assigned s.name <|> s.tag⟩) = none
        ∧ next = tree.modifyProgram p (·.setTags operation.siblings (tagOf? assigned)) := by
  obtain ⟨p, program, variants, assigned, hprogram, -, -, hassigned, hcollision, hnext⟩ :=
    apply_eq_ok_iff.mp h
  obtain ⟨_, hslot, hpath, hp⟩ := (Index.holds_of_program hprogram).program_inv
  obtain rfl := Slot.program.inj hslot
  exact ⟨p, program, variants, assigned, hp, hpath, hassigned, hcollision, hnext⟩

/-- Assigning tags leaves all but tags alone. -/
theorem frame (h : operation.apply (Index.of tree) = .ok next) :
    next.keeping (Attachment.allBut .tag) = tree.keeping (Attachment.allBut .tag) := by
  obtain ⟨p, program, variants, assigned, -, -, -, -, rfl⟩ := apply_eq_ok h
  exact Tree.keeping_modifyProgram (Program.setTags_frame operation.siblings _)

end AssignDiscriminators

/-- The same instruction with a default for the account at a position. -/
def Instruction.setAccount (m : Nat) (value : DefaultValue) (instruction : Instruction) :
    Instruction :=
  { instruction with
    accounts := instruction.accounts.modify m ({ · with defaultValue := some value }) }

/-- The same instruction with a default for the argument at a position. -/
def Instruction.setArgument (m : Nat) (value : DefaultValue) (instruction : Instruction) :
    Instruction :=
  { instruction with
    arguments := instruction.arguments.modify m ({ · with defaultValue := some value }) }

/-- A default of an account is unseen where defaults are forgotten. -/
theorem Instruction.setAccount_frame (m : Nat) (value : DefaultValue) (instruction : Instruction) :
    (instruction.setAccount m value).keeping (Attachment.allBut .default)
      = instruction.keeping (Attachment.allBut .default) := by
  have haccounts : (instruction.accounts.modify m ({ · with defaultValue := some value })).map
      (·.keeping (Attachment.allBut .default))
        = instruction.accounts.map (·.keeping (Attachment.allBut .default)) := by
    refine map_modify_of_unseen ?_ _ _
    exact fun _ => rfl
  simp only [setAccount, keeping, haccounts]

/-- A default of an argument is unseen where defaults are forgotten. -/
theorem Instruction.setArgument_frame (m : Nat) (value : DefaultValue) (instruction : Instruction) :
    (instruction.setArgument m value).keeping (Attachment.allBut .default)
      = instruction.keeping (Attachment.allBut .default) := by
  have harguments : (instruction.arguments.modify m ({ · with defaultValue := some value })).map
      (·.keeping (Attachment.allBut .default))
        = instruction.arguments.map (·.keeping (Attachment.allBut .default)) := by
    refine map_modify_of_unseen ?_ _ _
    exact fun _ => rfl
  simp only [setArgument, keeping, harguments]

/-- Attaching a default leaves all but defaults alone. -/
theorem Tree.setDefault_frame (slot : Slot) (value : DefaultValue) :
    (tree.setDefault slot value).keeping (Attachment.allBut .default)
      = tree.keeping (Attachment.allBut .default) := by
  cases slot with
  | instructionAccount p i m =>
      exact keeping_modifyInstruction (Instruction.setAccount_frame m value)
  | instructionArgument p i m =>
      exact keeping_modifyInstruction (Instruction.setArgument_frame m value)
  | _ => rfl

/-- Setting defaults leaves all but defaults alone. -/
theorem SetDefaults.frame {operation : SetDefaults}
    (h : operation.apply (Index.of tree) = .ok next) :
    next.keeping (Attachment.allBut .default) = tree.keeping (Attachment.allBut .default) := by
  refine foldlM_preserves (P := fun t => t.keeping (Attachment.allBut .default)
    = tree.keeping (Attachment.allBut .default)) (fun t t' rule _ ht hstep => ?_) rfl h
  obtain ⟨⟨slot, value⟩, -, hstep⟩ := bind_eq_ok.mp hstep
  rw [← pure_eq_ok.mp hstep, Tree.setDefault_frame, ht]

end Bindery
