import Bindery.Proofs.Reachable

/-! # Outlines — what no operation changes

    The outline of a tree is the tree with blanks in the place of what operations
    write: the names of nodes, the names in links, and every attachment.  All
    else is in it, slot by slot (`nodeAt?_outline`): addresses, versions and
    documentation, errors, the flags of accounts, fields and variants with their
    names and discriminants, and the shapes of types.

    Three of the operations attach something, and an outline sees no attachment
    (`outline_eq_of_keeping_eq`).  A rename writes names, looks references up and
    skips what mentions nothing renamed; none of this shows in an outline,
    whichever slots the names are written to (`Rename.apply_outline`).  So no
    names have to be distinct here, and the outline of the base is that of every
    stage of a run (`run_outline`). -/

namespace Bindery

/-- The same type with blank links. -/
def TypeNode.outline (type : TypeNode) : TypeNode := type.mapLinks fun _ => ""

/-- The same account with blanks for its name, links and attachments. -/
def Account.outline (account : Account) : Account :=
  { account with
    name := ""
    fields := TypeNode.mapFieldLinks (fun _ => "") account.fields
    discriminator := none
    seeds := none }

/-- The same instruction account with blanks for its name and default. -/
def InstructionAccount.outline (account : InstructionAccount) : InstructionAccount :=
  { account with name := "", defaultValue := none }

/-- The same argument with blanks for its name, links and default. -/
def InstructionArgument.outline (argument : InstructionArgument) : InstructionArgument :=
  { argument with name := "", type := argument.type.outline, defaultValue := none }

/-- The same instruction with blanks for names, links and attachments. -/
def Instruction.outline (instruction : Instruction) : Instruction :=
  { instruction with
    name := ""
    accounts := instruction.accounts.map (·.outline)
    arguments := instruction.arguments.map (·.outline)
    discriminator := none }

/-- The same defined type with blanks for its name and links. -/
def DefinedType.outline (defined : DefinedType) : DefinedType :=
  { defined with name := "", type := defined.type.outline }

/-- The same program with blanks for names, links and attachments. -/
def Program.outline (program : Program) : Program :=
  { program with
    name := ""
    accounts := program.accounts.map (·.outline)
    instructions := program.instructions.map (·.outline)
    definedTypes := program.definedTypes.map (·.outline) }

/-- The same tree with blanks for names, links and attachments. -/
def Tree.outline (tree : Tree) : Tree where
  programs := tree.programs.map (·.outline)
  sharedTypes := tree.sharedTypes.map (·.outline)

/-- The outline of a node of any kind. -/
def Node.outline : Node → Node
  | .program n => .program n.outline
  | .account n => .account n.outline
  | .instruction n => .instruction n.outline
  | .instructionAccount n => .instructionAccount n.outline
  | .instructionArgument n => .instructionArgument n.outline
  | .definedType n => .definedType n.outline

/-- What is read of an item in a list is read of its view in the list of views. -/
theorem bind_getElem?_map {α β γ δ : Type} {view : α → β} {l : List α} {i : Nat}
    {read : α → Option γ} {read' : β → Option δ} {g : γ → δ}
    (h : ∀ a, read' (view a) = (read a).map g) :
    ((l.map view)[i]? >>= read') = (l[i]? >>= read).map g := by
  rw [List.getElem?_map]
  cases l[i]? with
  | none => rfl
  | some a => exact h a

/-- **SLOT BY SLOT**: an outline has the slots of its tree, with the outlines of the nodes
    in them. -/
theorem Tree.nodeAt?_outline (tree : Tree) (slot : Slot) :
    tree.outline.nodeAt? slot = (tree.nodeAt? slot).map Node.outline := by
  cases slot with
  | program p =>
      simp only [nodeAt?, outline, List.getElem?_map, Option.map_map]
      rfl
  | sharedType i =>
      simp only [nodeAt?, outline, List.getElem?_map, Option.map_map]
      rfl
  | account p i => exact bind_getElem?_map fun _ => bind_getElem?_map fun _ => rfl
  | definedType p i => exact bind_getElem?_map fun _ => bind_getElem?_map fun _ => rfl
  | instruction p i => exact bind_getElem?_map fun _ => bind_getElem?_map fun _ => rfl
  | instructionAccount p i m =>
      exact bind_getElem?_map fun _ => bind_getElem?_map fun _ => bind_getElem?_map fun _ => rfl
  | instructionArgument p i m =>
      exact bind_getElem?_map fun _ => bind_getElem?_map fun _ => bind_getElem?_map fun _ => rfl

/-! ## What an outline does not see -/

/-- A map by position that a view does not see is not seen in the list. -/
theorem map_mapIdx_of_unseen {α β γ : Type} {f : Nat → α → β} {view : β → γ} {view' : α → γ}
    (l : List α) (h : ∀ i a, view (f i a) = view' a) : (l.mapIdx f).map view = l.map view' := by
  rw [map_mapIdx]
  exact mapIdx_eq_map fun i a _ => h i a

/-- Links are blank whatever they were rewritten to. -/
theorem TypeNode.outline_mapLinks (rename : String → String) (type : TypeNode) :
    (type.mapLinks rename).outline = type.outline :=
  mapLinks_mapLinks rename (fun _ => "") type

namespace Instruction

/-- Attachments are no part of an outline. -/
theorem outline_keeping (kept : Attachment → Bool) (instruction : Instruction) :
    (instruction.keeping kept).outline = instruction.outline := by
  simp only [outline, keeping, List.map_map]
  rfl

/-- Defaults are no part of an outline. -/
theorem outline_mapDefaults (change : DefaultValue → DefaultValue) (instruction : Instruction) :
    (instruction.mapDefaults change).outline = instruction.outline := by
  simp only [outline, mapDefaults, List.map_map]
  rfl

/-- The names of an instruction and its inputs are no part of an outline. -/
theorem outline_mapNames (names : Slot → String → String) (p i : Nat)
    (instruction : Instruction) :
    (instruction.mapNames names p i).outline = instruction.outline := by
  have haccounts : (instruction.accounts.mapIdx fun m a =>
      { a with name := names (.instructionAccount p i m) a.name }).map (·.outline)
        = instruction.accounts.map (·.outline) :=
    map_mapIdx_of_unseen _ fun _ _ => rfl
  have harguments : (instruction.arguments.mapIdx fun m a =>
      { a with name := names (.instructionArgument p i m) a.name }).map (·.outline)
        = instruction.arguments.map (·.outline) :=
    map_mapIdx_of_unseen _ fun _ _ => rfl
  simp only [outline, mapNames, haccounts, harguments]

end Instruction

namespace Program

/-- Attachments are no part of an outline. -/
theorem outline_keeping (kept : Attachment → Bool) (program : Program) :
    (program.keeping kept).outline = program.outline := by
  simp only [outline, keeping, List.map_map, Function.comp_def, Instruction.outline_keeping]
  rfl

/-- The names in links are no part of an outline. -/
theorem outline_mapLinks (rename : String → String) (program : Program) :
    (program.mapLinks rename).outline = program.outline := by
  simp only [outline, mapLinks, List.map_map, Function.comp_def, Account.outline,
    Account.mapLinks, Instruction.outline, Instruction.mapLinks, InstructionArgument.outline,
    DefinedType.outline, DefinedType.mapLinks, TypeNode.outline_mapLinks,
    TypeNode.mapFieldLinks_mapFieldLinks]

/-- The names of a program and its nodes are no part of an outline. -/
theorem outline_mapNames (names : Slot → String → String) (p : Nat) (program : Program) :
    (program.mapNames names p).outline = program.outline := by
  have haccounts : (program.accounts.mapIdx fun i a =>
      { a with name := names (.account p i) a.name }).map (·.outline)
        = program.accounts.map (·.outline) :=
    map_mapIdx_of_unseen _ fun _ _ => rfl
  have htypes : (program.definedTypes.mapIdx fun i t =>
      { t with name := names (.definedType p i) t.name }).map (·.outline)
        = program.definedTypes.map (·.outline) :=
    map_mapIdx_of_unseen _ fun _ _ => rfl
  have hinstructions : (program.instructions.mapIdx fun i instruction =>
      instruction.mapNames names p i).map (·.outline) = program.instructions.map (·.outline) :=
    map_mapIdx_of_unseen _ fun i instruction => instruction.outline_mapNames names p i
  simp only [outline, mapNames, haccounts, htypes, hinstructions]

end Program

/-- Trees that are the same up to attachments have one outline. -/
theorem Tree.outline_eq_of_keeping_eq {tree next : Tree} {kept : Attachment → Bool}
    (h : next.keeping kept = tree.keeping kept) : next.outline = tree.outline := by
  have hkeeping : ∀ tree : Tree, (tree.keeping kept).outline = tree.outline := by
    intro tree
    simp only [outline, keeping, List.map_map, Function.comp_def, Program.outline_keeping]
  rw [← hkeeping next, h, hkeeping tree]

/-! ## Renames -/

namespace Renaming

/-- Looking the references of an instruction up changes no outline. -/
theorem outline_updateInstruction (renamings : List Renaming) (p i : Nat)
    (instruction : Instruction) :
    (updateInstruction renamings p i instruction).outline = instruction.outline := by
  rw [updateInstruction_eq, Instruction.outline_mapDefaults, Instruction.outline_mapDefaults]

/-- Looking the references of a program up changes no outline. -/
theorem outline_updateProgram (renamings : List Renaming) (p : Nat) (before program : Program) :
    (updateProgram renamings before p program).outline = program.outline := by
  have hinstructions : (program.instructions.mapIdx fun i instruction =>
      updateInstruction renamings p i instruction).map (·.outline)
        = program.instructions.map (·.outline) :=
    map_mapIdx_of_unseen _ (outline_updateInstruction renamings p)
  rw [updateProgram_eq, Program.outline_mapLinks]
  simp only [Program.outline, hinstructions]

end Renaming

/-- A rename that succeeds changes no outline. -/
theorem Rename.apply_outline {tree next : Tree} {operation : Rename}
    (h : operation.apply (Index.of tree) = .ok next) : next.outline = tree.outline := by
  obtain ⟨renamings, -, happly⟩ := bind_eq_ok.mp h
  rw [← pure_eq_ok.mp happly]
  show (Renaming.updateReferences _ tree (List.foldl _ tree _)).outline = _
  rw [foldl_setName, Renaming.updateReferences_eq, Tree.outline]
  refine congrArg₂ Tree.mk ?_ ?_
  · refine map_mapIdx_of_unseen _ fun p program => ?_
    rw [Renaming.outline_updateProgram, Program.outline_mapNames]
  · refine map_mapIdx_of_unseen _ fun i t => ?_
    simp only [DefinedType.outline, TypeNode.outline_mapLinks]

/-! ## Runs -/

/-- No operation changes the outline of the tree that it is applied to. -/
theorem Operation.apply_outline {tree next : Tree} {operation : Operation}
    (h : operation.apply (Index.of tree) = .ok next) : next.outline = tree.outline := by
  cases operation with
  | rename op => exact Rename.apply_outline h
  | setSeeds op => exact Tree.outline_eq_of_keeping_eq (SetSeeds.frame h)
  | assignDiscriminators op => exact Tree.outline_eq_of_keeping_eq (AssignDiscriminators.frame h)
  | setDefaults op => exact Tree.outline_eq_of_keeping_eq (SetDefaults.frame h)

/-- The last tree of a run is that of one of its stages. -/
theorem exists_finalTree {base : Tree} {operations : List NamedOperation} {stages : List Stage}
    (h : Pipeline.run base operations = .ok stages) :
    ∃ stage ∈ stages, Pipeline.finalTree base stages = stage.tree := by
  obtain ⟨rest, -, h⟩ := bind_eq_ok.mp h
  rw [← pure_eq_ok.mp h, Pipeline.finalTree, List.getLast?_cons, ← List.getLastD_eq_getLast?]
  exact ⟨_, List.getLastD_mem_cons, rfl⟩

/-- **THE OUTLINE STAYS**: over any base, every stage of a run that succeeds has the outline
    of the base; so its last tree has the slots of the base, with nodes in them that differ
    in names, links and attachments at most. -/
theorem run_outline {base : Tree} {operations : List NamedOperation} {stages : List Stage}
    (h : Pipeline.run base operations = .ok stages) :
    (∀ stage ∈ stages, stage.tree.outline = base.outline)
      ∧ (Pipeline.finalTree base stages).outline = base.outline
      ∧ ∀ slot, ((Pipeline.finalTree base stages).nodeAt? slot).map Node.outline
          = (base.nodeAt? slot).map Node.outline := by
  have hstages : ∀ stage ∈ stages, stage.tree.outline = base.outline :=
    forall_of_run (P := fun tree => tree.outline = base.outline)
      (fun hbefore happly => (Operation.apply_outline happly).trans hbefore) rfl h
  obtain ⟨stage, hmem, hfinal⟩ := exists_finalTree h
  have houtline : (Pipeline.finalTree base stages).outline = base.outline :=
    hfinal ▸ hstages stage hmem
  refine ⟨hstages, houtline, fun slot => ?_⟩
  rw [← Tree.nodeAt?_outline, ← Tree.nodeAt?_outline, houtline]

theorem run_outline_bank : ∃ stages,
    Pipeline.run bankTree bankRun = .ok stages
      ∧ (stages.length = 5 ∧ Pipeline.finalTree bankTree stages ≠ bankTree)
      ∧ (∀ stage ∈ stages, stage.tree.outline = bankTree.outline)
      ∧ (Pipeline.finalTree bankTree stages).outline = bankTree.outline
      ∧ ∀ slot, ((Pipeline.finalTree bankTree stages).nodeAt? slot).map Node.outline
          = (bankTree.nodeAt? slot).map Node.outline := by
  obtain ⟨stages, hrun, htest⟩ : ∃ stages, Pipeline.run bankTree bankRun = .ok stages
      ∧ decide (stages.length = 5 ∧ Pipeline.finalTree bankTree stages ≠ bankTree) = true :=
    exists_ok_of_any (by decide +kernel)
  exact ⟨stages, hrun, of_decide_eq_true htest, run_outline hrun⟩

end Bindery
