import Bindery.Proofs.Index.Lookup
import Bindery.Proofs.Outline

/-! # Positions — where the index says a node is, it is

    The operations write to a copy of the tree that was indexed, at positions
    that the index gave.  Their definitions say nothing of a position that leads
    nowhere: a list is then left as it is.  Here every position is looked at.  A
    list is written to only where it has an item (`writeAt`), the lists of
    programs, of their members and of their inputs one inside the other, and an
    operation done this way (`Operation.run`) stops for one more reason: what the
    index selected is lost (`Stop.lost`).

    That reason never comes up, and `Operation.run` does what `Operation.apply`
    does (`Operation.run_eq`).  The argument is about edited copies: positions
    are about the outline of a tree, and writing a name or a default does not
    show in it (`outline_setName`, `outline_setDefault`), so that a slot that was
    filled in the tree of the index is filled in every copy on the way
    (`writeName_eq`, `writeDefault_eq`). -/

namespace Bindery

/-- Why an operation that looks at every position stops. -/
inductive Stop where
  /-- The operation does not apply. -/
  | refused (error : TransformError)
  /-- What a path selected in the index is not where the index has it. -/
  | lost (path : NodePath)

/-- The item at a position in a list, with the position. -/
def itemAt {α : Type} (path : NodePath) (position : Option Nat) (l : List α) :
    Except Stop (Nat × α) :=
  match position with
  | none => .error (.lost path)
  | some i =>
    match l[i]? with
    | none => .error (.lost path)
    | some a => .ok (i, a)

/-- The list with the item at a position changed. -/
def writeAt {α : Type} (path : NodePath) (position : Option Nat) (change : α → Except Stop α)
    (l : List α) : Except Stop (List α) := do
  let (i, a) ← itemAt path position l
  return l.set i (← change a)

namespace Instruction

/-- Change the account that a slot leads to. -/
def writeAccount (instruction : Instruction) (path : NodePath) (slot : Slot)
    (change : InstructionAccount → InstructionAccount) : Except Stop Instruction := do
  let write := writeAt path slot.member? fun account => .ok (change account)
  return { instruction with accounts := ← write instruction.accounts }

/-- Change the argument that a slot leads to. -/
def writeArgument (instruction : Instruction) (path : NodePath) (slot : Slot)
    (change : InstructionArgument → InstructionArgument) : Except Stop Instruction := do
  let write := writeAt path slot.member? fun argument => .ok (change argument)
  return { instruction with arguments := ← write instruction.arguments }

end Instruction

namespace Tree

/-- Change the program that a slot leads to. -/
def writeProgram (tree : Tree) (path : NodePath) (slot : Slot)
    (change : Program → Except Stop Program) : Except Stop Tree := do
  return { tree with programs := ← writeAt path slot.program? change tree.programs }

/-- Change the account of a program that a slot leads to. -/
def writeAccount (tree : Tree) (path : NodePath) (slot : Slot) (change : Account → Account) :
    Except Stop Tree :=
  tree.writeProgram path slot fun program => do
    let write := writeAt path slot.item? fun account => .ok (change account)
    return { program with accounts := ← write program.accounts }

/-- Change the instruction that a slot leads to. -/
def writeInstruction (tree : Tree) (path : NodePath) (slot : Slot)
    (change : Instruction → Except Stop Instruction) : Except Stop Tree :=
  tree.writeProgram path slot fun program => do
    return { program with instructions := ← writeAt path slot.item? change program.instructions }

/-- Change the type of a program that a slot leads to. -/
def writeDefinedType (tree : Tree) (path : NodePath) (slot : Slot)
    (change : DefinedType → DefinedType) : Except Stop Tree :=
  tree.writeProgram path slot fun program => do
    let write := writeAt path slot.item? fun defined => .ok (change defined)
    return { program with definedTypes := ← write program.definedTypes }

/-- Change the shared type that a slot leads to. -/
def writeSharedType (tree : Tree) (path : NodePath) (slot : Slot)
    (change : DefinedType → DefinedType) : Except Stop Tree := do
  let write := writeAt path slot.item? fun defined => .ok (change defined)
  return { tree with sharedTypes := ← write tree.sharedTypes }

/-- Another name for the node that a path selects. The form of the path says which lists the
    positions of the slot are in. -/
def writeName (tree : Tree) (path : NodePath) (slot : Slot) (newName : String) :
    Except Stop Tree :=
  match path with
  | .program _ => tree.writeProgram path slot fun node => .ok { node with name := newName }
  | .account _ _ => tree.writeAccount path slot ({ · with name := newName })
  | .instruction _ _ =>
    tree.writeInstruction path slot fun node => .ok { node with name := newName }
  | .instructionAccount _ _ _ =>
    tree.writeInstruction path slot (·.writeAccount path slot ({ · with name := newName }))
  | .instructionArgument _ _ _ =>
    tree.writeInstruction path slot (·.writeArgument path slot ({ · with name := newName }))
  | .definedType _ _ => tree.writeDefinedType path slot ({ · with name := newName })
  | .sharedType _ => tree.writeSharedType path slot ({ · with name := newName })

/-- A default for the input that a path selects. -/
def writeDefault (tree : Tree) (path : NodePath) (slot : Slot) (of : InputTarget)
    (value : DefaultValue) : Except Stop Tree :=
  tree.writeInstruction path slot fun instruction =>
    match of with
    | .account _ => instruction.writeAccount path slot ({ · with defaultValue := some value })
    | .argument _ => instruction.writeArgument path slot ({ · with defaultValue := some value })

/-- Look for the program or the instruction whose references a new name is for. -/
def reach (tree : Tree) (path : NodePath) (slot : Slot) : Except Stop Unit :=
  match path with
  | .account _ _ | .definedType _ _ => do
    let _ ← itemAt path slot.program? tree.programs
  | .instructionAccount _ _ _ | .instructionArgument _ _ _ => do
    let (_, program) ← itemAt path slot.program? tree.programs
    let _ ← itemAt path slot.item? program.instructions
  | .program _ | .instruction _ _ | .sharedType _ => return

end Tree

/-! ## Operations that look at every position -/

/-- A rename: new names one after another, then the references. -/
def Rename.run (operation : Rename) (index : Index) : Except Stop Tree := do
  let plan ← (operation.plan index).mapError .refused
  let renamings := plan.filter (·.changes)
  let renamed ← renamings.foldlM (fun tree r => tree.writeName r.path r.slot r.newName) index.tree
  renamings.forM fun r => renamed.reach r.path r.slot
  return Renaming.updateReferences renamings index.tree renamed

/-- A recipe for the account that a path selects. -/
def SetSeeds.run (operation : SetSeeds) (index : Index) : Except Stop Tree := do
  let (_, slot) ← (index.account operation.account).mapError .refused
  let check := (Seed.check operation.seeds).mapError (.invalidSeeds operation.account)
  check.mapError .refused
  index.tree.writeAccount operation.account slot ({ · with seeds := some operation.seeds })

namespace AssignDiscriminators

/-- The tags that an operation has for the members of a program, after all its checks. -/
def tagsFor (operation : AssignDiscriminators) (index : Index) (program : Program) :
    Except TransformError (List (String × Discriminator)) := do
  let siblings := program.siblings operation.siblings
  match operation.only.find? fun name => !siblings.any (·.name = name) with
  | some unknown => throw (.unresolved (operation.siblings.path program.name unknown))
  | none => pure ()
  let variants ← operation.source.variants index
  let assigned ← operation.assigned variants siblings
  let tagged := siblings.map fun s => ⟨s.name, tagOf? assigned s.name <|> s.tag⟩
  match Sibling.collision? [] tagged with
  | some (first, second, tag) =>
    throw (.discriminatorCollision operation.scope first second tag)
  | none => return assigned

/-- Tags for the members of the program that a path selects. -/
def run (operation : AssignDiscriminators) (index : Index) : Except Stop Tree := do
  let (program, slot) ← (index.program operation.program).mapError .refused
  let tags ← (operation.tagsFor index program).mapError .refused
  index.tree.writeProgram operation.program slot fun program =>
    .ok (program.setTags operation.siblings (tagOf? tags))

end AssignDiscriminators

/-- The tree with the value of a rule at its target. An input that is selected without the
    instruction around it is lost. -/
def DefaultRule.putInto (index : Index) (rule : DefaultRule) (tree : Tree) : Except Stop Tree := do
  let entry ← (index.resolve rule.target).mapError .refused
  let of ← (rule.targetOf entry).mapError .refused
  let some parent := rule.target.parent? | throw (.lost rule.target)
  let (instruction, _) ← (index.instruction parent).mapError fun _ => .lost parent
  let value ← (rule.resolve index instruction of).mapError .refused
  tree.writeDefault rule.target entry.slot of value

/-- Defaults for inputs, one rule after another. -/
def SetDefaults.run (operation : SetDefaults) (index : Index) : Except Stop Tree :=
  operation.rules.foldlM (fun tree rule => DefaultRule.putInto index rule tree) index.tree

/-- An operation that looks at every position. -/
def Operation.run (operation : Operation) (index : Index) : Except Stop Tree :=
  match operation with
  | .rename op => op.run index
  | .setSeeds op => op.run index
  | .assignDiscriminators op => op.run index
  | .setDefaults op => op.run index

/-! ## Positions that lead somewhere -/

/-- An item that is there is not lost. -/
theorem itemAt_eq {α : Type} {path : NodePath} {l : List α} {i : Nat} {a : α}
    (ha : l[i]? = some a) : itemAt path (some i) l = .ok (i, a) := by
  simp only [itemAt, ha]

/-- Where there is an item, it is changed. -/
theorem writeAt_eq {α : Type} {path : NodePath} {l : List α} {i : Nat} {a : α}
    {change : α → Except Stop α} {f : α → α} (ha : l[i]? = some a)
    (hchange : change a = .ok (f a)) :
    writeAt path (some i) change l = .ok (l.modify i f) := by
  refine bind_eq_ok.mpr ⟨(i, a), itemAt_eq ha, bind_eq_ok.mpr ⟨f a, hchange, ?_⟩⟩
  rw [List.modify_eq_set_getElem?, ha]
  rfl

namespace Tree

variable {tree : Tree} {path : NodePath} {slot : Slot} {p i m : Nat} {program : Program}
  {instruction : Instruction}

/-- A program that is there is changed. -/
theorem writeProgram_eq {change : Program → Except Stop Program} {f : Program → Program}
    (hp : tree.programs[p]? = some program) (hslot : slot.program? = some p)
    (hchange : change program = .ok (f program)) :
    tree.writeProgram path slot change = .ok (tree.modifyProgram p f) := by
  refine bind_eq_ok.mpr ⟨tree.programs.modify p f, ?_, rfl⟩
  rw [hslot, writeAt_eq hp hchange]

/-- An account that is there is changed. -/
theorem writeAccount_eq {account : Account} {change : Account → Account}
    (hp : tree.programs[p]? = some program) (hi : program.accounts[i]? = some account) :
    tree.writeAccount path (.account p i) change = .ok (tree.modifyAccount p i change) := by
  refine writeProgram_eq hp rfl (bind_eq_ok.mpr ⟨program.accounts.modify i change, ?_, rfl⟩)
  exact writeAt_eq hi rfl

/-- An instruction that is there is changed. -/
theorem writeInstruction_eq {change : Instruction → Except Stop Instruction}
    {f : Instruction → Instruction} (hp : tree.programs[p]? = some program)
    (hi : program.instructions[i]? = some instruction) (hslot : slot.program? = some p)
    (hitem : slot.item? = some i) (hchange : change instruction = .ok (f instruction)) :
    tree.writeInstruction path slot change = .ok (tree.modifyInstruction p i f) := by
  refine writeProgram_eq hp hslot (bind_eq_ok.mpr ⟨program.instructions.modify i f, ?_, rfl⟩)
  rw [hitem, writeAt_eq hi hchange]

/-- A type of a program that is there is changed. -/
theorem writeDefinedType_eq {defined : DefinedType} {change : DefinedType → DefinedType}
    (hp : tree.programs[p]? = some program) (hi : program.definedTypes[i]? = some defined) :
    tree.writeDefinedType path (.definedType p i) change
      = .ok (tree.modifyDefinedType p i change) := by
  refine writeProgram_eq hp rfl (bind_eq_ok.mpr ⟨program.definedTypes.modify i change, ?_, rfl⟩)
  exact writeAt_eq hi rfl

/-- A shared type that is there is changed. -/
theorem writeSharedType_eq {defined : DefinedType} {change : DefinedType → DefinedType}
    (hi : tree.sharedTypes[i]? = some defined) :
    tree.writeSharedType path (.sharedType i) change = .ok (tree.modifySharedType i change) :=
  bind_eq_ok.mpr ⟨tree.sharedTypes.modify i change, writeAt_eq hi rfl, rfl⟩

end Tree

/-- An account of an instruction that is there is changed. -/
theorem Instruction.writeAccount_eq {instruction : Instruction} {path : NodePath} {p i m : Nat}
    {account : InstructionAccount} {change : InstructionAccount → InstructionAccount}
    (hm : instruction.accounts[m]? = some account) :
    instruction.writeAccount path (.instructionAccount p i m) change
      = .ok { instruction with accounts := instruction.accounts.modify m change } :=
  bind_eq_ok.mpr ⟨instruction.accounts.modify m change, writeAt_eq hm rfl, rfl⟩

/-- An argument of an instruction that is there is changed. -/
theorem Instruction.writeArgument_eq {instruction : Instruction} {path : NodePath} {p i m : Nat}
    {argument : InstructionArgument} {change : InstructionArgument → InstructionArgument}
    (hm : instruction.arguments[m]? = some argument) :
    instruction.writeArgument path (.instructionArgument p i m) change
      = .ok { instruction with arguments := instruction.arguments.modify m change } :=
  bind_eq_ok.mpr ⟨instruction.arguments.modify m change, writeAt_eq hm rfl, rfl⟩

/-! ## Edited copies -/

/-- Lists that look the same have items in the same places. -/
theorem exists_getElem?_of_map_eq {α β : Type} (view : α → β) {l l' : List α} {i : Nat} {a : α}
    (h : l'.map view = l.map view) (ha : l[i]? = some a) :
    ∃ a', l'[i]? = some a' ∧ view a' = view a := by
  have hview : (l'.map view)[i]? = (l.map view)[i]? := by rw [h]
  rw [List.getElem?_map, List.getElem?_map, ha] at hview
  exact Option.map_eq_some_iff.mp hview

namespace Tree

/-- Names are no part of an outline. -/
theorem outline_mapNames (names : Slot → String → String) (tree : Tree) :
    (tree.mapNames names).outline = tree.outline := by
  refine congrArg₂ Tree.mk ?_ ?_
  · exact map_mapIdx_of_unseen _ fun p program => program.outline_mapNames names p
  · exact map_mapIdx_of_unseen _ fun _ _ => rfl

/-- Writing a name changes no outline. -/
theorem outline_setName (tree : Tree) (slot : Slot) (newName : String) :
    (tree.setName slot newName).outline = tree.outline := by
  rw [setName_eq_mapNames, outline_mapNames]

/-- Writing a default changes no outline. -/
theorem outline_setDefault (tree : Tree) (slot : Slot) (value : DefaultValue) :
    (tree.setDefault slot value).outline = tree.outline :=
  outline_eq_of_keeping_eq (setDefault_frame slot value)

section Edited

variable {tree edited : Tree} {path : NodePath} {slot : Slot} {node : Node} {p i : Nat}
  {program : Program} {instruction : Instruction}

/-- An edited copy has a program where the tree has one. -/
theorem exists_program (ho : edited.outline = tree.outline)
    (hp : tree.programs[p]? = some program) :
    ∃ program', edited.programs[p]? = some program' ∧ program'.outline = program.outline :=
  exists_getElem?_of_map_eq Program.outline (congrArg Tree.programs ho) hp

/-- An edited copy has an instruction where the tree has one. -/
theorem exists_instruction (ho : edited.outline = tree.outline)
    (hp : tree.programs[p]? = some program)
    (hi : program.instructions[i]? = some instruction) :
    ∃ program' instruction', edited.programs[p]? = some program'
      ∧ program'.instructions[i]? = some instruction'
      ∧ instruction'.outline = instruction.outline := by
  obtain ⟨program', hp', ho⟩ := exists_program ho hp
  obtain ⟨instruction', hi', ho⟩ :=
    exists_getElem?_of_map_eq Instruction.outline (congrArg Program.instructions ho) hi
  exact ⟨program', instruction', hp', hi', ho⟩

/-- **NO NAME IS LOST**: in an edited copy of a tree, the slot of a path that the tree holds is
    where the form of the path says, and its name is written. -/
theorem writeName_eq (ho : edited.outline = tree.outline) (h : tree.Holds slot path node)
    (newName : String) :
    edited.writeName path slot newName = .ok (edited.setName slot newName) := by
  cases h with
  | program hp =>
      obtain ⟨_, hp, -⟩ := exists_program ho hp
      exact writeProgram_eq hp rfl rfl
  | account hp hi =>
      obtain ⟨_, hp, ho⟩ := exists_program ho hp
      obtain ⟨_, hi, -⟩ :=
        exists_getElem?_of_map_eq Account.outline (congrArg Program.accounts ho) hi
      exact writeAccount_eq hp hi
  | definedType hp hi =>
      obtain ⟨_, hp, ho⟩ := exists_program ho hp
      obtain ⟨_, hi, -⟩ :=
        exists_getElem?_of_map_eq DefinedType.outline (congrArg Program.definedTypes ho) hi
      exact writeDefinedType_eq hp hi
  | instruction hp hi =>
      obtain ⟨_, _, hp, hi, -⟩ := exists_instruction ho hp hi
      exact writeInstruction_eq hp hi rfl rfl rfl
  | instructionAccount hp hi hm =>
      obtain ⟨_, _, hp, hi, ho⟩ := exists_instruction ho hp hi
      obtain ⟨_, hm, -⟩ := exists_getElem?_of_map_eq InstructionAccount.outline
        (congrArg Instruction.accounts ho) hm
      exact writeInstruction_eq hp hi rfl rfl (Instruction.writeAccount_eq hm)
  | instructionArgument hp hi hm =>
      obtain ⟨_, _, hp, hi, ho⟩ := exists_instruction ho hp hi
      obtain ⟨_, hm, -⟩ := exists_getElem?_of_map_eq InstructionArgument.outline
        (congrArg Instruction.arguments ho) hm
      exact writeInstruction_eq hp hi rfl rfl (Instruction.writeArgument_eq hm)
  | sharedType hi =>
      obtain ⟨_, hi, -⟩ :=
        exists_getElem?_of_map_eq DefinedType.outline (congrArg Tree.sharedTypes ho) hi
      exact writeSharedType_eq hi

/-- A default is written in an edited copy as well. -/
theorem writeDefault_eq (ho : edited.outline = tree.outline) {entry : Entry} {rule : DefaultRule}
    {of : InputTarget} (h : tree.Holds entry.slot rule.target entry.node)
    (hof : rule.targetOf entry = .ok of) (value : DefaultValue) :
    edited.writeDefault rule.target entry.slot of value
      = .ok (edited.setDefault entry.slot value) := by
  obtain ⟨target, given⟩ := rule
  obtain ⟨path, slot, node⟩ := entry
  cases h with
  | instructionAccount hp hi hm =>
      obtain rfl := Except.ok.inj hof
      obtain ⟨_, _, hp, hi, ho⟩ := exists_instruction ho hp hi
      obtain ⟨_, hm, -⟩ :=
        exists_getElem?_of_map_eq InstructionAccount.outline (congrArg Instruction.accounts ho) hm
      exact writeInstruction_eq hp hi rfl rfl (Instruction.writeAccount_eq hm)
  | instructionArgument hp hi hm =>
      obtain rfl := Except.ok.inj hof
      obtain ⟨_, _, hp, hi, ho⟩ := exists_instruction ho hp hi
      obtain ⟨_, hm, -⟩ := exists_getElem?_of_map_eq InstructionArgument.outline
        (congrArg Instruction.arguments ho) hm
      exact writeInstruction_eq hp hi rfl rfl (Instruction.writeArgument_eq hm)
  | _ => exact nomatch hof

/-- The programs and instructions of references are found in an edited copy. -/
theorem reach_eq (ho : edited.outline = tree.outline) (h : tree.Holds slot path node) :
    edited.reach path slot = .ok () := by
  cases h with
  | program _ | instruction _ _ | sharedType _ => rfl
  | account hp _ | definedType hp _ =>
      obtain ⟨_, hp, -⟩ := exists_program ho hp
      exact bind_eq_ok.mpr ⟨_, itemAt_eq hp, rfl⟩
  | instructionAccount hp hi _ | instructionArgument hp hi _ =>
      obtain ⟨_, _, hp, hi, -⟩ := exists_instruction ho hp hi
      exact bind_eq_ok.mpr ⟨_, itemAt_eq hp, bind_eq_ok.mpr ⟨_, itemAt_eq hi, rfl⟩⟩

end Edited

end Tree

/-! ## Nothing is lost -/

/-- Two chains that go on alike after a step go on alike from it. -/
theorem mapError_bind_eq {ε ε' α β : Type} {x : Except ε α} {f : α → Except ε β}
    {g : α → Except ε' β} {reword : ε → ε'}
    (h : ∀ a, x = .ok a → g a = (f a).mapError reword) :
    (x.mapError reword >>= g) = (x >>= f).mapError reword := by
  cases x with
  | error _ => rfl
  | ok a => exact h a rfl

/-- Two walks along a list go on alike where every step does, from where an invariant takes
    them. -/
theorem foldlM_eq_mapError {ε ε' α β : Type} {f : β → α → Except ε β} {g : β → α → Except ε' β}
    {reword : ε → ε'} {P : β → Prop}
    (hstep : ∀ b a, P b → g b a = (f b a).mapError reword)
    (hP : ∀ b a b', P b → f b a = .ok b' → P b') : ∀ {l : List α} {b : β}, P b →
      l.foldlM g b = (l.foldlM f b).mapError reword := by
  intro l
  induction l with
  | nil => exact fun _ => rfl
  | cons a l ih =>
      intro b hb
      rw [List.foldlM_cons, List.foldlM_cons, hstep b a hb]
      exact mapError_bind_eq fun b' hfirst => ih (hP b a b' hb hfirst)

section Runs

variable {tree : Tree}

/-- Every name of a plan is written. -/
theorem foldlM_writeName {renamings : List Renaming} {edited : Tree}
    (ho : edited.outline = tree.outline)
    (h : ∀ r ∈ renamings, ∃ node, tree.Holds r.slot r.path node) :
    renamings.foldlM (fun tree r => tree.writeName r.path r.slot r.newName) edited
      = .ok (renamings.foldl (fun tree r => tree.setName r.slot r.newName) edited) := by
  induction renamings generalizing edited with
  | nil => rfl
  | cons r renamings ih =>
      obtain ⟨⟨node, hheld⟩, h⟩ := List.forall_mem_cons.mp h
      rw [List.foldlM_cons, Tree.writeName_eq ho hheld]
      exact ih ((edited.outline_setName r.slot r.newName).trans ho) h

/-- The slots of a plan hold the paths of its entries. -/
theorem Rename.holds_of_plan {operation : Rename} {renamings : List Renaming}
    (h : operation.plan (Index.of tree) = .ok renamings) :
    ∀ r ∈ renamings, ∃ node, tree.Holds r.slot r.path node := by
  intro r hr
  obtain ⟨entry, -, hcarry⟩ := exists_of_forall₂_right (planFrom_eq_ok.mp h).1 hr
  obtain ⟨found, hfound, hslot⟩ := hcarry.slot
  rw [hcarry.path, hslot]
  exact ⟨found.node, (Index.holds_of_find? hfound).2⟩

/-- A rename finds every node and every reference of its plan. -/
theorem Rename.run_eq (operation : Rename) :
    operation.run (Index.of tree) = (operation.apply (Index.of tree)).mapError .refused := by
  refine mapError_bind_eq fun plan hplan => ?_
  have hheld : ∀ r ∈ plan.filter (·.changes), ∃ node, tree.Holds r.slot r.path node :=
    fun r hr => holds_of_plan hplan r (List.mem_of_mem_filter hr)
  have hreached : ∀ r ∈ plan.filter (·.changes), ((plan.filter (·.changes)).foldl
      (fun tree r => tree.setName r.slot r.newName) tree).reach r.path r.slot = .ok () := by
    intro r hr
    obtain ⟨node, hheld⟩ := hheld r hr
    exact Tree.reach_eq (by rw [foldl_setName, Tree.outline_mapNames]) hheld
  exact bind_eq_ok.mpr ⟨_, foldlM_writeName rfl hheld,
    bind_eq_ok.mpr ⟨(), forM_eq_ok.mpr hreached, rfl⟩⟩

/-- A recipe finds its account. -/
theorem SetSeeds.run_eq (operation : SetSeeds) :
    operation.run (Index.of tree) = (operation.apply (Index.of tree)).mapError .refused := by
  refine mapError_bind_eq fun (account, slot) haccount => ?_
  obtain ⟨p, i, program, rfl, -, hp, hi⟩ := (Index.holds_of_account haccount).account_inv
  exact mapError_bind_eq fun _ _ => Tree.writeAccount_eq hp hi

/-- Assigning tags is to look the program up, to decide on tags and to write them. -/
theorem AssignDiscriminators.apply_eq (operation : AssignDiscriminators) (index : Index) :
    operation.apply index = index.program operation.program >>= fun (program, slot) =>
      operation.tagsFor index program >>= fun tags =>
        match slot with
        | .program p =>
          .ok (index.tree.modifyProgram p (·.setTags operation.siblings (tagOf? tags)))
        | _ => .error (.unresolved operation.program) := by
  refine bind_congr fun found => ?_
  obtain ⟨program, slot⟩ := found
  dsimp only [tagsFor]
  cases operation.only.find? fun name =>
      !(program.siblings operation.siblings).any (·.name = name) with
  | some unknown => rfl
  | none =>
      dsimp only
      -- the sources with no variants differ in nothing but their name
      cases operation.source
      all_goals
        rw [bind_assoc]
        refine bind_congr fun variants => ?_
        rw [bind_assoc]
        refine bind_congr fun assigned => ?_
        cases Sibling.collision? [] _ <;> rfl

/-- Tags find their program. -/
theorem AssignDiscriminators.run_eq (operation : AssignDiscriminators) :
    operation.run (Index.of tree) = (operation.apply (Index.of tree)).mapError .refused := by
  rw [apply_eq]
  refine mapError_bind_eq fun (program, slot) hprogram => ?_
  obtain ⟨p, rfl, -, hp⟩ := (Index.holds_of_program hprogram).program_inv
  refine mapError_bind_eq fun tags _ => ?_
  exact Tree.writeProgram_eq (f := (·.setTags operation.siblings (tagOf? tags))) hp rfl rfl

/-- A path to an instruction that a slot holds selects an instruction. -/
theorem Index.exists_instruction {slot : Slot} {program name : String} {node : Node}
    (h : tree.Holds slot (.instruction program name) node) :
    ∃ found, (Index.of tree).instruction (.instruction program name) = .ok found := by
  obtain ⟨entry, hentry⟩ := Option.isSome_iff_exists.mp (Index.contains_iff.mpr ⟨_, _, h⟩)
  obtain ⟨path, found, selected⟩ := entry
  obtain ⟨-, hheld⟩ := Index.holds_of_find? hentry
  cases hheld with
  | @instruction _ _ _ instruction _ _ =>
      exact ⟨(instruction, _), bind_eq_ok.mpr ⟨_, Index.resolveKind_eq_ok.mpr ⟨rfl, hentry⟩, rfl⟩⟩

/-- **THE INSTRUCTION AROUND AN INPUT**: where a path selects an input, the path in front of
    it selects an instruction. -/
theorem DefaultRule.exists_parent {rule : DefaultRule} {entry : Entry} {of : InputTarget}
    (h : tree.Holds entry.slot rule.target entry.node) (hof : rule.targetOf entry = .ok of) :
    ∃ parent found, rule.target.parent? = some parent
      ∧ (Index.of tree).instruction parent = .ok found := by
  obtain ⟨target, given⟩ := rule
  obtain ⟨path, slot, node⟩ := entry
  cases h with
  | instructionAccount hp hi _ | instructionArgument hp hi _ =>
      obtain ⟨found, hfound⟩ := Index.exists_instruction (.instruction hp hi)
      exact ⟨_, found, rfl, hfound⟩
  | _ => exact nomatch hof

/-- A rule that is settled finds its target in an edited copy. -/
theorem DefaultRule.putInto_eq {edited : Tree} (ho : edited.outline = tree.outline)
    (rule : DefaultRule) :
    rule.putInto (Index.of tree) edited
      = (rule.settle (Index.of tree) >>= fun (slot, value) =>
          pure (edited.setDefault slot value)).mapError .refused := by
  unfold settle
  rw [bind_assoc]
  refine mapError_bind_eq fun entry hentry => ?_
  obtain ⟨-, hheld⟩ := Index.holds_of_find? (Index.resolve_eq_ok.mp hentry)
  rw [bind_assoc]
  refine mapError_bind_eq fun of hof => ?_
  obtain ⟨parent, ⟨instruction, place⟩, hparent, hinstruction⟩ := exists_parent hheld hof
  simp only [hparent, hinstruction]
  show ((rule.resolve (Index.of tree) instruction of).mapError Stop.refused >>= _)
    = (((rule.resolve (Index.of tree) instruction of >>= _) : Except _ (Slot × DefaultValue))
      >>= _).mapError Stop.refused
  rw [bind_assoc]
  exact mapError_bind_eq fun value _ => Tree.writeDefault_eq ho hheld hof value

/-- Every rule finds its target, in whatever the rules before it have made of the tree. -/
theorem SetDefaults.run_eq (operation : SetDefaults) :
    operation.run (Index.of tree) = (operation.apply (Index.of tree)).mapError .refused := by
  refine foldlM_eq_mapError (P := fun edited => edited.outline = tree.outline)
    (fun edited rule ho => DefaultRule.putInto_eq ho rule) (fun edited rule next ho hstep => ?_) rfl
  obtain ⟨⟨slot, value⟩, -, hstep⟩ := bind_eq_ok.mp hstep
  rw [← pure_eq_ok.mp hstep, Tree.outline_setDefault, ho]

/-- **NOTHING IS LOST**: an operation that looks at every position does what the operation
    does; it stops only where that is refused. -/
theorem Operation.run_eq (operation : Operation) :
    operation.run (Index.of tree) = (operation.apply (Index.of tree)).mapError .refused := by
  cases operation with
  | rename op => exact op.run_eq
  | setSeeds op => exact op.run_eq
  | assignDiscriminators op => exact op.run_eq
  | setDefaults op => exact op.run_eq

end Runs

/-! ## The index and its tree -/

/-- A slot holds a node of the kind of its path. -/
theorem Tree.Holds.kind_eq {tree : Tree} {slot : Slot} {path : NodePath} {node : Node}
    (h : tree.Holds slot path node) : node.kind = path.kind := by
  cases h <;> rfl

/-- **THE INDEX IS EXACT**.  In the index of any tree, an entry has a node of the kind of its
    path, its slot leads to that node, and so does the slot of every path that resolves, where a
    name is written by the form of the path; an operation that looks at every position, in each
    of the copies it edits, does what the operation does and loses nothing.  Where names are
    distinct per scope, moreover, a path resolves exactly when it is found name by name, to the
    same node, and the index has as many paths as the tree has nodes. -/
theorem Index.of_exact (tree : Tree) :
    (∀ entry ∈ (Index.of tree).entries, entry.node.kind = entry.path.kind
        ∧ tree.nodeAt? entry.slot = some entry.node)
      ∧ (∀ path entry, (Index.of tree).find? path = some entry →
        entry.path = path ∧ entry ∈ (Index.of tree).entries
          ∧ ∀ newName,
            tree.writeName path entry.slot newName = .ok (tree.setName entry.slot newName))
      ∧ (∀ operation : Operation,
        operation.run (Index.of tree) = (operation.apply (Index.of tree)).mapError .refused
          ∧ ∀ path, operation.run (Index.of tree) ≠ .error (.lost path))
      ∧ (tree.Distinct → (∀ path,
          ((Index.of tree).find? path).map (·.node) = tree.lookup? path)
        ∧ (Index.of tree).size = tree.nodeCount) := by
  refine ⟨fun entry hentry => ?_, fun path entry hentry => ?_, fun operation => ?_, fun hd => ?_⟩
  · have hheld : tree.Holds entry.slot entry.path entry.node := mem_entries.mp hentry
    exact ⟨hheld.kind_eq, hheld.nodeAt?⟩
  · obtain ⟨hpath, hheld⟩ := holds_of_find? hentry
    exact ⟨hpath, List.mem_of_find?_eq_some hentry, Tree.writeName_eq rfl hheld⟩
  · refine ⟨operation.run_eq, fun path hlost => ?_⟩
    rw [operation.run_eq] at hlost
    cases happly : operation.apply (Index.of tree) with
    | error fault => rw [happly] at hlost; exact nomatch hlost
    | ok next => rw [happly] at hlost; exact nomatch hlost
  · exact ⟨find?_node hd, size_eq_nodeCount hd⟩

/-- Two accounts of an instruction swap their names. -/
def swapInputs : Operation := .rename ⟨SortedMap.ofList [
  (.instructionAccount "bank" "open" "payer", "vault"),
  (.instructionAccount "bank" "open" "vault", "payer")]⟩

theorem Index.of_exact_bank : bankTree.Distinct
    ∧ (Index.of bankTree).size = bankTree.nodeCount ∧ bankTree.nodeCount = 12
    ∧ ((Index.of bankTree).find? (.account "bank" "Pool")).map (·.node)
        = bankTree.lookup? (.account "bank" "Pool")
    ∧ (∃ entry ∈ (Index.of bankTree).entries,
        (Index.of bankTree).find? (.instructionArgument "bank" "open" "payer") = some entry
          ∧ entry.slot = .instructionArgument 0 0 0 ∧ bankTree.nodeAt? entry.slot = some entry.node
          ∧ entry.node = .instructionArgument ⟨"payer", .publicKey, [], none⟩)
    ∧ ∃ next, swapInputs.run (Index.of bankTree) = .ok next
        ∧ next.programs.map (·.instructions.map (·.accounts.map (·.name)))
          = [[["payer", "vault", "guest"], []]] := by
  have hdistinct : bankTree.Distinct := (Tree.Reachable.load load_bank).wellFormed.distinct
  obtain ⟨hentries, hpaths, hruns, hexact⟩ := Index.of_exact bankTree
  obtain ⟨hnodes, hsize⟩ := hexact hdistinct
  obtain ⟨next, hnext, hnames⟩ : ∃ next, swapInputs.apply (Index.of bankTree) = .ok next
      ∧ decide (next.programs.map (·.instructions.map (·.accounts.map (·.name)))
          = [[["payer", "vault", "guest"], []]]) = true :=
    exists_ok_of_any (by decide +kernel)
  have hentry : (Index.of bankTree).find? (.instructionArgument "bank" "open" "payer")
      = some ⟨.instructionArgument "bank" "open" "payer", .instructionArgument 0 0 0,
        .instructionArgument ⟨"payer", .publicKey, [], none⟩⟩ := by
    decide +kernel
  have hmem := (hpaths _ _ hentry).2.1
  refine ⟨hdistinct, hsize, by decide, hnodes _, ⟨_, hmem, hentry, rfl, (hentries _ hmem).2, rfl⟩,
    next, ?_, of_decide_eq_true hnames⟩
  rw [(hruns swapInputs).1, hnext]
  rfl

end Bindery
