import Bindery.Operation.Rename

/-! # Writing names — one pass over the slots

    A rename writes its new names slot by slot.  Writing the name of one slot is
    a pass over all slots that leaves the others alone (`setName_eq_mapNames`),
    two passes are one (`mapNames_mapNames`), and so a whole list of renamings
    is one pass as well (`foldl_setName`). -/

namespace Bindery

/-- The same instruction with a name for each slot. -/
def Instruction.mapNames (names : Slot → String → String) (p i : Nat)
    (instruction : Instruction) : Instruction :=
  { instruction with
    name := names (.instruction p i) instruction.name
    accounts := instruction.accounts.mapIdx fun m a =>
      { a with name := names (.instructionAccount p i m) a.name }
    arguments := instruction.arguments.mapIdx fun m a =>
      { a with name := names (.instructionArgument p i m) a.name } }

/-- The same program with a name for each slot. -/
def Program.mapNames (names : Slot → String → String) (p : Nat) (program : Program) : Program :=
  { program with
    name := names (.program p) program.name
    accounts := program.accounts.mapIdx fun i a => { a with name := names (.account p i) a.name }
    definedTypes := program.definedTypes.mapIdx fun i t =>
      { t with name := names (.definedType p i) t.name }
    instructions := program.instructions.mapIdx fun i instruction =>
      instruction.mapNames names p i }

/-- The same tree with a name for each slot. -/
def Tree.mapNames (names : Slot → String → String) (tree : Tree) : Tree where
  programs := tree.programs.mapIdx fun p program => program.mapNames names p
  sharedTypes := tree.sharedTypes.mapIdx fun i t =>
    { t with name := names (.sharedType i) t.name }

/-- Mapping by position to the item itself changes nothing. -/
theorem mapIdx_self {α : Type} (l : List α) : l.mapIdx (fun _ a => a) = l := by
  refine List.ext_getElem? fun i => ?_
  rw [List.getElem?_mapIdx, Option.map_id']

/-- Changing one item is a map by position that leaves the others alone. -/
theorem modify_eq_mapIdx {α : Type} {l : List α} {i : Nat} {f : α → α} {g : Nat → α → α}
    (hitem : ∀ a, f a = g i a) (hothers : ∀ j a, j ≠ i → g j a = a) :
    l.modify i f = l.mapIdx g := by
  refine List.ext_getElem? fun j => ?_
  rw [List.getElem?_modify, List.getElem?_mapIdx]
  cases l[j]? with
  | none => rfl
  | some a =>
      by_cases hij : i = j
      · subst hij
        show some (if i = i then f a else a) = some (g i a)
        rw [if_pos rfl, hitem]
      · show some (if i = j then f a else a) = some (g j a)
        rw [if_neg hij, hothers j a (Ne.symm hij)]

variable {names : Slot → String → String} {p i : Nat}

/-- Names that leave the slots of an instruction alone leave it as it is. -/
theorem Instruction.mapNames_of_fixed
    (h : ∀ slot old, slot.program? = some p → slot.item? = some i → names slot old = old)
    (instruction : Instruction) : instruction.mapNames names p i = instruction := by
  simp only [mapNames, h (.instruction p i) _ rfl rfl,
    h (.instructionAccount p i _) _ rfl rfl, h (.instructionArgument p i _) _ rfl rfl, mapIdx_self]

/-- Names that leave the slots of a program alone leave it as it is. -/
theorem Program.mapNames_of_fixed (h : ∀ slot old, slot.program? = some p → names slot old = old)
    (program : Program) : program.mapNames names p = program := by
  have hinstruction : ∀ i (instruction : Instruction),
      instruction.mapNames names p i = instruction := fun i instruction =>
    instruction.mapNames_of_fixed fun slot old hp _ => h slot old hp
  simp only [mapNames, h (.program p) _ rfl, h (.account p _) _ rfl, h (.definedType p _) _ rfl,
    hinstruction, mapIdx_self]

/-- A change of one program that writes names is a pass over the whole tree. -/
theorem modifyProgram_eq_mapNames {change : Program → Program} (tree : Tree)
    (hothers : ∀ slot old, slot.program? ≠ some p → names slot old = old)
    (hchange : ∀ program, change program = program.mapNames names p) :
    tree.modifyProgram p change = tree.mapNames names := by
  have hprograms : tree.programs.modify p change
      = tree.programs.mapIdx fun q program => program.mapNames names q := by
    refine modify_eq_mapIdx hchange fun q program hq => program.mapNames_of_fixed ?_
    intro slot old hslot
    exact hothers slot old fun h => hq (Option.some.inj (hslot.symm.trans h))
  have hshared : ∀ i old, names (.sharedType i) old = old := fun i old =>
    hothers (.sharedType i) old nofun
  simp only [Tree.modifyProgram, Tree.mapNames, hprograms, hshared, mapIdx_self]

/-- A change of one instruction that writes names is a pass over its program. -/
theorem modifyInstruction_eq_mapNames {change : Instruction → Instruction} (program : Program)
    (hprogram : ∀ old, names (.program p) old = old)
    (hitems : ∀ j old, names (.account p j) old = old ∧ names (.definedType p j) old = old)
    (hothers : ∀ slot old, slot.item? ≠ some i → names slot old = old)
    (hchange : ∀ instruction, change instruction = instruction.mapNames names p i) :
    { program with instructions := program.instructions.modify i change }
      = program.mapNames names p := by
  have hinstructions : program.instructions.modify i change
      = program.instructions.mapIdx fun j instruction => instruction.mapNames names p j := by
    refine modify_eq_mapIdx hchange fun j instruction hj => instruction.mapNames_of_fixed ?_
    intro slot old _ hslot
    exact hothers slot old fun h => hj (Option.some.inj (hslot.symm.trans h))
  simp only [Program.mapNames, hinstructions, hprogram, (hitems _ _).1, (hitems _ _).2,
    mapIdx_self]

/-- The names in the slots of a tree, but another one for a slot. -/
def Slot.writing (slot : Slot) (newName : String) (s : Slot) (old : String) : String :=
  if s = slot then newName else old

/-- In every other slot the name stays. -/
theorem Slot.writing_of_ne {slot s : Slot} {newName old : String} (h : s ≠ slot) :
    slot.writing newName s old = old :=
  if_neg h

/-- Changing the name of one item is a pass over the slots of its list. -/
theorem modify_writing {α : Type} {l : List α} {m : Nat} {newName : String}
    {name : α → String} (slot : Nat → Slot) (set : String → α → α)
    (hslot : ∀ j, slot j = slot m → j = m) (hset : ∀ a, set (name a) a = a) :
    l.modify m (set newName)
      = l.mapIdx fun j a => set ((slot m).writing newName (slot j) (name a)) a := by
  refine modify_eq_mapIdx (fun a => ?_) fun j a hj => ?_
  · rw [Slot.writing, if_pos rfl]
  · rw [Slot.writing, if_neg fun h => hj (hslot j h), hset]

/-- Writing into a program is a pass over the whole tree when it is one over the program. -/
theorem modifyProgram_writing {slot : Slot} {newName : String} {change : Program → Program}
    (tree : Tree) (hslot : slot.program? = some p)
    (hchange : ∀ program, change program = program.mapNames (slot.writing newName) p) :
    tree.modifyProgram p change = tree.mapNames (slot.writing newName) :=
  modifyProgram_eq_mapNames tree (fun _ _ hs => Slot.writing_of_ne fun h => hs (h ▸ hslot)) hchange

/-- Writing into an instruction is a pass over the whole tree when it is one over the
    instruction. -/
theorem modifyInstruction_writing {slot : Slot} {newName : String}
    {change : Instruction → Instruction} (tree : Tree) (hprogram : slot.program? = some p)
    (hitem : slot.item? = some i) (hinput : ∀ j, slot ≠ .account p j ∧ slot ≠ .definedType p j)
    (hchange : ∀ instruction, change instruction
      = instruction.mapNames (slot.writing newName) p i) :
    tree.modifyProgram p (fun program =>
      { program with instructions := program.instructions.modify i change })
        = tree.mapNames (slot.writing newName) := by
  refine modifyProgram_writing tree hprogram fun program => ?_
  refine modifyInstruction_eq_mapNames program (fun old => Slot.writing_of_ne fun h => ?_)
    (fun j old => ?_)
    (fun s old hs => Slot.writing_of_ne fun h => hs (h ▸ hitem)) hchange
  · rw [← h] at hitem
    exact nomatch hitem
  · exact ⟨Slot.writing_of_ne (Ne.symm (hinput j).1), Slot.writing_of_ne (Ne.symm (hinput j).2)⟩

/-- Writing the name of one slot is a pass over all of them. -/
theorem setName_eq_mapNames (tree : Tree) (slot : Slot) (newName : String) :
    tree.setName slot newName = tree.mapNames (slot.writing newName) := by
  cases slot with
  | program p =>
      refine modifyProgram_writing tree rfl fun program => ?_
      simp [Program.mapNames, Instruction.mapNames, Slot.writing, mapIdx_self]
  | account p i =>
      refine modifyProgram_writing tree rfl fun program => ?_
      have haccounts : program.accounts.modify i ({ · with name := newName })
          = program.accounts.mapIdx fun j a =>
            { a with name := Slot.writing (.account p i) newName (.account p j) a.name } :=
        modify_writing (Slot.account p) (fun name (a : Account) => { a with name })
          (fun _ h => (Slot.account.inj h).2) fun _ => rfl
      simp [Program.mapNames, Instruction.mapNames, Slot.writing, mapIdx_self, haccounts]
  | definedType p i =>
      refine modifyProgram_writing tree rfl fun program => ?_
      have htypes : program.definedTypes.modify i ({ · with name := newName })
          = program.definedTypes.mapIdx fun j t =>
            { t with name := Slot.writing (.definedType p i) newName (.definedType p j) t.name } :=
        modify_writing (Slot.definedType p) (fun name (t : DefinedType) => { t with name })
          (fun _ h => (Slot.definedType.inj h).2) fun _ => rfl
      simp [Program.mapNames, Instruction.mapNames, Slot.writing, mapIdx_self, htypes]
  | instruction p i =>
      refine modifyInstruction_writing tree rfl rfl (fun _ => ⟨nofun, nofun⟩) fun instruction => ?_
      simp [Instruction.mapNames, Slot.writing, mapIdx_self]
  | instructionAccount p i m =>
      refine modifyInstruction_writing tree rfl rfl (fun _ => ⟨nofun, nofun⟩) fun instruction => ?_
      have haccounts : instruction.accounts.modify m ({ · with name := newName })
          = instruction.accounts.mapIdx fun n a =>
            { a with
              name := Slot.writing (.instructionAccount p i m) newName
                (.instructionAccount p i n) a.name } :=
        modify_writing (Slot.instructionAccount p i)
          (fun name (a : InstructionAccount) => { a with name })
          (fun _ h => (Slot.instructionAccount.inj h).2.2) fun _ => rfl
      simp [Instruction.mapNames, Slot.writing, mapIdx_self, haccounts]
  | instructionArgument p i m =>
      refine modifyInstruction_writing tree rfl rfl (fun _ => ⟨nofun, nofun⟩) fun instruction => ?_
      have harguments : instruction.arguments.modify m ({ · with name := newName })
          = instruction.arguments.mapIdx fun n a =>
            { a with
              name := Slot.writing (.instructionArgument p i m) newName
                (.instructionArgument p i n) a.name } :=
        modify_writing (Slot.instructionArgument p i)
          (fun name (a : InstructionArgument) => { a with name })
          (fun _ h => (Slot.instructionArgument.inj h).2.2) fun _ => rfl
      simp [Instruction.mapNames, Slot.writing, mapIdx_self, harguments]
  | sharedType i =>
      have hshared : tree.sharedTypes.modify i ({ · with name := newName })
          = tree.sharedTypes.mapIdx fun j t =>
            { t with name := Slot.writing (.sharedType i) newName (.sharedType j) t.name } :=
        modify_writing Slot.sharedType (fun name (t : DefinedType) => { t with name })
          (fun _ h => Slot.sharedType.inj h) fun _ => rfl
      have hprogram : ∀ p (program : Program),
          program.mapNames (Slot.writing (.sharedType i) newName) p = program := by
        intro p program
        refine program.mapNames_of_fixed fun s old hs => Slot.writing_of_ne fun h => ?_
        rw [h] at hs
        exact nomatch hs
      simp only [Tree.setName, Tree.modifySharedType, Tree.mapNames, hshared, hprogram, mapIdx_self]

/-! ## Writing a list of names -/

/-- Two passes over the slots are one. -/
theorem mapNames_mapNames (f g : Slot → String → String) (tree : Tree) :
    (tree.mapNames f).mapNames g = tree.mapNames fun s old => g s (f s old) := by
  simp only [Tree.mapNames, Program.mapNames, Instruction.mapNames, List.mapIdx_mapIdx,
    Function.comp_def]

/-- What is in a slot after a list of renamings: the last name written, or the
    old one. -/
def Renaming.written (renamings : List Renaming) (slot : Slot) (old : String) : String :=
  renamings.foldl (fun name r => r.slot.writing r.newName slot name) old

/-- Writing the names of a list of renamings is one pass over the slots. -/
theorem foldl_setName (renamings : List Renaming) (tree : Tree) :
    renamings.foldl (fun tree r => tree.setName r.slot r.newName) tree
      = tree.mapNames (Renaming.written renamings) := by
  induction renamings generalizing tree with
  | nil =>
      simp [Renaming.written, Tree.mapNames, Program.mapNames, Instruction.mapNames, mapIdx_self]
  | cons r renamings ih =>
      rw [List.foldl_cons, ih, setName_eq_mapNames, mapNames_mapNames]
      rfl

/-- Where all that is written in a slot is one name, that name is left there, or
    nothing was written. -/
theorem written_eq_or {slot : Slot} {newName : String} :
    ∀ {renamings : List Renaming} (old : String),
      (∀ r ∈ renamings, r.slot = slot → r.newName = newName) →
        Renaming.written renamings slot old = newName
          ∨ Renaming.written renamings slot old = old ∧ ∀ r ∈ renamings, r.slot ≠ slot := by
  intro renamings
  induction renamings with
  | nil => exact fun _ _ => .inr ⟨rfl, fun _ hr => (nomatch hr)⟩
  | cons r renamings ih =>
      intro old h
      obtain ⟨hr, h⟩ := List.forall_mem_cons.mp h
      show Renaming.written renamings slot (r.slot.writing r.newName slot old) = newName
        ∨ Renaming.written renamings slot (r.slot.writing r.newName slot old) = old ∧ _
      by_cases hslot : slot = r.slot
      · have hwrite : r.slot.writing r.newName slot old = newName := by
          rw [Slot.writing, if_pos hslot, hr hslot.symm]
        rw [hwrite]
        rcases ih newName h with hdone | ⟨hkept, -⟩
        · exact .inl hdone
        · exact .inl hkept
      · have hkeep : r.slot.writing r.newName slot old = old := if_neg hslot
        rw [hkeep]
        rcases ih old h with hdone | ⟨hkept, hnone⟩
        · exact .inl hdone
        · exact .inr ⟨hkept, List.forall_mem_cons.mpr ⟨Ne.symm hslot, hnone⟩⟩

end Bindery
