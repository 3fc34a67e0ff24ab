import Bindery.Proofs.Rename.Plan
import Bindery.Proofs.Rename.Substitution
import Bindery.Proofs.Rename.Writing

/-! # A rename is a substitution — new names are written and looked up at once

    References are looked up in the list of renamings, under an old name and with
    a test of the slot.  Where names are distinct per scope, passing the test
    under a name is being the node of one path, and so each look-up gives what
    the operation makes of that path (`find?_getD`): of an account or a type of
    a program, of an input of an instruction, of a shared type, and of what a
    link of a program stands for.

    Names are written slot by slot, references are looked up scope by scope in
    the list of renamings, with skips or without (`updateProgram_eq`).  A write
    and a look-up give what the operation makes of a path, and so all of it
    together is `Tree.substitute` of the names that the operation leaves paths
    with (`apply_eq_ok`). -/

namespace Bindery

variable {tree : Tree} {operation : Rename} {renamings : List Renaming}

/-- The renamings of a tree that an operation asks for: each is in the slot of its
    path, and none that changes a name is missing. -/
structure Renaming.Realizes (tree : Tree) (operation : Rename) (renamings : List Renaming) :
    Prop where
  held : ∀ r ∈ renamings, ∃ node, tree.Holds r.slot r.path node
  asked : ∀ r ∈ renamings, operation.renames.get? r.path = some r.newName
  complete : ∀ {path newName}, operation.renames.get? path = some newName →
    path.name ≠ newName → ∃ r ∈ renamings, r.path = path

/-- What a plan gives is what the operation asks for, and so is the part of it that
    changes names. -/
theorem realizes_of_plan {planned : List Renaming}
    (h : operation.plan (Index.of tree) = .ok planned) :
    Renaming.Realizes tree operation (planned.filter (·.changes)) := by
  obtain ⟨hall, -, -, -⟩ := Rename.planFrom_eq_ok.mp h
  constructor
  · intro r hr
    obtain ⟨entry, -, hcarry⟩ := exists_of_forall₂_right hall (List.mem_filter.mp hr).1
    obtain ⟨found, hfound, hslot⟩ := hcarry.slot
    rw [hcarry.path, hslot]
    exact ⟨found.node, (Index.holds_of_find? hfound).2⟩
  · intro r hr
    obtain ⟨entry, hentry, hcarry⟩ := exists_of_forall₂_right hall (List.mem_filter.mp hr).1
    rw [hcarry.path, hcarry.newName]
    exact SortedMap.get?_eq_some_iff.mpr hentry
  · intro path newName hget hchange
    obtain ⟨r, hr, hcarry⟩ :=
      exists_of_forall₂_left hall (SortedMap.get?_eq_some_iff.mp hget)
    refine ⟨r, List.mem_filter.mpr ⟨hr, ?_⟩, hcarry.path⟩
    show decide (r.path.name ≠ r.newName) = true
    rw [hcarry.path, hcarry.newName]
    exact decide_eq_true hchange

namespace Renaming.Realizes

variable {slot : Slot} {path : NodePath} {node : Node}

/-- A renaming of a path gives the name that the operation leaves it with. -/
theorem nameOf_path (h : Realizes tree operation renamings) {r : Renaming} (hr : r ∈ renamings) :
    operation.nameOf r.path = r.newName := by
  rw [Rename.nameOf, h.asked r hr, Option.getD_some]

/-- A path without a renaming keeps its name. -/
theorem nameOf_of_none (h : Realizes tree operation renamings)
    (hnone : ∀ r ∈ renamings, r.path ≠ path) : operation.nameOf path = path.name := by
  unfold Rename.nameOf
  cases hget : operation.renames.get? path with
  | none => rfl
  | some newName =>
      by_contra hne
      obtain ⟨r, hr, hpath⟩ := h.complete hget (Ne.symm hne)
      exact hnone r hr hpath

/-- What is written in a slot is the name that the operation leaves its path with. -/
theorem written_eq (h : Realizes tree operation renamings) (hd : tree.Distinct)
    (hheld : tree.Holds slot path node) :
    written renamings slot path.name = operation.nameOf path := by
  have hwrites : ∀ r ∈ renamings, r.slot = slot → r.newName = operation.nameOf path := by
    intro r hr hslot
    obtain ⟨node', hheld'⟩ := h.held r hr
    rw [← h.nameOf_path hr, hheld'.path_unique (hslot ▸ hheld)]
  rcases written_eq_or path.name hwrites with hdone | ⟨hkept, hnone⟩
  · exact hdone
  · rw [hkept, h.nameOf_of_none]
    intro r hr hpath
    obtain ⟨node', hheld'⟩ := h.held r hr
    exact hnone r hr (hd.slot_unique hheld' hheld hpath)

/-- **LOOKING UP A PATH**: where a test of slots picks out one scope, looking an
    old name up under it gives what the operation makes of the path. -/
theorem find?_getD (h : Realizes tree operation renamings) {test : Slot → Bool}
    {scope : String → NodePath} {old : String} (hscope : NodePath.IsScope scope)
    (htest : ∀ {slot path node}, tree.Holds slot path node →
      (test slot = true ∧ path.name = old ↔ path = scope old)) :
    (find? renamings test old).getD old = operation.nameOf (scope old) := by
  unfold find?
  cases hfound : renamings.find? fun r => test r.slot && decide (r.path.name = old) with
  | none =>
      show old = _
      rw [h.nameOf_of_none, hscope.name]
      intro r hr hpath
      obtain ⟨node', hheld⟩ := h.held r hr
      obtain ⟨hslot, hname⟩ := (htest hheld).mpr hpath
      refine List.find?_eq_none.mp hfound r hr ?_
      rw [hslot, hname]
      exact decide_eq_true rfl
  | some r =>
      have hr := List.mem_of_find?_eq_some hfound
      have hpassed := List.find?_some hfound
      obtain ⟨hslot, hname⟩ := (Bool.and_eq_true_iff.mp hpassed).imp_right of_decide_eq_true
      obtain ⟨node', hheld⟩ := h.held r hr
      show r.newName = _
      rw [← h.nameOf_path hr, (htest hheld).mp ⟨hslot, hname⟩]

/-! ## The look-ups of the scopes -/

variable {p i : Nat} {program : Program} {instruction : Instruction}

/-- What an account name of a program has become. -/
theorem accountName?_getD (h : Realizes tree operation renamings) (hd : tree.Distinct)
    (hp : tree.programs[p]? = some program) (old : String) :
    (accountName? renamings p old).getD old
      = operation.nameOf (.account program.name old) := by
  refine h.find?_getD (NodePath.isScope_account program.name) ?_
  intro slot path node hheld
  cases hheld with
  | @account q j program' account hq hj =>
      show decide (q = p) = true ∧ account.name = old
        ↔ NodePath.account program'.name account.name = .account program.name old
      rw [decide_eq_true_iff, hd.program_position_iff hp hq, NodePath.account.injEq]
  | _ => exact ⟨fun h => absurd h.1 Bool.false_ne_true, fun h => (nomatch h)⟩

/-- What a type name of a program has become. -/
theorem typeName?_getD (h : Realizes tree operation renamings) (hd : tree.Distinct)
    (hp : tree.programs[p]? = some program) (old : String) :
    (typeName? renamings p old).getD old
      = operation.nameOf (.definedType program.name old) := by
  refine h.find?_getD (NodePath.isScope_definedType program.name) ?_
  intro slot path node hheld
  cases hheld with
  | @definedType q j program' defined hq hj =>
      show decide (q = p) = true ∧ defined.name = old
        ↔ NodePath.definedType program'.name defined.name = .definedType program.name old
      rw [decide_eq_true_iff, hd.program_position_iff hp hq, NodePath.definedType.injEq]
  | _ => exact ⟨fun h => absurd h.1 Bool.false_ne_true, fun h => (nomatch h)⟩

/-- What the name of a shared type has become. -/
theorem sharedTypeName?_getD (h : Realizes tree operation renamings) (old : String) :
    (sharedTypeName? renamings old).getD old = operation.nameOf (.sharedType old) := by
  refine h.find?_getD NodePath.isScope_sharedType ?_
  intro slot path node hheld
  cases hheld with
  | sharedType hi => exact ⟨fun h => congrArg _ h.2, fun h => ⟨rfl, NodePath.sharedType.inj h⟩⟩
  | _ => exact ⟨fun h => absurd h.1 Bool.false_ne_true, fun h => (nomatch h)⟩

/-- What the name of an input of an instruction has become. -/
theorem inputName?_getD (h : Realizes tree operation renamings) (hd : tree.Distinct)
    (hp : tree.programs[p]? = some program) (hi : program.instructions[i]? = some instruction)
    (input : Input) :
    (inputName? renamings p i input).getD input.name
      = operation.nameOf (input.pathIn program.name instruction.name) := by
  cases input with
  | account old =>
      rw [inputName?]
      refine h.find?_getD
        (NodePath.isScope_instructionAccount program.name instruction.name) ?_
      intro slot path node hheld
      cases hheld with
      | @instructionAccount q j m program' instruction' account hq hj hm =>
          show (decide (q = p) && decide (j = i)) = true ∧ account.name = old
            ↔ NodePath.instructionAccount program'.name instruction'.name account.name
              = .instructionAccount program.name instruction.name old
          rw [Bool.and_eq_true, decide_eq_true_iff, decide_eq_true_iff,
            hd.instruction_position_iff hp hq hi hj, and_assoc, NodePath.instructionAccount.injEq]
      | _ => exact ⟨fun h => absurd h.1 Bool.false_ne_true, fun h => (nomatch h)⟩
  | argument old =>
      rw [inputName?]
      refine h.find?_getD
        (NodePath.isScope_instructionArgument program.name instruction.name) ?_
      intro slot path node hheld
      cases hheld with
      | @instructionArgument q j m program' instruction' argument hq hj hm =>
          show (decide (q = p) && decide (j = i)) = true ∧ argument.name = old
            ↔ NodePath.instructionArgument program'.name instruction'.name argument.name
              = .instructionArgument program.name instruction.name old
          rw [Bool.and_eq_true, decide_eq_true_iff, decide_eq_true_iff,
            hd.instruction_position_iff hp hq hi hj, and_assoc, NodePath.instructionArgument.injEq]
      | _ => exact ⟨fun h => absurd h.1 Bool.false_ne_true, fun h => (nomatch h)⟩

/-- Only a type that the program defines is found among its renamings. -/
theorem defines_of_typeName? (h : Realizes tree operation renamings)
    (hp : tree.programs[p]? = some program) {old newName : String}
    (hfound : typeName? renamings p old = some newName) : program.defines old = true := by
  obtain ⟨r, hr, -⟩ := Option.map_eq_some_iff.mp hfound
  have hpassed := List.find?_some hr
  obtain ⟨hslot, hname⟩ := (Bool.and_eq_true_iff.mp hpassed).imp_right of_decide_eq_true
  obtain ⟨rpath, rslot, rname⟩ := r
  obtain ⟨node, hheld⟩ := h.held _ (List.mem_of_find?_eq_some hr)
  cases hheld with
  | @definedType q j program' defined hq hj =>
      obtain rfl : q = p := of_decide_eq_true hslot
      obtain rfl := Option.some.inj (hq.symm.trans hp)
      refine isSome_find?_iff.mpr (List.mem_map.mpr ⟨defined, List.mem_of_getElem? hj, hname⟩)
  | _ => exact absurd hslot Bool.false_ne_true

/-- What a type name that a program links to has become. -/
theorem linkName?_getD (h : Realizes tree operation renamings) (hd : tree.Distinct)
    (hp : tree.programs[p]? = some program) (old : String) :
    (linkName? renamings program p old).getD old
      = operation.nameOf (program.linkPath old) := by
  have hown := h.typeName?_getD hd hp old
  unfold linkName?
  by_cases hdefines : program.defines old = true
  · have hpath : program.linkPath old = .definedType program.name old := if_pos hdefines
    rw [hpath, if_pos hdefines, ← hown]
    cases typeName? renamings p old <;> rfl
  · have hpath : program.linkPath old = .sharedType old := if_neg hdefines
    have hnone : typeName? renamings p old = none := by
      rw [Option.eq_none_iff_forall_ne_some]
      exact fun newName hfound => hdefines (h.defines_of_typeName? hp hfound)
    rw [hpath, if_neg hdefines, hnone]
    exact h.sharedTypeName?_getD old

end Renaming.Realizes

end Bindery

/-! ## Writing and looking up -/

namespace Bindery

/-- Mapping what was mapped by position is one map by position. -/
theorem map_mapIdx {α β γ : Type} (f : Nat → α → β) (g : β → γ) (l : List α) :
    (l.mapIdx f).map g = l.mapIdx fun i a => g (f i a) := by
  refine List.ext_getElem? fun i => ?_
  rw [List.getElem?_map, List.getElem?_mapIdx, List.getElem?_mapIdx, Option.map_map]
  rfl

/-- A map by position that does not depend on the positions is a map. -/
theorem mapIdx_eq_map {α β : Type} {l : List α} {f : Nat → α → β} {g : α → β}
    (h : ∀ i a, l[i]? = some a → f i a = g a) : l.mapIdx f = l.map g := by
  refine List.ext_getElem? fun i => ?_
  rw [List.getElem?_mapIdx, List.getElem?_map]
  cases hi : l[i]? with
  | none => rfl
  | some a => exact congrArg some (h i a hi)

namespace Renaming

variable (renamings : List Renaming) (p i : Nat)

/-- Derived addresses are rewritten whether or not an instruction is skipped. -/
theorem updateInstruction_eq (instruction : Instruction) :
    updateInstruction renamings p i instruction
      = (instruction.mapDefaults (·.renameAccount (accountName? renamings p))).mapDefaults
          (·.renameInputs (inputName? renamings p i)) := by
  rw [updateInstruction, (Instruction.renameOwners_skips _).same]

/-- Links are rewritten whether or not a program is skipped. -/
theorem updateProgram_eq (before program : Program) :
    updateProgram renamings before p program
      = { program with
          instructions := program.instructions.mapIdx fun i instruction =>
            updateInstruction renamings p i instruction }.mapLinks
          fun name => (linkName? renamings before p name).getD name := by
  rw [List.mapIdx_eq_zipIdx_map]
  exact (Program.renameLinks_skips _).same _

/-- Links are rewritten whether or not a shared type is skipped. -/
theorem updateReferences_eq (names : Slot → String → String) (tree : Tree) :
    updateReferences renamings tree (tree.mapNames names)
      = { programs := tree.programs.mapIdx fun p program =>
            updateProgram renamings program p (program.mapNames names p)
          sharedTypes := tree.sharedTypes.mapIdx fun i t =>
            { t with
              name := names (.sharedType i) t.name
              type := t.type.mapLinks fun name =>
                (sharedTypeName? renamings name).getD name } } := by
  have hprograms : ((tree.programs.mapIdx fun p program => program.mapNames names p).zip
      tree.programs).zipIdx.map (fun entry =>
        updateProgram renamings entry.1.2 entry.2 entry.1.1)
      = tree.programs.mapIdx fun p program =>
          updateProgram renamings program p (program.mapNames names p) := by
    refine List.ext_getElem? fun p => ?_
    simp only [List.zip, List.getElem?_map, List.getElem?_zipIdx, List.getElem?_zipWith,
      List.getElem?_mapIdx]
    cases tree.programs[p]? with
    | none => rfl
    | some program => simp
  have hshared : (tree.sharedTypes.mapIdx fun i t =>
      { t with name := names (.sharedType i) t.name }).map
        (·.renameLinks (sharedTypeName? renamings))
      = tree.sharedTypes.mapIdx fun i t =>
          { t with
            name := names (.sharedType i) t.name
            type := t.type.mapLinks fun name => (sharedTypeName? renamings name).getD name } := by
    rw [map_mapIdx]
    rw [funext (DefinedType.renameLinks_skips _).same]
    rfl
  exact congrArg₂ Tree.mk hprograms hshared

end Renaming

/-! ## References -/

section References

variable {names : NodePath → String} {program instruction : String}
  {owners : String → Option String} {inputs : Input → Option String}

/-- Looking an input up is giving it the name of its path. -/
theorem Input.rename_eq_substitute
    (hinputs : ∀ input, (inputs input).getD input.name = names (input.pathIn program instruction))
    (input : Input) : input.rename inputs = input.substitute names program instruction := by
  have hname := hinputs input
  unfold Input.rename
  cases input with
  | account name =>
      show _ = Input.account (names (.instructionAccount program instruction name))
      rw [← show _ = names (.instructionAccount program instruction name) from hname]
      cases inputs (.account name) <;> rfl
  | argument name =>
      show _ = Input.argument (names (.instructionArgument program instruction name))
      rw [← show _ = names (.instructionArgument program instruction name) from hname]
      cases inputs (.argument name) <;> rfl

/-- Looking the references of a default up is giving them the names of their
    paths. -/
theorem DefaultValue.rename_eq_substitute
    (howners : ∀ old, (owners old).getD old = names (.account program old))
    (hinputs : ∀ input, (inputs input).getD input.name = names (input.pathIn program instruction))
    (value : DefaultValue) :
    (value.renameAccount owners).renameInputs inputs
      = value.substitute names program instruction := by
  cases value with
  | pda owner seeds =>
      show DefaultValue.pda ((owners owner).getD owner) _ = DefaultValue.pda _ _
      rw [howners]
      refine congrArg (DefaultValue.pda _) (List.map_congr_left fun binding _ => ?_)
      rw [Input.rename_eq_substitute hinputs]
  | account name => exact congrArg DefaultValue.account (hinputs (.account name))
  | argument name => exact congrArg DefaultValue.argument (hinputs (.argument name))
  | absent | programId | literal _ => rfl

end References

/-! ## Names and references together -/

namespace Renaming.Realizes

variable {tree : Tree} {operation : Rename} {renamings : List Renaming} {p i : Nat}
  {program : Program} {instruction : Instruction}

/-- An instruction with its names written and its references looked up is the
    substituted one. -/
theorem instruction_eq (h : Realizes tree operation renamings) (hd : tree.Distinct)
    (hp : tree.programs[p]? = some program) (hi : program.instructions[i]? = some instruction) :
    (updateInstruction renamings p i (instruction.mapNames (written renamings) p i)).mapLinks
        (fun name => operation.nameOf (program.linkPath name))
      = instruction.substitute operation.nameOf program := by
  have hvalue : ∀ value : Option DefaultValue,
      (value.map (·.renameAccount (accountName? renamings p))).map
          (·.renameInputs (inputName? renamings p i))
        = value.map (·.substitute operation.nameOf program.name instruction.name) := by
    intro value
    rw [Option.map_map]
    refine congrFun (congrArg Option.map (funext fun v => ?_)) value
    exact v.rename_eq_substitute (h.accountName?_getD hd hp) (h.inputName?_getD hd hp hi)
  have hself : written renamings (.instruction p i) instruction.name
      = operation.nameOf (.instruction program.name instruction.name) :=
    h.written_eq hd (.instruction hp hi)
  rw [updateInstruction_eq]
  simp only [Instruction.mapLinks, Instruction.mapDefaults, Instruction.mapNames, map_mapIdx,
    hvalue, hself, Instruction.substitute, Instruction.mk.injEq, true_and, and_true]
  refine ⟨mapIdx_eq_map fun m a hm => ?_, mapIdx_eq_map fun m a hm => ?_⟩
  · have hname : written renamings (.instructionAccount p i m) a.name = _ :=
      h.written_eq hd (.instructionAccount hp hi hm)
    rw [hname, InstructionAccount.substitute]
  · have hname : written renamings (.instructionArgument p i m) a.name = _ :=
      h.written_eq hd (.instructionArgument hp hi hm)
    rw [hname, InstructionArgument.substitute]

/-- A program with its names written and its references looked up is the substituted
    one. -/
theorem program_eq (h : Realizes tree operation renamings) (hd : tree.Distinct)
    (hp : tree.programs[p]? = some program) :
    updateProgram renamings program p (program.mapNames (written renamings) p)
      = program.substitute operation.nameOf := by
  have hlinks : ∀ name, (linkName? renamings program p name).getD name
      = operation.nameOf (program.linkPath name) := h.linkName?_getD hd hp
  have hself : written renamings (.program p) program.name
      = operation.nameOf (.program program.name) := h.written_eq hd (.program hp)
  rw [updateProgram_eq]
  simp only [Program.mapLinks, Account.mapLinks, DefinedType.mapLinks, Program.mapNames,
    map_mapIdx, List.mapIdx_mapIdx, hlinks, hself, Program.substitute, Program.mk.injEq, true_and,
    and_true]
  refine ⟨mapIdx_eq_map fun i a hi => ?_, mapIdx_eq_map fun i a hi => h.instruction_eq hd hp hi,
    mapIdx_eq_map fun i t hi => ?_⟩
  · have hname : written renamings (.account p i) a.name = _ := h.written_eq hd (.account hp hi)
    rw [hname]
  · have hname : written renamings (.definedType p i) t.name = _ :=
      h.written_eq hd (.definedType hp hi)
    rw [hname]

end Renaming.Realizes

/-- **A RENAME IS A SUBSTITUTION**: on a tree with distinct names per scope, a
    rename that succeeds is admissible and gives the substituted tree. -/
theorem Rename.apply_eq_ok {tree next : Tree} {operation : Rename} (hd : tree.Distinct)
    (h : operation.apply (Index.of tree) = .ok next) :
    operation.Admissible (Index.of tree) ∧ next = tree.substitute operation.nameOf := by
  obtain ⟨planned, hplan, happly⟩ := bind_eq_ok.mp h
  have hr := realizes_of_plan hplan
  refine ⟨admissible_of_plan hplan, ?_⟩
  rw [← pure_eq_ok.mp happly]
  show Renaming.updateReferences _ tree (List.foldl _ tree _) = _
  rw [foldl_setName, Renaming.updateReferences_eq, Tree.substitute]
  refine congrArg₂ Tree.mk ?_ ?_
  · exact mapIdx_eq_map fun p program hp => hr.program_eq hd hp
  · refine mapIdx_eq_map fun i t hi => ?_
    have hname : Renaming.written _ (.sharedType i) t.name = _ :=
      hr.written_eq hd (.sharedType hi)
    simp only [hname, hr.sharedTypeName?_getD]

end Bindery
