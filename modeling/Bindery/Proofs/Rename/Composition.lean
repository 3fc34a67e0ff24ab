import Bindery.Proofs.Rename.Clash
import Bindery.Proofs.Rename.Simultaneous

/-! # Composition — two renames are one, and a rename can be undone

    Names `g` given after names `f` compose to names `h` where each path, moved
    by `f`, gets from `g` the name that `h` gives it.  Where this holds of the
    nodes of a tree and of what its references stand for, the two
    substitutions are the one (`Tree.Composes.substitute_substitute`).  For
    `h` the names that the nodes have already, the second undoes the first.

    A rename followed by another composes in this sense to the rename of every
    path that either touches (`Rename.nameOf_andThen`), and a rename followed by
    its inverse to the names as they are (`Rename.nameOf_inverse`).  Hence both
    succeed, the one with the result of the two and the other with the tree as
    it was (`Rename.apply_andThen`). -/

namespace Bindery

/-! ## Substituting twice -/

/-- On a tree, names `g` given after names `f` are names `h`, and every link of a program
    names a type of its own. -/
structure Tree.Composes (tree : Tree) (f g h : NodePath → String) : Prop where
  nodes : ∀ {slot path node}, tree.Holds slot path node → g (path.substitute f) = h path
  references : ∀ path ∈ tree.references, g (path.substitute f) = h path
  links : ∀ program ∈ tree.programs, ∀ name ∈ program.links, program.defines name = true

section Twice

variable {tree : Tree} {f g h : NodePath → String} {p i : Nat} {program : Program}
  {instruction : Instruction}

/-- On a reachable tree names compose when they do on its nodes. -/
theorem Tree.Reachable.composes (hr : tree.Reachable)
    (hnodes : ∀ {slot path node}, tree.Holds slot path node → g (path.substitute f) = h path) :
    tree.Composes f g h where
  nodes := hnodes
  references path hmem := by
    obtain ⟨slot, node, hheld⟩ := hr.holds_of_mem_references path hmem
    exact hnodes hheld
  links program hprogram := (hr.wellFormed.declared program hprogram).links

/-- An input that is substituted twice. -/
theorem Input.substitute_substitute {owner caller : String} {input : Input}
    (hpath : g ((input.pathIn owner caller).substitute f) = h (input.pathIn owner caller)) :
    (input.substitute f owner caller).substitute g (f (.program owner))
        (f (.instruction owner caller))
      = input.substitute h owner caller := by
  cases input with
  | account name => exact congrArg Input.account hpath
  | argument name => exact congrArg Input.argument hpath

/-- A default that is substituted twice. -/
theorem DefaultValue.substitute_substitute {owner caller : String} {value : DefaultValue}
    (hpaths : ∀ path ∈ value.references owner caller, g (path.substitute f) = h path) :
    (value.substitute f owner caller).substitute g (f (.program owner))
        (f (.instruction owner caller))
      = value.substitute h owner caller := by
  cases value with
  | pda account seeds =>
      obtain ⟨haccount, hseeds⟩ := List.forall_mem_cons.mp hpaths
      simp only [substitute, List.map_map]
      refine congrArg₂ DefaultValue.pda haccount (List.map_congr_left fun binding hmem => ?_)
      exact congrArg (SeedBinding.mk _)
        (Input.substitute_substitute (hseeds _ (List.mem_map_of_mem hmem)))
  | account name => exact congrArg DefaultValue.account (hpaths _ List.mem_cons_self)
  | argument name => exact congrArg DefaultValue.argument (hpaths _ List.mem_cons_self)
  | absent | programId | literal _ => rfl

namespace Tree.Composes

/-- A link that is substituted twice. -/
theorem link_eq (hc : tree.Composes f g h) (hp : tree.programs[p]? = some program)
    {name : String} (hname : name ∈ program.links) :
    g ((program.substitute f).linkPath (f (program.linkPath name)))
      = h (program.linkPath name) := by
  have hprogram := List.mem_of_getElem? hp
  rw [Program.linkPath_substitute f (hc.links program hprogram name hname)]
  refine hc.references _ (List.mem_append_left _ (List.mem_flatMap.mpr ⟨program, hprogram, ?_⟩))
  exact List.mem_append_right _ (List.mem_map_of_mem hname)

/-- A type whose links are links of the program, substituted twice. -/
theorem type_eq (hc : tree.Composes f g h) (hp : tree.programs[p]? = some program)
    (type : TypeNode) (hlinks : ∀ name ∈ type.links, name ∈ program.links) :
    (type.mapLinks fun name => f (program.linkPath name)).mapLinks
        (fun name => g ((program.substitute f).linkPath name))
      = type.mapLinks fun name => h (program.linkPath name) := by
  rw [TypeNode.mapLinks_mapLinks]
  exact TypeNode.mapLinks_congr type fun name hname => hc.link_eq hp (hlinks name hname)

/-- A default that an input may have, substituted twice. -/
theorem defaultValue_eq (hc : tree.Composes f g h) (hp : tree.programs[p]? = some program)
    (hi : program.instructions[i]? = some instruction) (value : Option DefaultValue)
    (hvalue : ∀ v, value = some v → v ∈ instruction.defaults) :
    (value.map (·.substitute f program.name instruction.name)).map
        (·.substitute g (f (.program program.name))
          (f (.instruction program.name instruction.name)))
      = value.map (·.substitute h program.name instruction.name) := by
  cases value with
  | none => rfl
  | some v =>
      refine congrArg some (DefaultValue.substitute_substitute fun path hpath => ?_)
      have hinstruction : path ∈ instruction.references program.name :=
        List.mem_flatMap.mpr ⟨v, hvalue v rfl, hpath⟩
      have hprogram : path ∈ program.references :=
        List.mem_append_left _
          (List.mem_flatMap.mpr ⟨instruction, List.mem_of_getElem? hi, hinstruction⟩)
      exact hc.references path (List.mem_append_left _
        (List.mem_flatMap.mpr ⟨program, List.mem_of_getElem? hp, hprogram⟩))

/-- An instruction that is substituted twice. -/
theorem instruction_eq (hc : tree.Composes f g h) (hp : tree.programs[p]? = some program)
    (hi : program.instructions[i]? = some instruction) :
    (instruction.substitute f program).substitute g (program.substitute f)
      = instruction.substitute h program := by
  have hself := hc.nodes (.instruction hp hi)
  simp only [Instruction.substitute, List.map_map, Instruction.mk.injEq, true_and, and_true]
  refine ⟨hself, List.map_congr_left fun a ha => ?_, List.map_congr_left fun a ha => ?_⟩
  · obtain ⟨m, hm⟩ := List.mem_iff_getElem?.mp ha
    have hname := hc.nodes (.instructionAccount hp hi hm)
    have hdefault := hc.defaultValue_eq hp hi a.defaultValue fun v hv =>
      List.mem_append_left _ (List.mem_filterMap.mpr ⟨a, ha, hv⟩)
    simp only [Function.comp_apply, InstructionAccount.substitute, InstructionAccount.mk.injEq,
      true_and]
    exact ⟨hname, hdefault⟩
  · obtain ⟨m, hm⟩ := List.mem_iff_getElem?.mp ha
    have hname := hc.nodes (.instructionArgument hp hi hm)
    have hdefault := hc.defaultValue_eq hp hi a.defaultValue fun v hv =>
      List.mem_append_right _ (List.mem_filterMap.mpr ⟨a, ha, hv⟩)
    have htype := hc.type_eq hp a.type fun name hname =>
      List.mem_append_left _ (List.mem_append_right _ (List.mem_flatMap.mpr
        ⟨instruction, List.mem_of_getElem? hi, List.mem_flatMap.mpr ⟨a, ha, hname⟩⟩))
    simp only [Function.comp_apply, InstructionArgument.substitute, InstructionArgument.mk.injEq,
      true_and]
    exact ⟨hname, htype, hdefault⟩

/-- A program that is substituted twice. -/
theorem program_eq (hc : tree.Composes f g h) (hp : tree.programs[p]? = some program) :
    (program.substitute f).substitute g = program.substitute h := by
  have hself := hc.nodes (.program hp)
  have haccounts : (program.substitute f).accounts.map (fun a =>
      { a with
        name := g (.account (program.substitute f).name a.name)
        fields := TypeNode.mapFieldLinks
          (fun name => g ((program.substitute f).linkPath name)) a.fields })
        = (program.substitute h).accounts := by
    show (program.accounts.map _).map _ = program.accounts.map _
    rw [List.map_map]
    refine List.map_congr_left fun a ha => ?_
    obtain ⟨j, hj⟩ := List.mem_iff_getElem?.mp ha
    have hname := hc.nodes (.account hp hj)
    have hfields : TypeNode.mapFieldLinks (fun name => g ((program.substitute f).linkPath name))
        (TypeNode.mapFieldLinks (fun name => f (program.linkPath name)) a.fields)
          = TypeNode.mapFieldLinks (fun name => h (program.linkPath name)) a.fields := by
      rw [TypeNode.mapFieldLinks_mapFieldLinks]
      refine TypeNode.mapFieldLinks_congr a.fields fun name hname => hc.link_eq hp ?_
      rw [TypeNode.fieldLinks_eq_flatMap] at hname
      exact List.mem_append_left _ (List.mem_append_left _ (List.mem_flatMap.mpr ⟨a, ha, hname⟩))
    simp only [Function.comp_apply, Account.mk.injEq, true_and, and_true]
    exact ⟨hname, hfields⟩
  have hinstructions : (program.substitute f).instructions.map
      (·.substitute g (program.substitute f)) = (program.substitute h).instructions := by
    show (program.instructions.map _).map _ = program.instructions.map _
    rw [List.map_map]
    refine List.map_congr_left fun instruction hinstruction => ?_
    obtain ⟨i, hi⟩ := List.mem_iff_getElem?.mp hinstruction
    exact hc.instruction_eq hp hi
  have htypes : (program.substitute f).definedTypes.map (fun t =>
      { t with
        name := g (.definedType (program.substitute f).name t.name)
        type := t.type.mapLinks fun name => g ((program.substitute f).linkPath name) })
        = (program.substitute h).definedTypes := by
    show (program.definedTypes.map _).map _ = program.definedTypes.map _
    rw [List.map_map]
    refine List.map_congr_left fun t ht => ?_
    obtain ⟨j, hj⟩ := List.mem_iff_getElem?.mp ht
    have hname := hc.nodes (.definedType hp hj)
    have htype := hc.type_eq hp t.type fun name hname =>
      List.mem_append_right _ (List.mem_flatMap.mpr ⟨t, ht, hname⟩)
    simp only [Function.comp_apply, DefinedType.mk.injEq, and_true]
    exact ⟨hname, htype⟩
  show Program.mk (g (.program (f (.program program.name)))) _ _ _ _ _ _ _ = _
  rw [haccounts, hinstructions, htypes]
  exact congrArg (fun name => Program.mk name _ _ _ _ _ _ _) hself

/-- **TWO SUBSTITUTIONS ARE ONE**: where names compose on the nodes and references of a
    tree, substituting the one after the other is substituting their composition. -/
theorem substitute_substitute (hc : tree.Composes f g h) :
    (tree.substitute f).substitute g = tree.substitute h := by
  simp only [Tree.substitute, List.map_map]
  refine congrArg₂ Tree.mk (List.map_congr_left fun program hprogram => ?_)
    (List.map_congr_left fun t ht => ?_)
  · obtain ⟨p, hp⟩ := List.mem_iff_getElem?.mp hprogram
    exact hc.program_eq hp
  · obtain ⟨i, hi⟩ := List.mem_iff_getElem?.mp ht
    have hname := hc.nodes (.sharedType hi)
    have htype : (t.type.mapLinks fun name => f (.sharedType name)).mapLinks
        (fun name => g (.sharedType name)) = t.type.mapLinks fun name => h (.sharedType name) := by
      rw [TypeNode.mapLinks_mapLinks]
      refine TypeNode.mapLinks_congr t.type fun name hname => ?_
      refine hc.references (.sharedType name) (List.mem_append_right _ ?_)
      exact List.mem_flatMap.mpr ⟨t, ht, List.mem_map_of_mem hname⟩
    simp only [Function.comp_apply, DefinedType.mk.injEq, and_true]
    exact ⟨hname, htype⟩

end Tree.Composes

/-! ## Names as they are -/

/-- A link ends the path that it stands for. -/
theorem Program.name_linkPath (program : Program) (name : String) :
    (program.linkPath name).name = name := by
  unfold linkPath
  split <;> rfl

/-- A default with its references under the names they have. -/
theorem DefaultValue.substitute_name (owner caller : String) (value : DefaultValue) :
    value.substitute NodePath.name owner caller = value := by
  cases value with
  | pda account seeds =>
      refine congrArg (DefaultValue.pda account) (map_of_fixed fun binding _ => ?_)
      obtain ⟨seed, input⟩ := binding
      cases input <;> rfl
  | account name | argument name => rfl
  | absent | programId | literal _ => rfl

/-- An instruction with everything under the name it has. -/
theorem Instruction.substitute_name (program : Program) (instruction : Instruction) :
    instruction.substitute NodePath.name program = instruction := by
  have hdefault : ∀ value : Option DefaultValue,
      value.map (·.substitute NodePath.name program.name instruction.name) = value := by
    intro value
    cases value with
    | none => rfl
    | some v => exact congrArg some (v.substitute_name program.name instruction.name)
  have haccounts : instruction.accounts.map
      (·.substitute NodePath.name program.name instruction.name) = instruction.accounts := by
    refine map_of_fixed fun a _ => ?_
    rw [InstructionAccount.substitute, hdefault]
    rfl
  have harguments : instruction.arguments.map
      (·.substitute NodePath.name program instruction.name) = instruction.arguments := by
    refine map_of_fixed fun a _ => ?_
    rw [InstructionArgument.substitute, hdefault,
      TypeNode.mapLinks_of_fixed fun name _ => program.name_linkPath name]
    rfl
  rw [substitute, haccounts, harguments]
  rfl

/-- A program with everything under the name it has. -/
theorem Program.substitute_name (program : Program) :
    program.substitute NodePath.name = program := by
  have hlinks : ∀ name, NodePath.name (program.linkPath name) = name := program.name_linkPath
  have haccounts : program.accounts.map (fun a =>
      { a with
        name := NodePath.name (.account program.name a.name)
        fields := TypeNode.mapFieldLinks (fun name => (program.linkPath name).name) a.fields })
        = program.accounts := by
    refine map_of_fixed fun a _ => ?_
    rw [TypeNode.mapFieldLinks_of_fixed fun name _ => hlinks name]
    rfl
  have hinstructions : program.instructions.map (·.substitute NodePath.name program)
      = program.instructions :=
    map_of_fixed fun instruction _ => instruction.substitute_name program
  have htypes : program.definedTypes.map (fun t =>
      { t with
        name := NodePath.name (.definedType program.name t.name)
        type := t.type.mapLinks fun name => (program.linkPath name).name })
        = program.definedTypes := by
    refine map_of_fixed fun t _ => ?_
    rw [TypeNode.mapLinks_of_fixed fun name _ => hlinks name]
    rfl
  rw [substitute, haccounts, hinstructions, htypes]
  rfl

/-- A tree with everything under the name it has is that tree. -/
theorem Tree.substitute_name (tree : Tree) : tree.substitute NodePath.name = tree := by
  have hprograms : tree.programs.map (·.substitute NodePath.name) = tree.programs :=
    map_of_fixed fun program _ => program.substitute_name
  have hshared : tree.sharedTypes.map (fun t =>
      { t with
        name := NodePath.name (.sharedType t.name)
        type := t.type.mapLinks fun name => NodePath.name (.sharedType name) })
        = tree.sharedTypes := by
    refine map_of_fixed fun t _ => ?_
    exact congrArg (DefinedType.mk t.name · t.docs) (TypeNode.mapLinks_of_fixed fun _ _ => rfl)
  rw [substitute, hprograms, hshared]

/-! ## Paths of nodes that are substituted twice -/

/-- The path of a node that gets names twice. -/
theorem Tree.Holds.substitute_substitute {slot : Slot} {path : NodePath} {node : Node}
    (hheld : tree.Holds slot path node)
    (hnodes : ∀ {slot path node}, tree.Holds slot path node → g (path.substitute f) = h path) :
    (path.substitute f).substitute g = path.substitute h := by
  cases hheld with
  | program hp => exact congrArg NodePath.program (hnodes (.program hp))
  | account hp hi =>
      exact congrArg₂ NodePath.account (hnodes (.program hp)) (hnodes (.account hp hi))
  | definedType hp hi =>
      exact congrArg₂ NodePath.definedType (hnodes (.program hp)) (hnodes (.definedType hp hi))
  | instruction hp hi =>
      exact congrArg₂ NodePath.instruction (hnodes (.program hp)) (hnodes (.instruction hp hi))
  | instructionAccount hp hi hm =>
      have howner := hnodes (.program hp)
      have hcaller := hnodes (.instruction hp hi)
      have hself := hnodes (.instructionAccount hp hi hm)
      simp only [NodePath.substitute] at howner hcaller hself ⊢
      rw [howner, hcaller, hself]
  | instructionArgument hp hi hm =>
      have howner := hnodes (.program hp)
      have hcaller := hnodes (.instruction hp hi)
      have hself := hnodes (.instructionArgument hp hi hm)
      simp only [NodePath.substitute] at howner hcaller hself ⊢
      rw [howner, hcaller, hself]
  | sharedType hi => exact congrArg NodePath.sharedType (hnodes (.sharedType hi))

/-- A path under the names it has is that path. -/
theorem NodePath.substitute_name (path : NodePath) : path.substitute NodePath.name = path := by
  cases path <;> rfl

/-- What a substituted tree holds was held under a path of before. -/
theorem Tree.Holds.of_substitute {names : NodePath → String} {slot : Slot} {path : NodePath}
    {node : Node} (hheld : (tree.substitute names).Holds slot path node) :
    ∃ before node', tree.Holds slot before node' ∧ path = before.substitute names := by
  cases hheld with
  | program hp =>
      obtain ⟨_, hp', rfl⟩ := getElem?_map_eq_some_iff.mp hp
      exact ⟨_, _, .program hp', rfl⟩
  | account hp hi =>
      obtain ⟨_, hp', rfl⟩ := getElem?_map_eq_some_iff.mp hp
      obtain ⟨_, hi', rfl⟩ := getElem?_map_eq_some_iff.mp hi
      exact ⟨_, _, .account hp' hi', rfl⟩
  | definedType hp hi =>
      obtain ⟨_, hp', rfl⟩ := getElem?_map_eq_some_iff.mp hp
      obtain ⟨_, hi', rfl⟩ := getElem?_map_eq_some_iff.mp hi
      exact ⟨_, _, .definedType hp' hi', rfl⟩
  | instruction hp hi =>
      obtain ⟨_, hp', rfl⟩ := getElem?_map_eq_some_iff.mp hp
      obtain ⟨_, hi', rfl⟩ := getElem?_map_eq_some_iff.mp hi
      exact ⟨_, _, .instruction hp' hi', rfl⟩
  | instructionAccount hp hi hm =>
      obtain ⟨_, hp', rfl⟩ := getElem?_map_eq_some_iff.mp hp
      obtain ⟨_, hi', rfl⟩ := getElem?_map_eq_some_iff.mp hi
      obtain ⟨_, hm', rfl⟩ := getElem?_map_eq_some_iff.mp hm
      exact ⟨_, _, .instructionAccount hp' hi' hm', rfl⟩
  | instructionArgument hp hi hm =>
      obtain ⟨_, hp', rfl⟩ := getElem?_map_eq_some_iff.mp hp
      obtain ⟨_, hi', rfl⟩ := getElem?_map_eq_some_iff.mp hi
      obtain ⟨_, hm', rfl⟩ := getElem?_map_eq_some_iff.mp hm
      exact ⟨_, _, .instructionArgument hp' hi' hm', rfl⟩
  | sharedType hi =>
      obtain ⟨_, hi', rfl⟩ := getElem?_map_eq_some_iff.mp hi
      exact ⟨_, _, .sharedType hi', rfl⟩

/-- Paths of nodes that stay apart are told apart by their new paths. -/
theorem Tree.Distinct.substitute_injective {names : NodePath → String}
    (hd : (tree.substitute names).Distinct) {slot slot' : Slot} {path path' : NodePath}
    {node node' : Node} (hheld : tree.Holds slot path node)
    (hheld' : tree.Holds slot' path' node')
    (hpath : path.substitute names = path'.substitute names) : path = path' := by
  obtain ⟨renamed, hrenamed⟩ := hheld.substitute names
  obtain ⟨renamed', hrenamed'⟩ := hheld'.substitute names
  obtain rfl := hd.slot_unique hrenamed hrenamed' hpath
  exact hheld.path_unique hheld'

end Twice

/-! ## Valid names -/

/-- The names of nodes of a well-formed tree fit in a path. -/
theorem Tree.WellFormed.validName {tree : Tree} (hw : tree.WellFormed) {slot : Slot}
    {path : NodePath} {node : Node} (hheld : tree.Holds slot path node) :
    NodePath.ValidName path.name := by
  have hmem : ∀ {α : Type} {l : List α} {i : Nat} {a : α} (name : α → String),
      l[i]? = some a → name a ∈ l.map name :=
    fun name hi => List.mem_map_of_mem (List.mem_of_getElem? hi)
  cases hheld with
  | program hp => exact hw.programs.valid _ (hmem (·.name) hp)
  | account hp hi =>
      exact (hw.declared _ (List.mem_of_getElem? hp)).accounts.valid _ (hmem (·.name) hi)
  | definedType hp hi =>
      exact (hw.declared _ (List.mem_of_getElem? hp)).definedTypes.valid _ (hmem (·.name) hi)
  | instruction hp hi =>
      exact (hw.declared _ (List.mem_of_getElem? hp)).instructions.valid _ (hmem (·.name) hi)
  | instructionAccount hp hi hm =>
      have hinputs := (hw.declared _ (List.mem_of_getElem? hp)).inputs _ (List.mem_of_getElem? hi)
      exact hinputs.accounts.valid _ (hmem (·.name) hm)
  | instructionArgument hp hi hm =>
      have hinputs := (hw.declared _ (List.mem_of_getElem? hp)).inputs _ (List.mem_of_getElem? hi)
      exact hinputs.arguments.valid _ (hmem (·.name) hm)
  | sharedType hi =>
      -- loaded programs share no types
      rw [hw.sharedTypes] at hi
      exact nomatch hi

/-! ## The inverse of a rename, and one rename after another -/

namespace Rename

/-- The rename that gives every selected node, under its new path, its old name. -/
def inverse (operation : Rename) : Rename :=
  ⟨SortedMap.ofList (operation.renames.keys.map fun path =>
    (path.substitute operation.nameOf, path.name))⟩

/-- The rename that gives every node that one of two renames touches, under its path before
    the first, the name that it has after the second. -/
def andThen (first second : Rename) : Rename :=
  ⟨SortedMap.ofList ((first.renames.keys
      ++ second.renames.keys.map (·.substitute first.inverse.nameOf)).map fun path =>
    (path, second.nameOf (path.substitute first.nameOf)))⟩

section Laws

variable {tree : Tree} {first second : Rename} {slot : Slot} {path : NodePath} {node : Node}
  {newName : String}

/-- A selected path is held. -/
theorem holds_of_contains {operation : Rename} (hadm : operation.Admissible (Index.of tree))
    (h : operation.renames.contains path = true) : ∃ slot node, tree.Holds slot path node := by
  obtain ⟨newName, hget⟩ := SortedMap.contains_iff.mp h
  exact Index.contains_iff.mp (hadm.resolved hget)

/-- The entries of an inverse, where new paths tell the selected nodes apart. -/
theorem get?_inverse (hadm : first.Admissible (Index.of tree))
    (hd : (tree.substitute first.nameOf).Distinct) :
    first.inverse.renames.get? path = some newName ↔
      ∃ before, first.renames.contains before = true
        ∧ before.substitute first.nameOf = path ∧ before.name = newName := by
  have hmem : ∀ {key value}, (key, value) ∈ first.renames.keys.map (fun path =>
      (path.substitute first.nameOf, path.name)) ↔
        ∃ before, first.renames.contains before = true
          ∧ before.substitute first.nameOf = key ∧ before.name = value := by
    intro key value
    simp only [List.mem_map, Prod.mk.injEq, SortedMap.contains_iff_mem_keys]
  rw [← hmem]
  refine SortedMap.get?_ofList ?_
  rintro ⟨_, _⟩ he ⟨_, _⟩ he' rfl
  obtain ⟨before, hbefore, rfl, rfl⟩ := hmem.mp he
  obtain ⟨before', hbefore', hpath, rfl⟩ := hmem.mp he'
  obtain ⟨slot, node, hheld⟩ := holds_of_contains hadm hbefore
  obtain ⟨slot', node', hheld'⟩ := holds_of_contains hadm hbefore'
  rw [hd.substitute_injective hheld hheld' hpath.symm]

/-- **BACK TO OLD NAMES**: the inverse gives every node, selected or not, the name it
    had. -/
theorem nameOf_inverse (hadm : first.Admissible (Index.of tree))
    (hd : (tree.substitute first.nameOf).Distinct) (hheld : tree.Holds slot path node) :
    first.inverse.nameOf (path.substitute first.nameOf) = path.name := by
  cases hget : first.inverse.renames.get? (path.substitute first.nameOf) with
  | some newName =>
      obtain ⟨before, hbefore, hpath, rfl⟩ := (get?_inverse hadm hd).mp hget
      obtain ⟨slot', node', hheld'⟩ := holds_of_contains hadm hbefore
      rw [nameOf_of_get? hget, hd.substitute_injective hheld' hheld hpath]
  | none =>
      rw [nameOf_of_get?_none hget, NodePath.name_substitute]
      cases hkept : first.renames.get? path with
      | none => exact nameOf_of_get?_none hkept
      | some newName =>
          have hselected := SortedMap.contains_iff.mpr ⟨newName, hkept⟩
          rw [(get?_inverse hadm hd).mpr ⟨path, hselected, rfl, rfl⟩] at hget
          exact nomatch hget

/-- The inverse leads back to old paths. -/
theorem substitute_inverse (hadm : first.Admissible (Index.of tree))
    (hd : (tree.substitute first.nameOf).Distinct) (hheld : tree.Holds slot path node) :
    (path.substitute first.nameOf).substitute first.inverse.nameOf = path := by
  rw [hheld.substitute_substitute (nameOf_inverse hadm hd), NodePath.substitute_name]

/-- **THE ENTRIES OF A COMPOSITION**: the nodes that either rename touches, with the names
    that they end up with. -/
theorem get?_andThen (hfirst : first.Admissible (Index.of tree))
    (hd : (tree.substitute first.nameOf).Distinct)
    (hsecond : second.Admissible (Index.of (tree.substitute first.nameOf))) :
    (first.andThen second).renames.get? path = some newName ↔
      (∃ slot node, tree.Holds slot path node)
        ∧ (first.renames.contains path = true
          ∨ second.renames.contains (path.substitute first.nameOf) = true)
        ∧ second.nameOf (path.substitute first.nameOf) = newName := by
  have hlist : (first.andThen second).renames.get? path = some newName ↔
      (path ∈ first.renames.keys
          ∨ ∃ after ∈ second.renames.keys, after.substitute first.inverse.nameOf = path)
        ∧ second.nameOf (path.substitute first.nameOf) = newName := by
    unfold andThen
    rw [SortedMap.get?_ofList]
    · simp only [List.mem_map, List.mem_append, Prod.mk.injEq]
      constructor
      · rintro ⟨before, htouched, rfl, hname⟩; exact ⟨htouched, hname⟩
      · rintro ⟨htouched, hname⟩; exact ⟨path, htouched, rfl, hname⟩
    · intro e he e' he' hpath
      obtain ⟨before, -, rfl⟩ := List.mem_map.mp he
      obtain ⟨before', -, rfl⟩ := List.mem_map.mp he'
      exact congrArg (fun path => second.nameOf (path.substitute first.nameOf)) hpath
  rw [hlist]
  constructor
  · rintro ⟨htouched | ⟨after, hafter, rfl⟩, hname⟩
    · have hcontains := SortedMap.contains_iff_mem_keys.mpr htouched
      exact ⟨holds_of_contains hfirst hcontains, .inl hcontains, hname⟩
    · -- a path of the second rename is the new path of a node
      have hcontains := SortedMap.contains_iff_mem_keys.mpr hafter
      obtain ⟨slot, node, hheld⟩ := holds_of_contains hsecond hcontains
      obtain ⟨before, node', hbefore, rfl⟩ := hheld.of_substitute
      rw [substitute_inverse hfirst hd hbefore] at hname ⊢
      exact ⟨⟨slot, node', hbefore⟩, .inr hcontains, hname⟩
  · rintro ⟨⟨slot, node, hheld⟩, hcontains | hcontains, hname⟩
    · exact ⟨.inl (SortedMap.contains_iff_mem_keys.mp hcontains), hname⟩
    · exact ⟨.inr ⟨_, SortedMap.contains_iff_mem_keys.mp hcontains,
        substitute_inverse hfirst hd hheld⟩, hname⟩

/-- **ONE NAME AFTER ANOTHER**: the composition gives every node, touched or not, the name
    that the second rename gives it after the first. -/
theorem nameOf_andThen (hfirst : first.Admissible (Index.of tree))
    (hd : (tree.substitute first.nameOf).Distinct)
    (hsecond : second.Admissible (Index.of (tree.substitute first.nameOf)))
    (hheld : tree.Holds slot path node) :
    second.nameOf (path.substitute first.nameOf) = (first.andThen second).nameOf path := by
  cases hget : (first.andThen second).renames.get? path with
  | some newName =>
      rw [nameOf_of_get? hget]
      exact ((get?_andThen hfirst hd hsecond).mp hget).2.2
  | none =>
      have huntouched : ¬ (first.renames.contains path = true
          ∨ second.renames.contains (path.substitute first.nameOf) = true) := by
        intro htouched
        rw [(get?_andThen hfirst hd hsecond).mpr ⟨⟨slot, node, hheld⟩, htouched, rfl⟩] at hget
        exact nomatch hget
      obtain ⟨hkept, hkept'⟩ := not_or.mp huntouched
      rw [nameOf_of_get?_none hget,
        nameOf_of_get?_none (SortedMap.get?_eq_none_iff.mpr (Bool.eq_false_of_not_eq_true hkept')),
        NodePath.name_substitute,
        nameOf_of_get?_none (SortedMap.get?_eq_none_iff.mpr (Bool.eq_false_of_not_eq_true hkept))]

end Laws

end Rename

/-! ## Renames of reachable trees -/

/-- A rename of a reachable tree leads to a reachable tree. -/
theorem Tree.Reachable.rename {tree next : Tree} {operation : Rename} (hr : tree.Reachable)
    (h : operation.apply (Index.of tree) = .ok next) : next.Reachable :=
  .step hr (show (Operation.rename operation).apply (Index.of tree) = .ok next from h)

section Runs

variable {tree middle next : Tree} {first second : Rename}

/-- The composition of two renames succeeds with the result of the two. -/
theorem Rename.andThen_apply (hr : tree.Reachable)
    (hfirst : first.apply (Index.of tree) = .ok middle)
    (hsecond : second.apply (Index.of middle) = .ok next) :
    (first.andThen second).apply (Index.of tree) = .ok next := by
  have hmiddle := hr.rename hfirst
  have hnext := hmiddle.rename hsecond
  obtain ⟨hadm, rfl⟩ := Rename.apply_eq_ok hr.wellFormed.distinct hfirst
  have hd := hmiddle.wellFormed.distinct
  obtain ⟨hadm', rfl⟩ := Rename.apply_eq_ok hd hsecond
  have hsubstitute : (tree.substitute first.nameOf).substitute second.nameOf
      = tree.substitute (first.andThen second).nameOf :=
    (hr.composes (nameOf_andThen hadm hd hadm')).substitute_substitute
  rw [hsubstitute] at hnext ⊢
  have hpaths : ∀ entry ∈ (first.andThen second).renames.entries,
      (Index.of tree).contains entry.1 = true := by
    intro entry hentry
    have hget := SortedMap.get?_eq_some_iff.mpr hentry
    exact Index.contains_iff.mpr ((get?_andThen hadm hd hadm').mp hget).1
  have hnames : ∀ entry ∈ (first.andThen second).renames.entries,
      NodePath.ValidName entry.2 := by
    intro entry hentry
    have hget := SortedMap.get?_eq_some_iff.mpr hentry
    obtain ⟨⟨slot, node, hheld⟩, -⟩ := (get?_andThen hadm hd hadm').mp hget
    -- what the composition gives a node is its name in the result
    obtain ⟨renamed, hrenamed⟩ := hheld.substitute (first.andThen second).nameOf
    have hvalid := hnext.wellFormed.validName hrenamed
    rw [NodePath.name_substitute, nameOf_of_get? hget] at hvalid
    exact hvalid
  exact apply_of_distinct hr.wellFormed.distinct hpaths hnames hnext.wellFormed.distinct

/-- The inverse of a rename succeeds on its result and restores the tree. -/
theorem Rename.inverse_apply (hr : tree.Reachable)
    (hfirst : first.apply (Index.of tree) = .ok middle) :
    first.inverse.apply (Index.of middle) = .ok tree := by
  have hmiddle := hr.rename hfirst
  obtain ⟨hadm, rfl⟩ := Rename.apply_eq_ok hr.wellFormed.distinct hfirst
  have hd := hmiddle.wellFormed.distinct
  have hsubstitute : (tree.substitute first.nameOf).substitute first.inverse.nameOf = tree := by
    rw [(hr.composes (nameOf_inverse hadm hd)).substitute_substitute, tree.substitute_name]
  have hselected : ∀ entry ∈ first.inverse.renames.entries, ∃ slot path node,
      tree.Holds slot path node ∧ path.substitute first.nameOf = entry.1
        ∧ path.name = entry.2 := by
    intro entry hentry
    obtain ⟨before, hbefore, hpath, hname⟩ :=
      (get?_inverse hadm hd).mp (SortedMap.get?_eq_some_iff.mpr hentry)
    obtain ⟨slot, node, hheld⟩ := holds_of_contains hadm hbefore
    exact ⟨slot, before, node, hheld, hpath, hname⟩
  have hpaths : ∀ entry ∈ first.inverse.renames.entries,
      (Index.of (tree.substitute first.nameOf)).contains entry.1 = true := by
    intro entry hentry
    obtain ⟨slot, path, node, hheld, hpath, -⟩ := hselected entry hentry
    obtain ⟨renamed, hrenamed⟩ := hheld.substitute first.nameOf
    exact Index.contains_iff.mpr ⟨slot, renamed, hpath ▸ hrenamed⟩
  have hnames : ∀ entry ∈ first.inverse.renames.entries, NodePath.ValidName entry.2 := by
    intro entry hentry
    obtain ⟨slot, path, node, hheld, -, hname⟩ := hselected entry hentry
    exact hname ▸ hr.wellFormed.validName hheld
  have hback := apply_of_distinct hd hpaths hnames (hsubstitute.symm ▸ hr.wellFormed.distinct)
  rw [hsubstitute] at hback
  exact hback

/-- **RENAMES COMPOSE AND CAN BE UNDONE**: when a rename succeeds on a reachable tree and
    another on the result, the rename of every path that either touches to the name it ends
    up with succeeds on the tree and gives what the two give.  The inverse, from the new path
    of every selected node to its old name, succeeds on the result of the first and restores
    the tree. -/
theorem Rename.apply_andThen (hr : tree.Reachable)
    (hfirst : first.apply (Index.of tree) = .ok middle) :
    (∀ second next, second.apply (Index.of middle) = .ok next →
        (∀ path newName, (first.andThen second).renames.get? path = some newName ↔
          (∃ slot node, tree.Holds slot path node)
            ∧ (first.renames.contains path = true
              ∨ second.renames.contains (path.substitute first.nameOf) = true)
            ∧ second.nameOf (path.substitute first.nameOf) = newName)
        ∧ (first.andThen second).apply (Index.of tree) = .ok next)
      ∧ (∀ path newName, first.inverse.renames.get? path = some newName ↔
          ∃ before, first.renames.contains before = true
            ∧ before.substitute first.nameOf = path ∧ before.name = newName)
      ∧ first.inverse.apply (Index.of middle) = .ok tree := by
  have hback := inverse_apply hr hfirst
  have hmiddle := hr.rename hfirst
  obtain ⟨hadm, rfl⟩ := Rename.apply_eq_ok hr.wellFormed.distinct hfirst
  have hd := hmiddle.wellFormed.distinct
  refine ⟨fun second next hsecond => ⟨fun path newName => ?_, ?_⟩,
    fun path newName => get?_inverse hadm hd, hback⟩
  · exact get?_andThen hadm hd (Rename.apply_eq_ok hd hsecond).1
  · exact andThen_apply hr hfirst hsecond

end Runs

/-- Names for the bank with the names above: it is called what it was, but its
    instruction and one input that had kept its name are not, and the accounts exchange
    their names back. -/
def tillNames : Rename := ⟨SortedMap.ofList [
  (.program "till", "bank"), (.instruction "till" "start", "begin"),
  (.account "till" "Pool", "Vault"), (.account "till" "Vault", "Pool"),
  (.instructionAccount "till" "start" "guest", "visitor")]⟩

theorem Rename.apply_andThen_bank : ∃ tree middle next : Tree,
    tree.Reachable ∧ bankNames.apply (Index.of tree) = .ok middle
      ∧ tillNames.apply (Index.of middle) = .ok next
      ∧ (bankNames.andThen tillNames).renames.get? (.instruction "bank" "open") = some "begin"
      ∧ (bankNames.andThen tillNames).renames.get? (.account "bank" "Pool") = some "Pool"
      ∧ (bankNames.andThen tillNames).renames.get? (.instructionAccount "bank" "open" "guest")
        = some "visitor"
      ∧ (bankNames.andThen tillNames).apply (Index.of tree) = .ok next
      ∧ bankNames.inverse.apply (Index.of middle) = .ok tree := by
  obtain ⟨stages, hrun, hstages⟩ : ∃ stages,
      Pipeline.runDocuments [bank] (bankRun.take 2) = .ok stages
        ∧ (stages.any fun stage =>
            (bankNames.apply (Index.of stage.tree)).toOption.any fun middle =>
              (tillNames.apply (Index.of middle)).toOption.any fun next =>
                next.references = [.account "bank" "Vault",
                  .instructionAccount "bank" "begin" "vault", .definedType "bank" "Turn",
                  .definedType "bank" "Turn"]) = true :=
    runDocuments_bank (by decide +kernel)
  obtain ⟨stage, hmem, hstage⟩ := List.any_eq_true.mp hstages
  obtain ⟨middle, hmiddle, hrest⟩ := exists_ok_of_any hstage
  obtain ⟨next, hnext, -⟩ := exists_ok_of_any hrest
  have hr := reachable_of_runDocuments hrun stage hmem
  obtain ⟨hboth, -, hback⟩ := Rename.apply_andThen hr hmiddle
  exact ⟨stage.tree, middle, next, hr, hmiddle, hnext, by decide +kernel, by decide +kernel,
    by decide +kernel, (hboth tillNames next hnext).2, hback⟩

end Bindery
