import Bindery.Index
import Bindery.Proofs.Links
import Bindery.Proofs.Names
import Bindery.Proofs.Slots

/-! # Simultaneous substitution of names — and what references stand for after it

    A substitution gives every path a name.  `Tree.substitute` puts that name in
    the place of the name of each node, and in the place of each reference the
    name of the path that the reference stands for in its scope: an input of
    the instruction, an account of the program, a type of the program or else a
    shared one.  Every look-up is in the tree as it was, so names may be
    exchanged.  Address recipes are no place of references here.

    A reference is a name that stands for a path in its scope.  A substitution
    of names moves the nodes of a tree under new paths, each in the slot where
    it was (`Holds.substitute`), and it moves every reference along: in order,
    they stand for the new paths of what they stood for
    (`Tree.references_substitute`). -/

namespace Bindery

/-- The path that an input of an instruction stands for. -/
def Input.pathIn (program instruction : String) : Input → NodePath
  | .account name => .instructionAccount program instruction name
  | .argument name => .instructionArgument program instruction name

/-- The path of an input is one of its program. -/
theorem Input.programName?_pathIn (program instruction : String) (input : Input) :
    (input.pathIn program instruction).programName? = some program := by
  cases input <;> rfl

/-- The path of an input tells its instruction and what the input is. -/
theorem Input.pathIn_inj {owner caller owner' caller' : String} {input other : Input} :
    input.pathIn owner caller = other.pathIn owner' caller'
      ↔ owner = owner' ∧ caller = caller' ∧ input = other := by
  cases input <;> cases other <;> simp [pathIn]

/-- The path that a link of a program stands for: its own type of that name, else
    the shared one. -/
def Program.linkPath (program : Program) (name : String) : NodePath :=
  if program.defines name then .definedType program.name name else .sharedType name

/-- The same input under the name of its path. -/
def Input.substitute (names : NodePath → String) (program instruction : String)
    (input : Input) : Input :=
  match input with
  | .account name => .account (names (.instructionAccount program instruction name))
  | .argument name => .argument (names (.instructionArgument program instruction name))

/-- The same default with every reference replaced by the name of its path. -/
def DefaultValue.substitute (names : NodePath → String) (program instruction : String) :
    DefaultValue → DefaultValue
  | .pda owner seeds =>
      .pda (names (.account program owner))
        (seeds.map fun b => { b with value := b.value.substitute names program instruction })
  | .account name => .account (names (.instructionAccount program instruction name))
  | .argument name => .argument (names (.instructionArgument program instruction name))
  | .absent => .absent
  | .programId => .programId
  | .literal value => .literal value

/-- The same instruction account with its name and default replaced. -/
def InstructionAccount.substitute (names : NodePath → String) (program instruction : String)
    (account : InstructionAccount) : InstructionAccount :=
  { account with
    name := names (.instructionAccount program instruction account.name)
    defaultValue := account.defaultValue.map (·.substitute names program instruction) }

/-- The same argument with its name, links and default replaced. -/
def InstructionArgument.substitute (names : NodePath → String) (program : Program)
    (instruction : String) (argument : InstructionArgument) : InstructionArgument :=
  { argument with
    name := names (.instructionArgument program.name instruction argument.name)
    type := argument.type.mapLinks fun name => names (program.linkPath name)
    defaultValue := argument.defaultValue.map (·.substitute names program.name instruction) }

/-- The same instruction with its names and references replaced. -/
def Instruction.substitute (names : NodePath → String) (program : Program)
    (instruction : Instruction) : Instruction :=
  { instruction with
    name := names (.instruction program.name instruction.name)
    accounts := instruction.accounts.map (·.substitute names program.name instruction.name)
    arguments := instruction.arguments.map (·.substitute names program instruction.name) }

/-- The same program with its names and references replaced. -/
def Program.substitute (names : NodePath → String) (program : Program) : Program :=
  { program with
    name := names (.program program.name)
    accounts := program.accounts.map fun a =>
      { a with
        name := names (.account program.name a.name)
        fields := TypeNode.mapFieldLinks (fun name => names (program.linkPath name)) a.fields }
    instructions := program.instructions.map (·.substitute names program)
    definedTypes := program.definedTypes.map fun t =>
      { t with
        name := names (.definedType program.name t.name)
        type := t.type.mapLinks fun name => names (program.linkPath name) } }

/-- The same tree with its names and references replaced. -/
def Tree.substitute (names : NodePath → String) (tree : Tree) : Tree where
  programs := tree.programs.map (·.substitute names)
  sharedTypes := tree.sharedTypes.map fun t =>
    { t with
      name := names (.sharedType t.name)
      type := t.type.mapLinks fun name => names (.sharedType name) }

/-- A renamed program defines what its types have become. -/
theorem Program.defines_substitute {names : NodePath → String} {program : Program}
    {name : String} (h : program.defines name = true) :
    (program.substitute names).defines (names (.definedType program.name name)) = true := by
  obtain ⟨t, ht, rfl⟩ := List.mem_map.mp (isSome_find?_iff.mp h)
  refine isSome_find?_iff.mpr ?_
  simp only [Program.substitute, List.map_map]
  exact List.mem_map.mpr ⟨t, ht, rfl⟩

/-- The links of a substituted program are the images of its links, in order. -/
theorem Program.links_substitute (names : NodePath → String) (program : Program) :
    (program.substitute names).links
      = program.links.map fun name => names (program.linkPath name) := by
  simp only [links, substitute, Instruction.substitute, InstructionArgument.substitute,
    List.map_append, List.map_flatMap,
    List.flatMap_map, TypeNode.links_mapLinks, ← TypeNode.fieldLinks_eq_flatMap,
    TypeNode.fieldLinks_mapFieldLinks]

end Bindery

/-! ## References -/

namespace Bindery

/-! ## Paths of renamed nodes -/

/-- The path that a node has when every node has a new name. -/
def NodePath.substitute (names : NodePath → String) : NodePath → NodePath
  | .program p => .program (names (.program p))
  | .account p a => .account (names (.program p)) (names (.account p a))
  | .instruction p i => .instruction (names (.program p)) (names (.instruction p i))
  | .instructionAccount p i a =>
      .instructionAccount (names (.program p)) (names (.instruction p i))
        (names (.instructionAccount p i a))
  | .instructionArgument p i a =>
      .instructionArgument (names (.program p)) (names (.instruction p i))
        (names (.instructionArgument p i a))
  | .definedType p t => .definedType (names (.program p)) (names (.definedType p t))
  | .sharedType t => .sharedType (names (.sharedType t))

/-- A renamed path ends with the new name of its node. -/
theorem NodePath.name_substitute (names : NodePath → String) (path : NodePath) :
    (path.substitute names).name = names path := by
  cases path <;> rfl

section Slots

variable {tree : Tree} {p i : Nat} {program : Program} {instruction : Instruction}

/-- A substituted program sits where the program sat. -/
theorem Tree.programs_substitute (names : NodePath → String)
    (hp : tree.programs[p]? = some program) :
    (tree.substitute names).programs[p]? = some (program.substitute names) :=
  getElem?_map_eq_some_iff.mpr ⟨program, hp, rfl⟩

/-- A substituted instruction sits where the instruction sat. -/
theorem Program.instructions_substitute (names : NodePath → String)
    (hi : program.instructions[i]? = some instruction) :
    (program.substitute names).instructions[i]? = some (instruction.substitute names program) :=
  getElem?_map_eq_some_iff.mpr ⟨instruction, hi, rfl⟩

/-- **SLOTS STAY, PATHS MOVE**: after a substitution a slot holds the renamed path of
    what it held. -/
theorem Tree.Holds.substitute (names : NodePath → String) {slot : Slot} {path : NodePath}
    {node : Node} (h : tree.Holds slot path node) :
    ∃ renamed, (tree.substitute names).Holds slot (path.substitute names) renamed := by
  have hmap : ∀ {α β : Type} {l : List α} {f : α → β} {i : Nat} {a : α},
      l[i]? = some a → (l.map f)[i]? = some (f a) :=
    fun hi => getElem?_map_eq_some_iff.mpr ⟨_, hi, rfl⟩
  cases h with
  | program hp => exact ⟨_, .program (tree.programs_substitute names hp)⟩
  | account hp hi => exact ⟨_, .account (tree.programs_substitute names hp) (hmap hi)⟩
  | definedType hp hi => exact ⟨_, .definedType (tree.programs_substitute names hp) (hmap hi)⟩
  | instruction hp hi =>
      exact ⟨_, .instruction (tree.programs_substitute names hp)
        (Program.instructions_substitute names hi)⟩
  | instructionAccount hp hi hm =>
      exact ⟨_, .instructionAccount (tree.programs_substitute names hp)
        (Program.instructions_substitute names hi) (hmap hm)⟩
  | instructionArgument hp hi hm =>
      exact ⟨_, .instructionArgument (tree.programs_substitute names hp)
        (Program.instructions_substitute names hi) (hmap hm)⟩
  | @sharedType i defined hi =>
      have hafter : (tree.substitute names).sharedTypes[i]? = some
          { defined with
            name := names (.sharedType defined.name)
            type := defined.type.mapLinks fun name => names (.sharedType name) } := hmap hi
      exact ⟨_, .sharedType hafter⟩

end Slots

/-! ## What references stand for -/

/-- The paths that the references of a default stand for, in order. -/
def DefaultValue.references (program instruction : String) : DefaultValue → List NodePath
  | .pda owner seeds =>
      .account program owner :: seeds.map fun binding => binding.value.pathIn program instruction
  | .account name => [.instructionAccount program instruction name]
  | .argument name => [.instructionArgument program instruction name]
  | .absent | .programId | .literal _ => []

/-- The paths that the defaults of an instruction refer to, in order. -/
def Instruction.references (program : String) (instruction : Instruction) : List NodePath :=
  instruction.defaults.flatMap (·.references program instruction.name)

/-- The paths that the defaults and the links of a program stand for, in order. -/
def Program.references (program : Program) : List NodePath :=
  program.instructions.flatMap (·.references program.name) ++ program.links.map program.linkPath

/-- The paths that the references of a tree stand for, in order. -/
def Tree.references (tree : Tree) : List NodePath :=
  tree.programs.flatMap (·.references)
    ++ tree.sharedTypes.flatMap fun defined => defined.type.links.map NodePath.sharedType

section Substitution

variable (names : NodePath → String)

/-- A substituted input stands for the renamed path. -/
theorem Input.pathIn_substitute (program instruction : String) (input : Input) :
    (input.substitute names program instruction).pathIn (names (.program program))
        (names (.instruction program instruction))
      = (input.pathIn program instruction).substitute names := by
  cases input <;> rfl

/-- The references of a substituted default stand for the renamed paths. -/
theorem DefaultValue.references_substitute (program instruction : String)
    (value : DefaultValue) :
    (value.substitute names program instruction).references (names (.program program))
        (names (.instruction program instruction))
      = (value.references program instruction).map (·.substitute names) := by
  cases value with
  | pda owner seeds =>
      simp only [substitute, references, List.map_cons, List.map_map]
      refine congrArg (_ :: ·) (List.map_congr_left fun binding _ => ?_)
      exact Input.pathIn_substitute names program instruction binding.value
  | account name => rfl
  | argument name => rfl
  | absent | programId | literal _ => rfl

/-- The defaults of a substituted instruction are the substituted defaults. -/
theorem Instruction.defaults_substitute (program : Program) (instruction : Instruction) :
    (instruction.substitute names program).defaults
      = instruction.defaults.map (·.substitute names program.name instruction.name) := by
  simp only [defaults, substitute, InstructionAccount.substitute, InstructionArgument.substitute,
    List.filterMap_map, List.map_append, List.map_filterMap]
  rfl

/-- The defaults of a substituted instruction refer to the renamed paths. -/
theorem Instruction.references_substitute (program : Program) (instruction : Instruction) :
    (instruction.substitute names program).references (names (.program program.name))
      = (instruction.references program.name).map (·.substitute names) := by
  unfold references
  rw [defaults_substitute, List.flatMap_map, List.map_flatMap]
  refine congrArg (List.flatMap · _) (funext fun value => ?_)
  exact value.references_substitute names program.name instruction.name

/-- A link to a type of the program stands for what is held. -/
theorem Program.holds_linkPath {tree : Tree} {p : Nat} {program : Program} {name : String}
    (hp : tree.programs[p]? = some program) (h : program.defines name = true) :
    ∃ slot node, tree.Holds slot (program.linkPath name) node := by
  have hpath : program.linkPath name = .definedType program.name name := if_pos h
  obtain ⟨defined, hdefined, rfl⟩ := List.mem_map.mp (isSome_find?_iff.mp h)
  obtain ⟨i, hi⟩ := List.mem_iff_getElem?.mp hdefined
  rw [hpath]
  exact ⟨_, _, .definedType hp hi⟩

/-- A link to a type of the program stands for that type under its new path. -/
theorem Program.linkPath_substitute {program : Program} {name : String}
    (h : program.defines name = true) :
    (program.substitute names).linkPath (names (program.linkPath name))
      = (program.linkPath name).substitute names := by
  have hpath : program.linkPath name = .definedType program.name name := if_pos h
  rw [hpath]
  exact if_pos (Program.defines_substitute h)

/-- The references of a substituted program stand for the renamed paths, where its
    links name types of its own. -/
theorem Program.references_substitute {program : Program}
    (h : ∀ name ∈ program.links, program.defines name = true) :
    (program.substitute names).references = program.references.map (·.substitute names) := by
  have hinstructions : (program.substitute names).instructions.flatMap
      (·.references (program.substitute names).name)
        = (program.instructions.flatMap (·.references program.name)).map (·.substitute names) := by
    show (program.instructions.map (·.substitute names program)).flatMap _ = _
    rw [List.flatMap_map, List.map_flatMap]
    refine congrArg (List.flatMap · _) (funext fun instruction => ?_)
    exact instruction.references_substitute names program
  unfold references
  rw [hinstructions, List.map_append, links_substitute, List.map_map, List.map_map]
  refine congrArg (_ ++ ·) (List.map_congr_left fun name hname => ?_)
  exact linkPath_substitute names (h name hname)

/-- **REFERENCES MOVE ALONG**: the references of a substituted tree stand for the
    renamed paths, where programs link to types of their own. -/
theorem Tree.references_substitute {tree : Tree}
    (h : ∀ program ∈ tree.programs, ∀ name ∈ program.links, program.defines name = true) :
    (tree.substitute names).references = tree.references.map (·.substitute names) := by
  have hprograms : (tree.substitute names).programs.flatMap (·.references)
      = (tree.programs.flatMap (·.references)).map (·.substitute names) := by
    show (tree.programs.map (·.substitute names)).flatMap _ = _
    rw [List.flatMap_map, List.map_flatMap]
    refine List.flatMap_congr fun program hmem => ?_
    exact program.references_substitute names (h program hmem)
  have hshared : (tree.substitute names).sharedTypes.flatMap
      (fun defined => defined.type.links.map NodePath.sharedType)
        = (tree.sharedTypes.flatMap fun defined =>
            defined.type.links.map NodePath.sharedType).map (·.substitute names) := by
    show (tree.sharedTypes.map _).flatMap _ = _
    rw [List.flatMap_map, List.map_flatMap]
    refine congrArg (List.flatMap · _) (funext fun defined => ?_)
    rw [TypeNode.links_mapLinks, List.map_map, List.map_map]
    rfl
  unfold references
  rw [hprograms, hshared, List.map_append]

end Substitution

end Bindery
