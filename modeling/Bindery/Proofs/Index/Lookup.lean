import Bindery.Proofs.NodePath
import Bindery.Proofs.Slots

/-! # Look-ups — the index against the tree

    An index is a flat table.  The tree can be asked as well: step by step, for
    the program of a name and what it has under the next one (`Tree.lookup?`).
    Both find nothing but what slots hold, the index by its entries
    (`mem_entries`) and a look-up by its steps (`exists_holds_of_lookup?`); where
    names are distinct per scope they find the same (`Index.find?_node`).

    How many paths an index knows is counted on the paths that the tree declares
    (`Tree.paths`), which are those of the entries in order.  None is declared
    twice where names are distinct per scope (`Distinct.nodup_paths`), so that
    first come, first served loses nothing (`size_eq_nodeCount`). -/

namespace Bindery

/-! ## Step by step -/

/-- What is found under a name sits somewhere in the list and has the name. -/
theorem exists_position_of_find? {α : Type} {name : α → String} {l : List α} {old : String}
    {a : α} (h : l.find? (fun b => name b = old) = some a) :
    ∃ i : Nat, l[i]? = some a ∧ name a = old := by
  obtain ⟨i, hi⟩ := List.mem_iff_getElem?.mp (List.mem_of_find?_eq_some h)
  exact ⟨i, hi, name_of_find? h⟩

/-- Among distinct names, what sits somewhere in the list is found under its name. -/
theorem find?_of_position {α : Type} {name : α → String} {l : List α} {i : Nat} {a : α}
    (hl : (l.map name).Nodup) (hi : l[i]? = some a) :
    l.find? (fun b => name b = name a) = some a :=
  (find?_named_iff hl).mpr ⟨List.mem_of_getElem? hi, rfl⟩

namespace Tree

variable {tree : Tree} {slot : Slot} {path : NodePath} {node : Node}

/-- Looking a path up name by name finds a node that a slot holds under it. -/
theorem exists_holds_of_lookup? (h : tree.lookup? path = some node) :
    ∃ slot, tree.Holds slot path node := by
  cases path with
  | program p =>
      obtain ⟨program, hprogram, rfl⟩ := Option.map_eq_some_iff.mp h
      obtain ⟨_, hp, rfl⟩ := exists_position_of_find? hprogram
      exact ⟨_, .program hp⟩
  | sharedType t =>
      obtain ⟨defined, hdefined, rfl⟩ := Option.map_eq_some_iff.mp h
      obtain ⟨_, hi, rfl⟩ := exists_position_of_find? hdefined
      exact ⟨_, .sharedType hi⟩
  | account p a =>
      obtain ⟨program, hprogram, h⟩ := Option.bind_eq_some_iff.mp h
      obtain ⟨account, haccount, h⟩ := Option.bind_eq_some_iff.mp h
      obtain rfl := Option.some.inj h
      obtain ⟨_, hp, rfl⟩ := exists_position_of_find? hprogram
      obtain ⟨_, hi, rfl⟩ := exists_position_of_find? haccount
      exact ⟨_, .account hp hi⟩
  | definedType p t =>
      obtain ⟨program, hprogram, h⟩ := Option.bind_eq_some_iff.mp h
      obtain ⟨defined, hdefined, h⟩ := Option.bind_eq_some_iff.mp h
      obtain rfl := Option.some.inj h
      obtain ⟨_, hp, rfl⟩ := exists_position_of_find? hprogram
      obtain ⟨_, hi, rfl⟩ := exists_position_of_find? hdefined
      exact ⟨_, .definedType hp hi⟩
  | instruction p i =>
      obtain ⟨program, hprogram, h⟩ := Option.bind_eq_some_iff.mp h
      obtain ⟨instruction, hinstruction, h⟩ := Option.bind_eq_some_iff.mp h
      obtain rfl := Option.some.inj h
      obtain ⟨_, hp, rfl⟩ := exists_position_of_find? hprogram
      obtain ⟨_, hi, rfl⟩ := exists_position_of_find? hinstruction
      exact ⟨_, .instruction hp hi⟩
  | instructionAccount p i a =>
      obtain ⟨program, hprogram, h⟩ := Option.bind_eq_some_iff.mp h
      obtain ⟨instruction, hinstruction, h⟩ := Option.bind_eq_some_iff.mp h
      obtain ⟨account, haccount, h⟩ := Option.bind_eq_some_iff.mp h
      obtain rfl := Option.some.inj h
      obtain ⟨_, hp, rfl⟩ := exists_position_of_find? hprogram
      obtain ⟨_, hi, rfl⟩ := exists_position_of_find? hinstruction
      obtain ⟨_, hm, rfl⟩ := exists_position_of_find? haccount
      exact ⟨_, .instructionAccount hp hi hm⟩
  | instructionArgument p i a =>
      obtain ⟨program, hprogram, h⟩ := Option.bind_eq_some_iff.mp h
      obtain ⟨instruction, hinstruction, h⟩ := Option.bind_eq_some_iff.mp h
      obtain ⟨argument, hargument, h⟩ := Option.bind_eq_some_iff.mp h
      obtain rfl := Option.some.inj h
      obtain ⟨_, hp, rfl⟩ := exists_position_of_find? hprogram
      obtain ⟨_, hi, rfl⟩ := exists_position_of_find? hinstruction
      obtain ⟨_, hm, rfl⟩ := exists_position_of_find? hargument
      exact ⟨_, .instructionArgument hp hi hm⟩

/-- Where names are distinct per scope, it finds every node that a slot holds. -/
theorem Holds.lookup? (hd : tree.Distinct) (h : tree.Holds slot path node) :
    tree.lookup? path = some node := by
  have hprogram : ∀ {p : Nat} {program : Program}, tree.programs[p]? = some program →
      tree.program? program.name = some program ∧ program.Distinct := fun hp =>
    ⟨find?_of_position hd.programs hp, hd.members _ (List.mem_of_getElem? hp)⟩
  have hinstruction : ∀ {i : Nat} {program : Program} {instruction : Instruction},
      program.Distinct → program.instructions[i]? = some instruction →
      program.instruction? instruction.name = some instruction ∧ instruction.Distinct :=
    fun hdistinct hi => ⟨find?_of_position hdistinct.instructions hi,
      hdistinct.inputs _ (List.mem_of_getElem? hi)⟩
  cases h with
  | program hp => exact Option.map_eq_some_iff.mpr ⟨_, (hprogram hp).1, rfl⟩
  | sharedType hi =>
      exact Option.map_eq_some_iff.mpr ⟨_, find?_of_position hd.sharedTypes hi, rfl⟩
  | account hp hi =>
      obtain ⟨hfound, hdistinct⟩ := hprogram hp
      exact Option.bind_eq_some_iff.mpr ⟨_, hfound, Option.bind_eq_some_iff.mpr
        ⟨_, find?_of_position hdistinct.accounts hi, rfl⟩⟩
  | definedType hp hi =>
      obtain ⟨hfound, hdistinct⟩ := hprogram hp
      exact Option.bind_eq_some_iff.mpr ⟨_, hfound, Option.bind_eq_some_iff.mpr
        ⟨_, find?_of_position hdistinct.definedTypes hi, rfl⟩⟩
  | instruction hp hi =>
      obtain ⟨hfound, hdistinct⟩ := hprogram hp
      exact Option.bind_eq_some_iff.mpr ⟨_, hfound, Option.bind_eq_some_iff.mpr
        ⟨_, (hinstruction hdistinct hi).1, rfl⟩⟩
  | instructionAccount hp hi hm =>
      obtain ⟨hfound, hdistinct⟩ := hprogram hp
      obtain ⟨hcall, hinputs⟩ := hinstruction hdistinct hi
      exact Option.bind_eq_some_iff.mpr ⟨_, hfound, Option.bind_eq_some_iff.mpr ⟨_, hcall,
        Option.bind_eq_some_iff.mpr ⟨_, find?_of_position hinputs.accounts hm, rfl⟩⟩⟩
  | instructionArgument hp hi hm =>
      obtain ⟨hfound, hdistinct⟩ := hprogram hp
      obtain ⟨hcall, hinputs⟩ := hinstruction hdistinct hi
      exact Option.bind_eq_some_iff.mpr ⟨_, hfound, Option.bind_eq_some_iff.mpr ⟨_, hcall,
        Option.bind_eq_some_iff.mpr ⟨_, find?_of_position hinputs.arguments hm, rfl⟩⟩⟩

end Tree

/-- **TWO WAYS TO A NODE**: where names are distinct per scope, what a path selects in the index
    is what looking it up name by name finds. -/
theorem Index.find?_node {tree : Tree} (hd : tree.Distinct) (path : NodePath) :
    ((Index.of tree).find? path).map (·.node) = tree.lookup? path := by
  refine Option.ext fun node => ?_
  rw [Option.map_eq_some_iff]
  constructor
  · rintro ⟨entry, hentry, rfl⟩
    exact (holds_of_find? hentry).2.lookup? hd
  · intro h
    obtain ⟨slot, hheld⟩ := Tree.exists_holds_of_lookup? h
    exact ⟨_, find?_of_holds hd hheld, rfl⟩

/-! ## Counting -/

/-- The paths that an instruction declares. -/
def Instruction.paths (instruction : Instruction) (program : String) : List NodePath :=
  .instruction program instruction.name
    :: instruction.accounts.map (.instructionAccount program instruction.name ·.name)
    ++ instruction.arguments.map (.instructionArgument program instruction.name ·.name)

/-- The paths that a program declares. -/
def Program.paths (program : Program) : List NodePath :=
  .program program.name
    :: program.accounts.map (.account program.name ·.name)
    ++ program.definedTypes.map (.definedType program.name ·.name)
    ++ program.instructions.flatMap (·.paths program.name)

/-- The paths that a tree declares, in the order of its entries. -/
def Tree.paths (tree : Tree) : List NodePath :=
  tree.sharedTypes.map (.sharedType ·.name) ++ tree.programs.flatMap (·.paths)

/-- How many programs, accounts, types, instructions and inputs of instructions a tree has. -/
def Tree.nodeCount (tree : Tree) : Nat :=
  let instructions := tree.programs.flatMap (·.instructions)
  tree.programs.length
    + (tree.programs.flatMap (·.accounts)).length
    + (tree.sharedTypes.length + (tree.programs.flatMap (·.definedTypes)).length)
    + instructions.length
    + ((instructions.flatMap (·.accounts)).length + (instructions.flatMap (·.arguments)).length)

/-- What is read of each item is read of each item with its position. -/
theorem map_zipIdx_eq_map {α β γ : Type} {l : List α} {build : α × Nat → β} {read : β → γ}
    {view : α → γ} (h : ∀ a i, read (build (a, i)) = view a) :
    (l.zipIdx.map build).map read = l.map view := by
  have hview : read ∘ build = view ∘ Prod.fst := funext fun item => h item.1 item.2
  rw [List.map_map, hview, ← List.map_map, List.zipIdx_map_fst]

/-- The same where items have several. -/
theorem map_flatMap_zipIdx {α β γ : Type} {l : List α} {build : α × Nat → List β} {read : β → γ}
    {view : α → List γ} (h : ∀ a i, (build (a, i)).map read = view a) :
    (l.zipIdx.flatMap build).map read = l.flatMap view := by
  have hview : (fun item => (build item).map read) = fun item => view item.1 :=
    funext fun item => h item.1 item.2
  calc (l.zipIdx.flatMap build).map read
      = l.zipIdx.flatMap fun item => (build item).map read := List.map_flatMap
    _ = l.zipIdx.flatMap fun item => view item.1 := by rw [hview]
    _ = (l.zipIdx.map Prod.fst).flatMap view := by rw [List.flatMap_map]
    _ = l.flatMap view := by rw [List.zipIdx_map_fst]

/-- The entries of a tree have the paths that it declares. -/
theorem Tree.map_path_entries (tree : Tree) : tree.entries.map (·.path) = tree.paths := by
  have hinstruction : ∀ (instruction : Instruction) (program : String) (p i : Nat),
      (instruction.entries program p i).map (·.path) = instruction.paths program := by
    intro instruction program p i
    simp only [Instruction.entries, Instruction.paths, List.map_append, List.map_cons]
    refine congrArg₂ (· ++ ·) (congrArg (List.cons _) ?_) ?_
    · exact map_zipIdx_eq_map fun _ _ => rfl
    · exact map_zipIdx_eq_map fun _ _ => rfl
  have hprogram : ∀ (program : Program) (p : Nat),
      (program.entries p).map (·.path) = program.paths := by
    intro program p
    simp only [Program.entries, Program.paths, List.map_append, List.map_cons]
    refine congrArg₂ (· ++ ·) (congrArg₂ (· ++ ·) (congrArg (List.cons _) ?_) ?_) ?_
    · exact map_zipIdx_eq_map fun _ _ => rfl
    · exact map_zipIdx_eq_map fun _ _ => rfl
    · exact map_flatMap_zipIdx fun instruction i => hinstruction instruction program.name p i
  simp only [entries, paths, List.map_append]
  refine congrArg₂ (· ++ ·) ?_ (map_flatMap_zipIdx hprogram)
  exact map_zipIdx_eq_map fun _ _ => rfl

/-- A tree declares as many paths as it has nodes. -/
theorem Tree.length_paths (tree : Tree) : tree.paths.length = tree.nodeCount := by
  have hinstructions : ∀ (instructions : List Instruction) (program : String),
      (instructions.flatMap (·.paths program)).length = instructions.length
        + ((instructions.flatMap (·.accounts)).length
          + (instructions.flatMap (·.arguments)).length) := by
    intro instructions program
    induction instructions with
    | nil => rfl
    | cons instruction rest ih =>
        rw [List.flatMap_cons, List.length_append, ih]
        simp only [List.flatMap_cons, List.length_append, Instruction.paths, List.length_cons,
          List.length_map]
        omega
  have hprogram : ∀ program : Program, program.paths.length = 1 + program.accounts.length
      + program.definedTypes.length + (program.instructions.length
        + ((program.instructions.flatMap (·.accounts)).length
          + (program.instructions.flatMap (·.arguments)).length)) := by
    intro program
    simp only [Program.paths, List.length_append, List.length_cons, List.length_map,
      hinstructions]
    omega
  obtain ⟨programs, sharedTypes⟩ := tree
  simp only [paths, nodeCount, List.length_append, List.length_map]
  induction programs with
  | nil => exact Nat.add_comm _ _
  | cons program rest ih =>
      rw [List.flatMap_cons, List.length_append, hprogram]
      simp only [List.flatMap_cons, List.flatMap_append, List.length_append, List.length_cons]
      omega

/-- Members of distinct names have distinct paths below their owner. -/
theorem nodup_map_name {α : Type} {name : α → String} {l : List α} {path : String → NodePath}
    (hpath : ∀ a b, path a = path b → a = b) (hl : (l.map name).Nodup) :
    (l.map fun a => path (name a)).Nodup := by
  have hmap : l.map (fun a => path (name a)) = (l.map name).map path := by
    rw [List.map_map]
    rfl
  rw [hmap]
  exact hl.map hpath

/-- What nodes of distinct names declare has nothing in common if it shows the names. -/
theorem nodup_flatMap_name {α : Type} {name : α → String} {l : List α}
    {paths : α → List NodePath} {shown : NodePath → Option String}
    (hshown : ∀ a ∈ l, ∀ path ∈ paths a, shown path = some (name a))
    (hpaths : ∀ a ∈ l, (paths a).Nodup) (hl : (l.map name).Nodup) : (l.flatMap paths).Nodup := by
  refine List.nodup_flatMap.mpr ⟨hpaths, ?_⟩
  refine (List.pairwise_map.mp hl).imp_of_mem fun {a b} ha hb hne => ?_
  intro path hpath hpath'
  refine hne (Option.some.inj ?_)
  rw [← hshown a ha path hpath, hshown b hb path hpath']

/-- An instruction with distinct names declares no path twice. -/
theorem Instruction.Distinct.nodup_paths {instruction : Instruction} (h : instruction.Distinct)
    (program : String) : (instruction.paths program).Nodup := by
  refine List.nodup_append.mpr ⟨List.nodup_cons.mpr ⟨by simp, ?_⟩, ?_, by simp⟩
  · exact nodup_map_name (fun _ _ heq => (NodePath.instructionAccount.inj heq).2.2) h.accounts
  · exact nodup_map_name (fun _ _ heq => (NodePath.instructionArgument.inj heq).2.2) h.arguments

/-- The paths that an instruction declares lead through its name. -/
theorem Instruction.through_name {instruction : Instruction} {program : String} {path : NodePath}
    (h : path ∈ instruction.paths program) : path.names[1]? = some instruction.name := by
  simp only [paths, List.cons_append, List.mem_cons, List.mem_append, List.mem_map] at h
  rcases h with rfl | ⟨_, -, rfl⟩ | ⟨_, -, rfl⟩ <;> rfl

/-- The paths that a program declares lead through its name. -/
theorem Program.through_name {program : Program} {path : NodePath} (h : path ∈ program.paths) :
    path.programName? = some program.name := by
  simp only [paths, List.cons_append, List.mem_cons, List.mem_append, List.mem_map,
    List.mem_flatMap, Instruction.paths] at h
  rcases h with rfl | (⟨_, -, rfl⟩ | ⟨_, -, rfl⟩) | ⟨_, -, rfl | ⟨_, -, rfl⟩ | ⟨_, -, rfl⟩⟩ <;> rfl

/-- A program with distinct names declares no path twice. -/
theorem Program.Distinct.nodup_paths {program : Program} (h : program.Distinct) :
    program.paths.Nodup := by
  have haccounts : (program.accounts.map (NodePath.account program.name ·.name)).Nodup :=
    nodup_map_name (fun _ _ heq => (NodePath.account.inj heq).2) h.accounts
  have htypes : (program.definedTypes.map (NodePath.definedType program.name ·.name)).Nodup :=
    nodup_map_name (fun _ _ heq => (NodePath.definedType.inj heq).2) h.definedTypes
  have hinstructions : (program.instructions.flatMap (·.paths program.name)).Nodup :=
    nodup_flatMap_name (fun _ _ _ => Instruction.through_name)
      (fun i hi => (h.inputs i hi).nodup_paths program.name) h.instructions
  -- the parts are told apart by the kinds of what they select
  refine List.nodup_append.mpr ⟨List.nodup_append.mpr ⟨List.nodup_cons.mpr ⟨?_, haccounts⟩,
    htypes, ?_⟩, hinstructions, ?_⟩
  · simp
  · simp
  · rintro _ hmem _ hmem' rfl
    obtain ⟨instruction, -, hpath⟩ := List.mem_flatMap.mp hmem'
    simp only [List.mem_append, List.mem_cons, List.mem_map] at hmem
    rcases hmem with (rfl | ⟨_, -, rfl⟩) | ⟨_, -, rfl⟩ <;> simp [Instruction.paths] at hpath

/-- A tree with distinct names declares no path twice. -/
theorem Tree.Distinct.nodup_paths {tree : Tree} (hd : tree.Distinct) : tree.paths.Nodup := by
  have hshared : (tree.sharedTypes.map (NodePath.sharedType ·.name)).Nodup :=
    nodup_map_name (fun _ _ => NodePath.sharedType.inj) hd.sharedTypes
  have hprograms : (tree.programs.flatMap (·.paths)).Nodup :=
    nodup_flatMap_name (fun _ _ _ => Program.through_name)
      (fun program hmem => (hd.members program hmem).nodup_paths) hd.programs
  refine List.nodup_append.mpr ⟨hshared, hprograms, ?_⟩
  -- a shared type is in no program
  rintro _ hmem _ hmem' rfl
  obtain ⟨defined, -, rfl⟩ := List.mem_map.mp hmem
  obtain ⟨program, -, hpath⟩ := List.mem_flatMap.mp hmem'
  exact nomatch Program.through_name hpath

/-- A list without repetitions is left as it is. -/
theorem eraseDups_of_nodup {α : Type} [DecidableEq α] {l : List α} (h : l.Nodup) :
    l.eraseDups = l := by
  induction l with
  | nil => rfl
  | cons a l ih =>
      obtain ⟨hnew, hl⟩ := List.nodup_cons.mp h
      have hkept : l.filter (fun b => !b == a) = l := by
        refine List.filter_eq_self.mpr fun b hb => ?_
        simpa using ne_of_mem_of_not_mem hb hnew
      rw [List.eraseDups_cons, hkept, ih hl]

/-- **AS MANY PATHS AS NODES**: where names are distinct per scope, the index of a tree knows a
    path for each of its nodes. -/
theorem Index.size_eq_nodeCount {tree : Tree} (hd : tree.Distinct) :
    (Index.of tree).size = tree.nodeCount := by
  show (tree.entries.map (·.path)).eraseDups.length = _
  rw [tree.map_path_entries, eraseDups_of_nodup hd.nodup_paths, tree.length_paths]

end Bindery
