import Bindery.Proofs.CamelCase
import Bindery.Proofs.Defaults.Run
import Bindery.Proofs.Interchange.Nodes

/-! # Links of values — where defaults in a document lead

    A default value refers by name to the recipe of an account and to inputs of its
    instruction.  A reference is in plain camel case, the node that it is to in the
    compact one.  So the references of a node lead if and only if each has a node of
    the right kind that is cased compactly like it (`Document.values_lead`).  Those to
    names that both camel cases treat alike do, since the defaults of a reachable tree
    are sound; others dangle, as those to names that start with an acronym
    (`exists_dangling_value`). -/

namespace Bindery

/-! ## References of a tree -/

/-- The accounts whose addresses a default derives. -/
def DefaultValue.owners : DefaultValue → List String
  | .pda owner _ => [owner]
  | .account _ | .argument _ | .absent | .programId | .literal _ => []

/-- The accounts whose addresses the defaults of an instruction derive. -/
def Instruction.owners (instruction : Instruction) : List String :=
  instruction.defaults.flatMap DefaultValue.owners

/-- The inputs that the defaults of an instruction read. -/
def Instruction.reads (instruction : Instruction) : List Input :=
  instruction.defaults.flatMap DefaultValue.reads

/-- The names that the defaults of a program refer to. -/
def Program.defaultNames (program : Program) : List String :=
  program.instructions.flatMap fun instruction =>
    instruction.owners ++ instruction.reads.map Input.name

/-- An instruction has an input that is cased compactly like another is plainly. -/
def Instruction.Meets (instruction : Instruction) : Input → Prop
  | .account name => ∃ account ∈ instruction.accounts,
      Text.compactCamelCase account.name = Text.camelCase name
  | .argument name => ∃ argument ∈ instruction.arguments,
      Text.compactCamelCase argument.name = Text.camelCase name

/-- A program has an account with a recipe that is cased compactly like another is plainly. -/
def Program.MeetsOwner (program : Program) (owner : String) : Prop :=
  ∃ account ∈ program.accounts, account.seeds.isSome = true
    ∧ Text.compactCamelCase account.name = Text.camelCase owner

/-- Every reference of a program's defaults is met. -/
structure Program.MeetsDefaults (program : Program) : Prop where
  owners : ∀ instruction ∈ program.instructions, ∀ owner ∈ instruction.owners,
    program.MeetsOwner owner
  inputs : ∀ instruction ∈ program.instructions, ∀ input ∈ instruction.reads,
    instruction.Meets input

/-- An input that is taken is met if both camel cases treat its name alike. -/
theorem Instruction.meets_of_takes {instruction : Instruction} {input : Input}
    (h : instruction.takes input = true)
    (hcased : Text.camelCase input.name = Text.compactCamelCase input.name) :
    instruction.Meets input := by
  cases input with
  | account name =>
      obtain ⟨account, haccount⟩ := Option.isSome_iff_exists.mp h
      obtain rfl : account.name = name := name_of_find? haccount
      exact ⟨account, List.mem_of_find?_eq_some haccount, hcased.symm⟩
  | argument name =>
      obtain ⟨argument, hargument⟩ := Option.isSome_iff_exists.mp h
      obtain rfl : argument.name = name := name_of_find? hargument
      exact ⟨argument, List.mem_of_find?_eq_some hargument, hcased.symm⟩

section Sound

variable {program : Program} {instruction : Instruction} {target : InputTarget}
  {value : DefaultValue}

/-- A sound default derives addresses of accounts with recipes. -/
theorem DefaultValue.Sound.hasRecipe (h : value.Sound program instruction target) :
    ∀ owner ∈ value.owners, program.HasRecipe owner := by
  cases value with
  | pda owner seeds => exact List.forall_mem_singleton.mpr h.2.1
  | account | argument | absent | programId | literal => exact List.forall_mem_nil _

/-- A default of an instruction is sound at some input. -/
theorem Instruction.DefaultsSound.exists_sound (h : instruction.DefaultsSound program)
    (hvalue : value ∈ instruction.defaults) :
    ∃ target, value.Sound program instruction target := by
  rcases List.mem_append.mp hvalue with hvalue | hvalue
  · obtain ⟨a, ha, hvalue⟩ := List.mem_filterMap.mp hvalue
    exact ⟨_, h.accounts a ha value hvalue⟩
  · obtain ⟨a, ha, hvalue⟩ := List.mem_filterMap.mp hvalue
    exact ⟨_, h.arguments a ha value hvalue⟩

/-- **SOUND DEFAULTS ARE MET**: references of sound defaults are met if both camel cases treat the
    names that they are to alike. -/
theorem Program.DefaultsSound.meetsDefaults (h : program.DefaultsSound)
    (hcased : ∀ name ∈ program.defaultNames, Text.camelCase name = Text.compactCamelCase name) :
    program.MeetsDefaults := by
  constructor
  · intro instruction hinstruction owner howner
    obtain ⟨value, hvalue, howner'⟩ := List.mem_flatMap.mp howner
    obtain ⟨target, hsound⟩ := (h instruction hinstruction).exists_sound hvalue
    obtain ⟨account, haccount, rfl, hseeds⟩ := hsound.hasRecipe owner howner'
    refine ⟨account, haccount, hseeds, (hcased _ ?_).symm⟩
    exact List.mem_flatMap.mpr ⟨instruction, hinstruction, List.mem_append_left _ howner⟩
  · intro instruction hinstruction input hinput
    obtain ⟨value, hvalue, hinput'⟩ := List.mem_flatMap.mp hinput
    obtain ⟨target, hsound⟩ := (h instruction hinstruction).exists_sound hvalue
    refine Instruction.meets_of_takes (hsound.takes input hinput') (hcased _ ?_)
    exact List.mem_flatMap.mpr
      ⟨instruction, hinstruction, List.mem_append_right _ (List.mem_map_of_mem hinput)⟩

end Sound

namespace Interchange

/-! ## References of a node -/

/-- The recipes that a value is derived by. -/
def InputValue.recipes : InputValue → List String
  | .derived recipe _ => [recipe]
  | .input _ | .none | .programId | .literal _ | .some _ => []

/-- The inputs that a value is taken from. -/
def InputValue.links : InputValue → List InputLink
  | .derived _ seeds => seeds.map (·.2)
  | .input link => [link]
  | .none | .programId | .literal _ | .some _ => []

/-- The values of the inputs of an instruction, accounts first. -/
def InstructionNode.values (instruction : InstructionNode) : List InputValue :=
  instruction.accounts.filterMap (·.defaultValue)
    ++ instruction.arguments.filterMap (·.defaultValue)

/-- The nodes of the inputs of an instruction by kind and name, accounts first. -/
def InstructionNode.inputs (instruction : InstructionNode) : List (String × String) :=
  instruction.accounts.map (fun a => ("instructionAccountNode", a.name))
    ++ instruction.arguments.map (fun a => ("instructionArgumentNode", a.name))

/-- Every value of a node leads: to recipes of the node, and to inputs of its instruction. -/
structure ProgramNode.ValuesLead (node : ProgramNode) : Prop where
  recipes : node.encode.Leads "pdaLinkNode" "pdaNode"
  inputs : ∀ instruction ∈ node.instructions,
    instruction.encode.Leads "accountValueNode" "instructionAccountNode"
      ∧ instruction.encode.Leads "argumentValueNode" "instructionArgumentNode"

section Nodes

variable {name : String}

/-- A value links to the recipe that it is derived by. -/
theorem InputValue.mem_recipes_iff (value : InputValue) :
    ("pdaLinkNode", name) ∈ value.encode.namedNodes ↔ name ∈ value.recipes := by
  cases value with
  | derived recipe seeds =>
      rw [namedNodes_derived, List.mem_cons, or_iff_left]
      · simp [recipes]
      · -- what seeds are given is named by kinds of other nodes
        intro hmem
        obtain ⟨⟨seed, link⟩, -, hmem⟩ := List.mem_flatMap.mp hmem
        cases link <;> simp [InputLink.named] at hmem
  | input link => cases link <;> simp [encode, InputLink.named, recipes]
  | literal literal => simp [encode, recipes]
  | some literal => simp [encode, namedNodes_nameless, recipes]
  | none | programId =>
      exact ⟨fun h => absurd h List.not_mem_nil, fun h => absurd h List.not_mem_nil⟩

/-- A link to an input is told by its named node. -/
theorem InputLink.named_inj {link link' : InputLink} : link.named = link'.named ↔ link = link' := by
  cases link <;> cases link' <;> simp [named]

/-- A value links to the inputs that it is taken from. -/
theorem InputValue.mem_links_iff (value : InputValue) (link : InputLink) :
    link.named ∈ value.encode.namedNodes ↔ link ∈ value.links := by
  cases value with
  | derived recipe seeds =>
      have hrecipe : link.named ≠ ("pdaLinkNode", recipe) := by
        cases link <;> simp [InputLink.named]
      have hseed : ∀ seed, link.named ≠ ("pdaSeedValueNode", seed) := by
        cases link <;> simp [InputLink.named]
      rw [namedNodes_derived, List.mem_cons, or_iff_right hrecipe]
      simp [links, hseed, InputLink.named_inj]
  | input target => simp [encode, links, InputLink.named_inj]
  | literal literal => simp [encode, links]
  | some literal => simp [encode, namedNodes_nameless, links]
  | none | programId =>
      exact ⟨fun h => absurd h List.not_mem_nil, fun h => absurd h List.not_mem_nil⟩

/-- Links of values are told apart from all other named nodes by their kinds. -/
theorem InputValue.kinds_apart : ∀ kind ∈ kinds, kind ∉ NodeType.kinds
    ∧ kind ∉ ["instructionNode", "instructionAccountNode", "instructionArgumentNode", "programNode",
      "accountNode", "definedTypeNode", "pdaNode", "variablePdaSeedNode", "errorNode"] := by
  decide

/-- The links of an instruction to names are those of its values. -/
theorem InstructionNode.mem_values_iff {kind : String} (hkind : kind ∈ InputValue.kinds)
    (instruction : InstructionNode) :
    (kind, name) ∈ instruction.encode.namedNodes
      ↔ ∃ value ∈ instruction.values, (kind, name) ∈ value.encode.namedNodes := by
  obtain ⟨hkinds, hown⟩ := InputValue.kinds_apart kind hkind
  have htype : ∀ type : NodeType, (kind, name) ∉ type.encode.namedNodes :=
    NodeType.not_mem_encode hkinds
  simp only [List.mem_cons, not_or] at hown
  simp only [namedNodes_encode, InstructionAccountNode.namedNodes_encode,
    InstructionArgumentNode.namedNodes_encode, values, List.mem_cons, List.mem_append,
    List.mem_flatMap, List.mem_filterMap, Option.mem_toList, htype, Prod.mk.injEq, hown,
    false_and, false_or]
  constructor
  · rintro (⟨a, ha, value, hvalue, hmem⟩ | ⟨a, ha, value, hvalue, hmem⟩)
    · exact ⟨value, .inl ⟨a, ha, hvalue⟩, hmem⟩
    · exact ⟨value, .inr ⟨a, ha, hvalue⟩, hmem⟩
  · rintro ⟨value, ⟨a, ha, hvalue⟩ | ⟨a, ha, hvalue⟩, hmem⟩
    · exact .inl ⟨a, ha, value, hvalue, hmem⟩
    · exact .inr ⟨a, ha, value, hvalue, hmem⟩

/-- The inputs of an instruction are all that are named so. -/
theorem InstructionNode.mem_inputs_iff {kind : String}
    (hkind : kind = "instructionAccountNode" ∨ kind = "instructionArgumentNode")
    (instruction : InstructionNode) :
    (kind, name) ∈ instruction.encode.namedNodes ↔ (kind, name) ∈ instruction.inputs := by
  have hkinds : kind ∉ NodeType.kinds ∧ kind ∉ InputValue.kinds ∧ kind ≠ "instructionNode" := by
    rcases hkind with rfl | rfl <;> decide
  obtain ⟨htypes, hvalues, hown⟩ := hkinds
  have htype : ∀ type : NodeType, (kind, name) ∉ type.encode.namedNodes :=
    NodeType.not_mem_encode htypes
  have hvalue : ∀ value : InputValue, (kind, name) ∉ value.encode.namedNodes :=
    InputValue.not_mem_encode hvalues
  simp only [namedNodes_encode, InstructionAccountNode.namedNodes_encode,
    InstructionArgumentNode.namedNodes_encode, inputs, List.mem_cons, List.mem_append,
    List.mem_flatMap, List.mem_map, Prod.mk.injEq, htype, hvalue, hown, and_false, false_and,
    exists_false, false_or, or_false]
  simp only [eq_comm]

/-- The recipes of a node are all that are named so, -/
theorem ProgramNode.mem_recipes_iff (node : ProgramNode) :
    ("pdaNode", name) ∈ node.encode.namedNodes ↔ name ∈ node.recipes.map (·.name) := by
  have htype : ∀ type : NodeType, ("pdaNode", name) ∉ type.encode.namedNodes :=
    NodeType.not_mem_encode (by decide)
  have haccount : ∀ account : AccountNode, ("pdaNode", name) ∉ account.encode.namedNodes :=
    AccountNode.not_mem_encode (by decide)
  have hvalue : ∀ value : InputValue, ("pdaNode", name) ∉ value.encode.namedNodes :=
    InputValue.not_mem_encode (by decide)
  have hseed : ∀ seed : SeedNode, ("pdaNode", name) ∉ seed.encode.namedNodes :=
    SeedNode.not_mem_encode (by decide)
  simp only [namedNodes_encode, InstructionNode.namedNodes_encode,
    InstructionAccountNode.namedNodes_encode, InstructionArgumentNode.namedNodes_encode,
    DefinedTypeNode.namedNodes_encode, RecipeNode.namedNodes_encode, List.mem_cons,
    List.mem_append, List.mem_flatMap, List.mem_map, htype, haccount, hvalue, hseed]
  simp [eq_comm]

/-- and links to recipes are in values of instructions only. -/
theorem ProgramNode.mem_values_iff (node : ProgramNode) :
    ("pdaLinkNode", name) ∈ node.encode.namedNodes
      ↔ ∃ instruction ∈ node.instructions,
          ("pdaLinkNode", name) ∈ instruction.encode.namedNodes := by
  have htype : ∀ type : NodeType, ("pdaLinkNode", name) ∉ type.encode.namedNodes :=
    NodeType.not_mem_encode (by decide)
  have haccount : ∀ account : AccountNode, ("pdaLinkNode", name) ∉ account.encode.namedNodes :=
    AccountNode.not_mem_encode (by decide)
  have hseed : ∀ seed : SeedNode, ("pdaLinkNode", name) ∉ seed.encode.namedNodes :=
    SeedNode.not_mem_encode (by decide)
  simp only [namedNodes_encode, DefinedTypeNode.namedNodes_encode, RecipeNode.namedNodes_encode,
    List.mem_cons, List.mem_append, List.mem_flatMap, List.mem_map, htype, haccount, hseed]
  simp

end Nodes

/-! ## References that are lowered -/

/-- A value refers to what a default does, in camel case. -/
structure InputValue.Refers (value : DefaultValue) (made : InputValue) : Prop where
  recipes : made.recipes = value.owners.map Text.camelCase
  links : made.links = value.reads.map InputLink.of

/-- A lowered default refers to what the default does. -/
theorem InputValue.refers_of {wraps : Bool} {context : String} {value : DefaultValue}
    {made : InputValue} (h : InputValue.of wraps context value = .ok made) :
    InputValue.Refers value made := by
  cases value with
  | pda owner seeds =>
      obtain ⟨-, h⟩ := check_eq_ok.mp h
      rw [← Except.ok.inj h]
      refine ⟨rfl, ?_⟩
      show (seeds.map _).map _ = (seeds.map _).map _
      rw [List.map_map, List.map_map]
      rfl
  | account name | argument name | programId =>
      obtain ⟨-, h⟩ := check_eq_ok.mp h
      rw [← Except.ok.inj h]
      exact ⟨rfl, rfl⟩
  | absent =>
      rw [← Except.ok.inj h]
      exact ⟨rfl, rfl⟩
  | literal value =>
      rw [← Except.ok.inj h]
      cases wraps <;> exact ⟨rfl, rfl⟩

/-- A default that may be missing is lowered to a value that may be. -/
theorem rel_of_mapM_eq_ok {wraps : Bool} {context : String} {value : Option DefaultValue}
    {made : Option InputValue} (h : value.mapM (InputValue.of wraps context) = .ok made) :
    Option.Rel InputValue.Refers value made := by
  cases value with
  | none =>
      rw [← Except.ok.inj h]
      exact .none
  | some value =>
      obtain ⟨inner, hinner, h⟩ := bind_eq_ok.mp h
      rw [← pure_eq_ok.mp h]
      exact .some (InputValue.refers_of hinner)

section Instruction

variable {instruction : Instruction} {node : InstructionNode} {name : String}

/-- The values of an instruction refer, one by one, to what its defaults do. -/
theorem InstructionNode.refers_values (h : InstructionNode.of instruction = .ok node) :
    List.Forall₂ InputValue.Refers instruction.defaults node.values := by
  obtain ⟨accounts, haccounts, h⟩ := bind_eq_ok.mp h
  obtain ⟨arguments, harguments, h⟩ := bind_eq_ok.mp h
  rw [← pure_eq_ok.mp h]
  refine List.rel_append (List.rel_filterMap ?_ (forall₂_of_mapM_eq_ok haccounts))
    (List.rel_filterMap ?_ (forall₂_of_mapM_eq_ok harguments))
  · intro account made hmade
    obtain ⟨value, hvalue, hmade⟩ := bind_eq_ok.mp hmade
    rw [← pure_eq_ok.mp hmade]
    exact rel_of_mapM_eq_ok hvalue
  · intro argument made hmade
    obtain ⟨type, -, hmade⟩ := bind_eq_ok.mp hmade
    obtain ⟨value, hvalue, hmade⟩ := bind_eq_ok.mp hmade
    rw [← pure_eq_ok.mp hmade]
    exact rel_of_mapM_eq_ok hvalue

/-- The links of an instruction to recipes are to those of the owners that its defaults name. -/
theorem InstructionNode.mem_owners_iff (h : InstructionNode.of instruction = .ok node) :
    ("pdaLinkNode", name) ∈ node.encode.namedNodes
      ↔ name ∈ instruction.owners.map Text.camelCase := by
  have howners : node.values.flatMap InputValue.recipes
      = instruction.owners.map Text.camelCase := by
    rw [Instruction.owners, List.map_flatMap]
    exact (flatMap_eq_of_forall₂
      ((refers_values h).imp fun _ _ hrefers => hrefers.recipes.symm)).symm
  rw [node.mem_values_iff (by decide), ← howners, List.mem_flatMap]
  simp only [InputValue.mem_recipes_iff]

/-- The links of an instruction to inputs are to those that its defaults read. -/
theorem InstructionNode.mem_reads_iff (h : InstructionNode.of instruction = .ok node)
    (link : InputLink) :
    link.named ∈ node.encode.namedNodes ↔ link ∈ instruction.reads.map InputLink.of := by
  have hreads : node.values.flatMap InputValue.links = instruction.reads.map InputLink.of := by
    rw [Instruction.reads, List.map_flatMap]
    exact (flatMap_eq_of_forall₂ ((refers_values h).imp fun _ _ hrefers => hrefers.links.symm)).symm
  have hvalues : link.named ∈ node.encode.namedNodes
      ↔ ∃ value ∈ node.values, link.named ∈ value.encode.namedNodes :=
    node.mem_values_iff link.kind_mem
  rw [← hreads, List.mem_flatMap]
  simp only [← InputValue.mem_links_iff]
  exact hvalues

/-- Inputs keep their names, in compact camel case. -/
theorem InstructionNode.inputs_of (h : InstructionNode.of instruction = .ok node) :
    node.inputs
      = instruction.accounts.map (("instructionAccountNode", Text.compactCamelCase ·.name))
        ++ instruction.arguments.map
          (("instructionArgumentNode", Text.compactCamelCase ·.name)) := by
  obtain ⟨accounts, haccounts, h⟩ := bind_eq_ok.mp h
  obtain ⟨arguments, harguments, h⟩ := bind_eq_ok.mp h
  rw [← pure_eq_ok.mp h]
  refine congrArg₂ (· ++ ·) (map_eq_map_iff_forall₂.mpr ?_).symm
    (map_eq_map_iff_forall₂.mpr ?_).symm
  · refine (forall₂_of_mapM_eq_ok haccounts).imp fun account made hmade => ?_
    obtain ⟨value, -, hmade⟩ := bind_eq_ok.mp hmade
    rw [← pure_eq_ok.mp hmade]
  · refine (forall₂_of_mapM_eq_ok harguments).imp fun argument made hmade => ?_
    obtain ⟨type, -, hmade⟩ := bind_eq_ok.mp hmade
    obtain ⟨value, -, hmade⟩ := bind_eq_ok.mp hmade
    rw [← pure_eq_ok.mp hmade]

/-- **INPUTS BY NAME**: the links of an instruction to inputs lead if and only if each input that a
    default reads is met. -/
theorem InstructionNode.leads_iff (h : InstructionNode.of instruction = .ok node) :
    (node.encode.Leads "accountValueNode" "instructionAccountNode"
        ∧ node.encode.Leads "argumentValueNode" "instructionArgumentNode")
      ↔ ∀ input ∈ instruction.reads, instruction.Meets input := by
  have haccount : ∀ name, ("instructionAccountNode", Text.camelCase name) ∈ node.encode.namedNodes
      ↔ instruction.Meets (.account name) := fun name => by
    rw [node.mem_inputs_iff (.inl rfl), inputs_of h]
    simp [Instruction.Meets]
  have hargument : ∀ name, ("instructionArgumentNode", Text.camelCase name) ∈ node.encode.namedNodes
      ↔ instruction.Meets (.argument name) := fun name => by
    rw [node.mem_inputs_iff (.inr rfl), inputs_of h]
    simp [Instruction.Meets]
  constructor
  · rintro ⟨hleads, hleads'⟩ input hinput
    have hlink := (mem_reads_iff h (.of input)).mpr (List.mem_map_of_mem hinput)
    cases input with
    | account name => exact (haccount name).mp (hleads _ hlink)
    | argument name => exact (hargument name).mp (hleads' _ hlink)
  · -- a link comes from an input that is read, which is of the kind of the link
    intro hmeets
    constructor
    · intro name hlink
      obtain ⟨input, hinput, hof⟩ := List.mem_map.mp ((mem_reads_iff h (.account name)).mp hlink)
      cases input with
      | account own =>
          rw [← InputLink.account.inj hof]
          exact (haccount own).mpr (hmeets _ hinput)
      | argument own => exact nomatch hof
    · intro name hlink
      obtain ⟨input, hinput, hof⟩ := List.mem_map.mp ((mem_reads_iff h (.argument name)).mp hlink)
      cases input with
      | account own => exact nomatch hof
      | argument own =>
          rw [← InputLink.argument.inj hof]
          exact (hargument own).mpr (hmeets _ hinput)

end Instruction

/-! ## Links of a document -/

section Program

variable {program : Program} {shared : List DefinedType} {node : ProgramNode}

/-- The recipe of an account with one is named like the account, in compact camel case. -/
theorem RecipeNode.names_of {account : Account} {recipe : Option RecipeNode}
    (h : RecipeNode.of account = .ok recipe) :
    recipe.toList.map (·.name)
      = if account.seeds.isSome then [Text.compactCamelCase account.name] else [] := by
  unfold RecipeNode.of at h
  cases hseeds : account.seeds with
  | none =>
      rw [hseeds] at h
      rw [← Except.ok.inj h]
      rfl
  | some seeds =>
      rw [hseeds] at h
      obtain ⟨made, hmade, h⟩ := bind_eq_ok.mp h
      obtain ⟨nodes, -, hmade⟩ := bind_eq_ok.mp hmade
      rw [← pure_eq_ok.mp h, ← pure_eq_ok.mp hmade]
      rfl

/-- The recipes of a node are those of the accounts that have one, in compact camel case. -/
theorem ProgramNode.Lowers.mem_recipeNames_iff (h : node.Lowers program shared) {name : String} :
    name ∈ node.recipes.map (·.name)
      ↔ ∃ account ∈ program.accounts, account.seeds.isSome = true
          ∧ Text.compactCamelCase account.name = name := by
  obtain ⟨found, hfound, hrecipes⟩ := h.recipes
  have hmap : node.recipes.map (·.name) = program.accounts.flatMap fun account =>
      if account.seeds.isSome then [Text.compactCamelCase account.name] else [] := by
    rw [hrecipes, List.map_flatMap]
    exact (flatMap_eq_of_forall₂
      (hfound.imp fun _ _ hrecipe => (RecipeNode.names_of hrecipe).symm)).symm
  rw [hmap, List.mem_flatMap]
  refine exists_congr fun account => and_congr_right fun _ => ?_
  split
  · next hseeds => rw [List.mem_singleton, and_iff_right hseeds, eq_comm]
  · next hseeds =>
      exact ⟨fun hmem => absurd hmem List.not_mem_nil, fun hmem => absurd hmem.1 hseeds⟩

/-- The values of a node lead if and only if the references of its program's defaults are met. -/
theorem ProgramNode.Lowers.valuesLead_iff (h : node.Lowers program shared) :
    node.ValuesLead ↔ program.MeetsDefaults := by
  have howner : ∀ owner, ("pdaNode", Text.camelCase owner) ∈ node.encode.namedNodes
      ↔ program.MeetsOwner owner := fun owner => by
    rw [node.mem_recipes_iff, h.mem_recipeNames_iff]
    rfl
  constructor
  · rintro ⟨hrecipes, hinputs⟩
    refine ⟨fun instruction hinstruction owner hmem => ?_, fun instruction hinstruction => ?_⟩
    · obtain ⟨made, hmade, hof⟩ := exists_of_forall₂_left h.instructions hinstruction
      refine (howner owner).mp (hrecipes _ (node.mem_values_iff.mpr ⟨made, hmade, ?_⟩))
      exact (InstructionNode.mem_owners_iff hof).mpr (List.mem_map_of_mem hmem)
    · obtain ⟨made, hmade, hof⟩ := exists_of_forall₂_left h.instructions hinstruction
      exact (InstructionNode.leads_iff hof).mp (hinputs made hmade)
  · rintro ⟨howners, hinputs⟩
    refine ⟨fun name hlink => ?_, fun made hmade => ?_⟩
    · obtain ⟨made, hmade, hlink⟩ := node.mem_values_iff.mp hlink
      obtain ⟨instruction, hinstruction, hof⟩ := exists_of_forall₂_right h.instructions hmade
      obtain ⟨owner, hmem, rfl⟩ := List.mem_map.mp ((InstructionNode.mem_owners_iff hof).mp hlink)
      exact (howner owner).mpr (howners instruction hinstruction owner hmem)
    · obtain ⟨instruction, hinstruction, hof⟩ := exists_of_forall₂_right h.instructions hmade
      exact (InstructionNode.leads_iff hof).mpr (hinputs instruction hinstruction)

end Program

/-- Every program of a tree has its node in the document of the tree. -/
theorem Document.lowers_of {tree : Tree} {document : Document}
    (h : Document.of tree = .ok document) :
    List.Forall₂ (fun program node => ∃ shared, node.Lowers program shared)
      tree.programs (document.program :: document.additional) := by
  obtain ⟨primary, others, hprograms, hprimary, hothers⟩ := Document.of_eq_ok h
  rw [hprograms]
  exact .cons ⟨_, hprimary⟩ (hothers.imp fun _ _ hlowers => ⟨[], hlowers⟩)

/-- **DEFAULTS BY NAME**: in the document of a reachable tree the values of a program lead, to
    recipes of its node and to inputs of their instructions, if and only if the references of its
    defaults are met; and they do where both camel cases treat the names that the defaults refer to
    alike. -/
theorem Document.values_lead {tree : Tree} {document : Document} (hr : tree.Reachable)
    (h : Document.of tree = .ok document) :
    List.Forall₂ (fun program node => (node.ValuesLead ↔ program.MeetsDefaults)
        ∧ ((∀ name ∈ program.defaultNames, Text.camelCase name = Text.compactCamelCase name) →
            node.ValuesLead))
      tree.programs (document.program :: document.additional) := by
  have hsound := (List.forall₂_and_left _ _).mpr ⟨hr.defaultsSound, lowers_of h⟩
  refine hsound.imp fun program node => ?_
  rintro ⟨hprogram, shared, hlowers⟩
  exact ⟨hlowers.valuesLead_iff, fun hcased =>
    hlowers.valuesLead_iff.mpr (hprogram.meetsDefaults hcased)⟩

/-- A recipe for the vault of the bank, its address as a default, and a key for the guest. -/
def bankValues : List NamedOperation := [
  ⟨"seeds", .setSeeds ⟨.account "bank" "Vault", [.variable ⟨"payer", .publicKey, []⟩]⟩⟩,
  ⟨"defaults", .setDefaults ⟨[
    ⟨.instructionAccount "bank" "open" "vault", .pda "Vault" []⟩,
    ⟨.instructionAccount "bank" "open" "guest", .argument "payer"⟩]⟩⟩]

theorem Document.values_lead_bank : ∃ tree document, tree.Reachable
    ∧ Document.of tree = .ok document
    ∧ (∀ program ∈ tree.programs, program.defaultNames = ["Vault", "payer", "payer"]
        ∧ ∀ name ∈ program.defaultNames, Text.camelCase name = Text.compactCamelCase name)
    ∧ ∀ node ∈ document.program :: document.additional, node.ValuesLead := by
  obtain ⟨stages, hrun, hstages⟩ : ∃ stages,
      Pipeline.runDocuments [bank] bankValues = .ok stages
        ∧ (stages.any fun stage => (Document.of stage.tree).toOption.isSome
            && stage.tree.programs.all fun program =>
              decide (program.defaultNames = ["Vault", "payer", "payer"])) = true :=
    runDocuments_bank (by decide +kernel)
  obtain ⟨stage, hmem, hstage⟩ := List.any_eq_true.mp hstages
  obtain ⟨hdocument, hnames⟩ := Bool.and_eq_true_iff.mp hstage
  obtain ⟨document, hdocument⟩ := exists_ok_of_isSome hdocument
  have hr := reachable_of_runDocuments hrun stage hmem
  have halike : ∀ name ∈ ["Vault", "payer", "payer"], Text.CutsAlike name := by decide
  have hcased : ∀ program ∈ stage.tree.programs, program.defaultNames = ["Vault", "payer", "payer"]
      ∧ ∀ name ∈ program.defaultNames, Text.camelCase name = Text.compactCamelCase name := by
    intro program hprogram
    have hdefaults := of_decide_eq_true (List.all_eq_true.mp hnames program hprogram)
    refine ⟨hdefaults, fun name hname => ?_⟩
    exact Text.camelCase_eq_compactCamelCase (halike name (hdefaults ▸ hname))
  refine ⟨stage.tree, document, hr, hdocument, hcased, fun node hnode => ?_⟩
  obtain ⟨program, hprogram, -, hlead⟩ :=
    exists_of_forall₂_right (Document.values_lead hr hdocument) hnode
  exact hlead (hcased program hprogram).2

/-- New names for the vault, the payer and the key that start with an acronym. -/
def acronyms : NamedOperation :=
  ⟨"names", .rename ⟨SortedMap.ofList [
    (.account "bank" "Vault", "NFTVault"),
    (.instructionAccount "bank" "open" "payer", "NFTPayer"),
    (.instructionArgument "bank" "open" "payer", "NFTKey")]⟩⟩

/-- **A VALUE THAT LEADS NOWHERE**: a reachable tree whose document has links to a recipe, to an
    account and to an argument, each cased in one way where it is named and in another where it is
    referred to. -/
theorem exists_dangling_value : ∃ tree document instruction, tree.Reachable
    ∧ Document.of tree = .ok document ∧ instruction ∈ document.program.instructions
    ∧ (("pdaLinkNode", "nftVault") ∈ document.program.encode.namedNodes
        ∧ ("pdaNode", "nftVault") ∉ document.program.encode.namedNodes)
    ∧ (("accountValueNode", "nftPayer") ∈ instruction.encode.namedNodes
        ∧ ("instructionAccountNode", "nftPayer") ∉ instruction.encode.namedNodes)
    ∧ (("argumentValueNode", "nftKey") ∈ instruction.encode.namedNodes
        ∧ ("instructionArgumentNode", "nftKey") ∉ instruction.encode.namedNodes) := by
  obtain ⟨stages, hrun, hstages⟩ : ∃ stages,
      Pipeline.runDocuments [bank] (bankValues ++ [acronyms]) = .ok stages
        ∧ (stages.any fun stage => (Document.of stage.tree).toOption.any fun document =>
          document.program.instructions.any fun instruction => decide (
            (("pdaLinkNode", "nftVault") ∈ document.program.encode.namedNodes
              ∧ ("pdaNode", "nftVault") ∉ document.program.encode.namedNodes)
            ∧ (("accountValueNode", "nftPayer") ∈ instruction.encode.namedNodes
              ∧ ("instructionAccountNode", "nftPayer") ∉ instruction.encode.namedNodes)
            ∧ (("argumentValueNode", "nftKey") ∈ instruction.encode.namedNodes
              ∧ ("instructionArgumentNode", "nftKey") ∉ instruction.encode.namedNodes))) = true :=
    runDocuments_bank (by decide +kernel)
  obtain ⟨stage, hmem, hstage⟩ := List.any_eq_true.mp hstages
  obtain ⟨document, hdocument, hdangles⟩ := exists_ok_of_any hstage
  obtain ⟨instruction, hinstruction, hdangles⟩ := List.any_eq_true.mp hdangles
  exact ⟨stage.tree, document, instruction, reachable_of_runDocuments hrun stage hmem, hdocument,
    hinstruction, of_decide_eq_true hdangles⟩

end Interchange

end Bindery
