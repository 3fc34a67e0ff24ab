import Bindery.Proofs.Templates
import Bindery.Proofs.Files.Output
import Bindery.Proofs.TypeLinks.Places

/-! # Derivations — a call and the function it calls

    A derived address is written twice into a crate: as a call, in the builder of
    an instruction, and as the function that is called, in the module of the
    account that the address is of.  The two are made in different modules, from
    the same recipe.  The function goes along its seeds and makes a parameter of
    every variable one; the call goes along the variable seeds and looks each up
    among the bindings of the default.

    `InStep` goes along the recipe once and has both at hand, so that it says of
    each seed what it comes to on either side.  That parameters and arguments are
    as many, in one order and passed alike is how it is put together, whatever
    constants stand in between and in whatever order the bindings are given
    (`derived_calls_inStep`). -/

namespace Bindery

/-- An input of an instruction has a default. -/
inductive Instruction.Defaults (instruction : Instruction) : Input → DefaultValue → Prop
  | account {a : InstructionAccount} {value : DefaultValue} (ha : a ∈ instruction.accounts)
      (hvalue : a.defaultValue = some value) : instruction.Defaults (.account a.name) value
  | argument {a : InstructionArgument} {value : DefaultValue} (ha : a ∈ instruction.arguments)
      (hvalue : a.defaultValue = some value) : instruction.Defaults (.argument a.name) value

/-- A seed is bound to an input: by the first binding of its name, and so by any if no seed is
    bound twice. -/
structure VariableSeed.BoundTo (seed : VariableSeed) (given : List SeedBinding) (input : Input) :
    Prop where
  first : boundInput? given seed = some input
  only : (given.map (·.seed)).Nodup → ∀ binding ∈ given, binding.seed = seed.name →
    binding.value = input

namespace Crate

open Code (block group list commas)

/-! ## The words of both -/

/-- The words of a call: the function of an account below the module of a program, the id of the
    program, and more arguments. -/
def findWords (mount : ModulePath) (id : ProgramId) (account : Name) (arguments : List Code) :
    Code :=
  modulePath mount id.program ++ ["::", "accounts", "::", account.text] ++ code ":: find_pda"
    ++ group (["&"] ++ id.words mount ++ [","] ++ commas arguments) ++ code ". 0"

/-- The words of the function: a parameter for the id of the program, more parameters, and the
    seeds in an array. -/
def finderWords (title : String) (parameters array : List Code) : Code :=
  docLine s!" Derive the address of a `{title}` account." ++ code "pub fn find_pda"
    ++ group (code "program_id : & solana_pubkey :: Pubkey ," ++ commas parameters)
    ++ code "-> ( solana_pubkey :: Pubkey , u8 )"
    ++ block (code "solana_pubkey :: Pubkey :: find_program_address"
      ++ group (["&"] ++ list (commas array) ++ code ", program_id"))

/-- A constant seed in the array: its bytes, or the id of the program. -/
def constantWords (value : ConstantSeed) : Code :=
  match value.bytes? with
  | some bytes => ["&", byteLiteral bytes] ++ list [".."]
  | none => code "program_id . as_ref ( )"

/-- A parameter. -/
def parameterWords (name : Name) (type : SeedType) : Code := [name.text, ":"] ++ type.words

/-- Whether a parameter takes a reference: its type is written as one. -/
def SeedType.isReference (type : SeedType) : Bool := type.words.head? = some "&"

/-- A local as it is passed to a parameter of a type: a reference to it where the parameter takes
    one, and else the local itself. -/
def SeedType.passed (type : SeedType) (name : Name) : Code :=
  if type.isReference then ["&", name.text] else [name.text]

/-- A call and its function, along a recipe.  A constant seed stands in the array and is no
    parameter.  A variable seed has a parameter of its name and type, the bytes of which stand in
    the array; the argument in the place of that parameter is the local of the input that the
    seed is bound to, passed as the type of the parameter asks for. -/
inductive InStep (nameOf : Input → Name) (given : List SeedBinding) (bound : List Input) :
    List Seed → (parameters arguments array : List Code) → Prop
  | nil : InStep nameOf given bound [] [] [] []
  | constant {value : ConstantSeed} {recipe : List Seed} {parameters arguments array : List Code}
      (rest : InStep nameOf given bound recipe parameters arguments array) :
      InStep nameOf given bound (.constant value :: recipe) parameters arguments
        (constantWords value :: array)
  | supplied {seed : VariableSeed} {context : String} {type : SeedType} {input : Input}
      {recipe : List Seed} {parameters arguments array : List Code}
      (htype : SeedType.of context seed.type = .ok type) (hinput : seed.BoundTo given input)
      (hbound : input ∈ bound)
      (rest : InStep nameOf given bound recipe parameters arguments array) :
      InStep nameOf given bound (.variable seed :: recipe)
        (parameterWords (Name.field seed.name) type :: parameters)
        (type.passed (nameOf input) :: arguments)
        ((SeedPart.parameter (Name.field seed.name) type).words :: array)

/-! ## In step -/

section InStep

variable {nameOf : Input → Name} {given : List SeedBinding} {bound : List Input}
  {recipe : List Seed} {parameters arguments array : List Code}

/-- There is one argument for each parameter. -/
theorem InStep.length_arguments
    (h : InStep nameOf given bound recipe parameters arguments array) :
    arguments.length = parameters.length := by
  induction h with
  | nil => rfl
  | constant _ ih => exact ih
  | supplied _ _ _ _ ih => exact congrArg Nat.succ ih

/-- All seeds are in the array. -/
theorem InStep.length_array (h : InStep nameOf given bound recipe parameters arguments array) :
    array.length = recipe.length := by
  induction h with
  | nil => rfl
  | constant _ ih => exact congrArg Nat.succ ih
  | supplied _ _ _ _ ih => exact congrArg Nat.succ ih

end InStep

/-- What is passed by value is what has a type that is no reference. -/
theorem SeedType.isReference_eq (type : SeedType) : type.isReference = !type.isByValue := by
  cases type with
  | number format => cases format <;> decide
  | _ => decide

/-- A seed is passed as the type of its parameter asks for. -/
theorem InstructionModule.seedArgument_eq {module : InstructionModule} {seed : VariableSeed}
    {input : Input} {context : String} {type : SeedType}
    (h : SeedType.of context seed.type = .ok type) :
    module.seedArgument seed input = type.passed (module.nameOf input) := by
  rw [SeedType.passed, SeedType.isReference_eq]
  cases htype : seed.type
  all_goals rw [htype] at h
  case number | boolean | publicKey | string | bytes | fixedSize =>
    rw [← Except.ok.inj h]
    simp only [seedArgument, htype]
    rfl
  all_goals cases h

end Crate

/-- The input that a lookup gives a seed is bound to it. -/
theorem VariableSeed.BoundTo.of_boundInput? {seed : VariableSeed} {given : List SeedBinding}
    {input : Input} (h : boundInput? given seed = some input) : seed.BoundTo given input := by
  refine ⟨h, fun hnames binding hmem hname => ?_⟩
  have hfound : given.find? (fun b => b.seed = seed.name) = some binding :=
    (find?_named_iff hnames).mpr ⟨hmem, hname⟩
  rw [boundInput?, hfound] at h
  exact Option.some.inj h

/-- A derived address of an account that is there has each of its variable seeds bound, in the
    order of the recipe. -/
theorem boundTo_of_derivation {program : Program} {context owner : String}
    {given : List SeedBinding} {account : Account} {expression : Expression}
    (haccount : program.account? owner = some account)
    (h : derivation program context owner given = .ok expression) :
    ∃ seeds, expression = .derived owner seeds
      ∧ List.Forall₂ (fun seed bound => bound.1 = seed ∧ seed.BoundTo given bound.2)
          account.seedInputs seeds := by
  obtain ⟨account', seeds, haccount', hexpression, hseeds⟩ := derivation_eq_ok.mp h
  obtain rfl := Option.some.inj (haccount.symm.trans haccount')
  exact ⟨seeds, hexpression, hseeds.imp fun _ _ => .imp_right .of_boundInput?⟩

namespace Crate

/-- What a call and its function make of a recipe is in step. -/
theorem inStep_of {module : InstructionModule} {given : List SeedBinding} {bound : List Input}
    {context : String} {recipe : List Seed} {parts : List SeedPart}
    {seeds : List (VariableSeed × Input)}
    (hparts : List.Forall₂ (fun seed part => SeedPart.of context seed = .ok part) recipe parts)
    (hseeds : List.Forall₂ (fun seed bound => bound.1 = seed ∧ seed.BoundTo given bound.2)
      (recipe.filterMap Seed.variable?) seeds)
    (hbound : ∀ input ∈ seeds.map (·.2), input ∈ bound) :
    InStep module.nameOf given bound recipe
      ((parameters parts).map fun (name, type) => parameterWords name type)
      (seeds.map fun (seed, input) => module.seedArgument seed input)
      (parts.map SeedPart.words) := by
  induction hparts generalizing seeds with
  | nil =>
      cases hseeds
      exact .nil
  | @cons seed part recipe parts hpart _ ih =>
      cases seed with
      | constant value =>
          cases value <;>
          · obtain rfl := Except.ok.inj hpart
            exact .constant (ih hseeds hbound)
      | «variable» seed =>
          obtain ⟨type, htype, hpart⟩ := bind_eq_ok.mp hpart
          obtain rfl := pure_eq_ok.mp hpart
          cases hseeds with
          | @cons _ pair _ seeds hpair hseeds =>
              obtain ⟨bound, input⟩ := pair
              obtain ⟨rfl, hinput⟩ := hpair
              obtain ⟨hfirst, hbound⟩ := List.forall_mem_cons.mp hbound
              have hstep := InStep.supplied htype hinput hfirst (ih hseeds hbound)
              rw [← InstructionModule.seedArgument_eq htype] at hstep
              exact hstep

end Crate

/-! ## The local of a default -/

/-- An input with a default is asked for as one. -/
theorem Instruction.Defaults.mem_defaulted {instruction : Instruction} {target : Input}
    {value : DefaultValue} (h : instruction.Defaults target value) :
    ⟨target, some value⟩ ∈ (Signature.of instruction).defaulted := by
  refine List.mem_map.mpr ⟨(.defaulted, ⟨target, some value⟩), List.mem_filter.mpr ⟨?_, rfl⟩, rfl⟩
  cases h with
  | @account a _ ha hvalue =>
      refine List.mem_append_left _ (List.mem_map.mpr ⟨a, ha, ?_⟩)
      rw [InstructionAccount.demand, hvalue]
      rfl
  | @argument a _ ha hvalue =>
      refine List.mem_append_right _ (List.mem_map.mpr ⟨a, ha, ?_⟩)
      rw [InstructionArgument.demand, hvalue]
      rfl

/-- Its local has an expression of the default, behind the locals that this reads. -/
theorem exists_local_of_default {program : Program} {instruction : Instruction} {context : String}
    {bindings : List Binding}
    (h : Bindery.bindings program (Signature.of instruction) context = .ok bindings)
    {target : Input} {value : DefaultValue} (hdefault : instruction.Defaults target value) :
    ∃ before expression behind place, bindings = before ++ ⟨target, .default expression⟩ :: behind
      ∧ Expression.of program place value = .ok expression
      ∧ ∀ input ∈ expression.reads, input ∈ before.map (·.input) := by
  obtain ⟨ordered, defaults, hbindings, hperm, hdefaults, hturn⟩ := bindings_eq_ok h
  obtain ⟨binding, hmem, hlocal⟩ :=
    exists_of_forall₂_left hdefaults (hperm.mem_iff.mpr hdefault.mem_defaulted)
  obtain ⟨_, place, expression, hinput, hvalue, hof, horigin⟩ := hlocal
  obtain ⟨input, origin⟩ := binding
  obtain rfl : target = input := hinput
  obtain rfl := Option.some.inj hvalue
  obtain rfl : origin = .default expression := horigin
  obtain ⟨before, behind, hsplit⟩ := List.append_of_mem (List.mem_append_right
    (Signature.of instruction).supplied hmem)
  rw [← hbindings] at hsplit
  refine ⟨before, expression, behind, place, hsplit, hof, fun input hread => ?_⟩
  exact (hturn.earlier hsplit hread).resolve_right List.not_mem_nil

/-! ## Among the words of a module -/

namespace Crate

/-- A derived address is written as a call. -/
theorem InstructionModule.expressionWords_derived {mount : ModulePath} {module : InstructionModule}
    {target : Input} {owner : String} {seeds : List (VariableSeed × Input)} :
    module.expressionWords mount target (.derived owner seeds)
      = findWords mount module.programId (Name.type owner)
        (seeds.map fun (seed, input) => module.seedArgument seed input) := by
  rw [expressionWords, findWords]

/-- A derivation is written as a function. -/
theorem derivationWords_eq {title : String} {parts : List SeedPart} :
    derivationWords title parts = finderWords title
      ((parameters parts).map fun (name, type) => parameterWords name type)
      (parts.map SeedPart.words) := by
  rw [derivationWords, finderWords]
  rfl

/-- The words of a derived address are among those of the local that has it for a default. -/
theorem InstructionModule.derived_infix_binding {mount : ModulePath} {module : InstructionModule}
    {target : Input} {owner : String} {seeds : List (VariableSeed × Input)} :
    module.expressionWords mount target (.derived owner seeds)
      <:+: module.bindingWords mount ⟨target, .default (.derived owner seeds)⟩ := by
  refine infix_before _ (infix_behind _ ?_)
  show _ <:+: (if module.isOptional target then _ else _ : Code)
  split
  · exact infix_behind _ (infix_group (infix_behind _ (infix_group List.infix_rfl)))
  · exact infix_behind _ (infix_group (infix_behind ["||"] List.infix_rfl))

/-- The words of a local are among those of its module. -/
theorem InstructionModule.binding_infix_words {mount : ModulePath} {module : InstructionModule}
    {binding : Binding} (h : binding ∈ module.bindings) :
    module.bindingWords mount binding <:+: module.words mount := by
  have hbindings : module.bindingWords mount binding
      <:+: module.bindings.flatMap (module.bindingWords mount) := by
    obtain ⟨before, behind, hsplit⟩ := List.append_of_mem h
    rw [hsplit, List.flatMap_append, List.flatMap_cons]
    exact infix_behind _ (infix_before _ List.infix_rfl)
  refine infix_behind _ (infix_behind _ (infix_block (infix_behind _ (infix_block ?_))))
  exact infix_before _ (infix_before _ (infix_before _ (infix_before _ hbindings)))

/-- The words of a function are among those of its module. -/
theorem AccountModule.derivation_infix_words {mount : ModulePath} {module : AccountModule}
    {parts : List SeedPart} (h : module.seeds = some parts) :
    derivationWords module.title parts <:+: module.words mount := by
  refine infix_behind _ (infix_block (infix_behind _ ?_))
  rewrite [h]
  exact List.infix_rfl

/-! ## Calls and functions of a crate -/

/-- A call is the default of an input in the module of an instruction: the local of the input has
    it for a value behind other locals, and its words are among those of the module. -/
structure InstructionModule.Calls (mount : ModulePath) (module : InstructionModule)
    (target : Input) (before : List Binding) (call : Code) : Prop where
  bound : ∃ expression behind, module.bindings = before ++ ⟨target, .default expression⟩ :: behind
    ∧ module.expressionWords mount target expression = call
  written : call <:+: module.words mount

/-- The module of an instruction has the id of its program, and the locals of its inputs. -/
theorem InstructionModule.of_eq_ok {nested : Bool} {program : Program}
    {instruction : Instruction} {module : InstructionModule}
    (h : InstructionModule.of nested program instruction = .ok module) :
    module.instruction = instruction ∧ module.programId = ProgramId.of nested program ∧ ∃ context,
      Bindery.bindings program (Signature.of instruction) context = .ok module.bindings := by
  obtain ⟨types, -, h⟩ := bind_eq_ok.mp h
  obtain ⟨bindings, hbindings, h⟩ := bind_eq_ok.mp h
  rw [← pure_eq_ok.mp h]
  exact ⟨rfl, rfl, _, hbindings⟩

/-- A module of an instruction makes a call for every default that is a derived address of an
    account that is there. -/
theorem InstructionModule.exists_calls {nested : Bool} {program : Program}
    {instruction : Instruction} {module : InstructionModule} (mount : ModulePath)
    (h : InstructionModule.of nested program instruction = .ok module) {target : Input}
    {owner : String} {given : List SeedBinding}
    (hdefault : instruction.Defaults target (.pda owner given)) {account : Account}
    (haccount : program.account? owner = some account) :
    ∃ before seeds, module.Calls mount target before
        (findWords mount (ProgramId.of nested program) (Name.type owner)
          (seeds.map fun (seed, input) => module.seedArgument seed input))
      ∧ List.Forall₂ (fun seed bound => bound.1 = seed ∧ seed.BoundTo given bound.2)
          account.seedInputs seeds
      ∧ ∀ input ∈ seeds.map (·.2), input ∈ before.map (·.input) := by
  obtain ⟨-, hid, context, hbindings⟩ := of_eq_ok h
  obtain ⟨before, expression, behind, place, hsplit, hof, hreads⟩ :=
    exists_local_of_default hbindings hdefault
  obtain ⟨seeds, rfl, hseeds⟩ := boundTo_of_derivation haccount hof
  have hmem : ⟨target, .default (.derived owner seeds)⟩ ∈ module.bindings := by
    rw [hsplit]
    exact List.mem_append_right _ List.mem_cons_self
  rw [← hid]
  refine ⟨before, seeds, ⟨⟨_, behind, hsplit, expressionWords_derived⟩, ?_⟩, hseeds, hreads⟩
  rw [← expressionWords_derived]
  exact derived_infix_binding.trans (binding_infix_words hmem)

/-- The module of an account with a recipe has its names, and a part for every seed. -/
theorem AccountModule.of_eq_ok {scope : Scope} {account : Account} {module : AccountModule}
    (h : AccountModule.of scope account = .ok module) {recipe : List Seed}
    (hrecipe : account.seeds = some recipe) :
    module.title = account.name ∧ module.name = Name.type account.name
      ∧ ∃ context parts, module.seeds = some parts
        ∧ List.Forall₂ (fun seed part => SeedPart.of context seed = .ok part) recipe parts := by
  obtain ⟨fields, -, h⟩ := bind_eq_ok.mp h
  obtain ⟨found, hfound, h⟩ := bind_eq_ok.mp h
  rw [hrecipe] at hfound
  obtain ⟨parts, hparts, hfound⟩ := bind_eq_ok.mp hfound
  obtain rfl := pure_eq_ok.mp h
  -- `rfl` would run the casing and the check for keywords on the name.
  exact ⟨rfl, by dsimp only, _, parts, (pure_eq_ok.mp hfound).symm, forall₂_of_mapM_eq_ok hparts⟩

/-- **CALLS IN STEP**: in a crate that is built, every default of an instruction that is a derived
    address of an account with a recipe is a call of the function of that account.  Behind the id
    of the program, the call has one argument for each parameter of the function: the local,
    bound before, of the input to which the seed of the parameter is bound, passed by value
    exactly when the type of the parameter is no reference.  The function has all seeds of the
    recipe in its array, in order. -/
theorem derived_calls_inStep {tree : Tree} {files : List (ModuleFile Module)}
    (h : Crate.files tree = .ok files) (mount : ModulePath) {program : Program}
    (hp : program ∈ tree.programs) {instruction : Instruction}
    (hi : instruction ∈ program.instructions) {target : Input} {owner : String}
    {given : List SeedBinding} (hdefault : instruction.Defaults target (.pda owner given))
    {account : Account} (haccount : program.account? owner = some account) {recipe : List Seed}
    (hrecipe : account.seeds = some recipe) :
    ∃ module helper before parameters arguments array,
      (.instruction module ∈ files.map (·.module)
          ∧ InstructionModule.of tree.isNested program instruction = .ok module)
        ∧ (.account helper ∈ files.map (·.module)
          ∧ AccountModule.of ⟨tree.isNested, some program⟩ account = .ok helper)
        ∧ module.Calls mount target before
          (findWords mount (ProgramId.of tree.isNested program) helper.name arguments)
        ∧ finderWords account.name parameters array <:+: helper.words mount
        ∧ InStep module.nameOf given (before.map (·.input)) recipe parameters arguments array
        ∧ arguments.length = parameters.length ∧ array.length = recipe.length := by
  have hplanned := Modules.files_builtAs (modules_regular tree.isNested) h
  have hmem : account ∈ program.accounts := List.mem_of_find?_eq_some haccount
  have hname : account.name = owner := name_of_find? haccount
  obtain ⟨callFile, hcallFile, hcaller⟩ := Modules.exists_file_of_site hplanned
    (show tree.Renders (.instruction program instruction) from ⟨hp, hi⟩)
  obtain ⟨module, hmodule, hcaller⟩ := bind_eq_ok.mp hcaller.module
  obtain ⟨finderFile, hfinderFile, hcallee⟩ := Modules.exists_file_of_site hplanned
    (show tree.Renders (.account program account) from ⟨hp, hmem⟩)
  obtain ⟨helper, hhelper, hcallee⟩ := bind_eq_ok.mp hcallee.module
  obtain ⟨before, seeds, hcalls, hseeds, hbound⟩ :=
    InstructionModule.exists_calls mount hmodule hdefault haccount
  obtain ⟨htitle, htype, context, parts, hfound, hparts⟩ :=
    AccountModule.of_eq_ok hhelper hrecipe
  have hfinder : derivationWords helper.title parts <:+: helper.words mount :=
    AccountModule.derivation_infix_words hfound
  rw [derivationWords_eq, htitle] at hfinder
  rw [← hname, ← htype] at hcalls
  rw [Account.seedInputs, hrecipe] at hseeds
  have hstep : InStep module.nameOf given _ recipe _ _ _ := inStep_of hparts hseeds hbound
  exact ⟨module, helper, before, _, _, _,
    ⟨List.mem_map.mpr ⟨callFile, hcallFile, (pure_eq_ok.mp hcaller).symm⟩, hmodule⟩,
    ⟨List.mem_map.mpr ⟨finderFile, hfinderFile, (pure_eq_ok.mp hcallee).symm⟩, hhelper⟩,
    hcalls, hfinder, hstep, hstep.length_arguments, hstep.length_array⟩

/-- The seeds of the vault are bound the other way round than they are listed; the owner is passed
    by reference, and the side, which is bound to an argument named like an account, by value. -/
theorem derived_calls_inStep_deposit :
    ∃ files module helper before parameters arguments array,
      Crate.files ⟨[depositProgram], []⟩ = .ok files
        ∧ deposit.Defaults (.account "vault")
          (.pda "Vault" [⟨"side", .argument "payer"⟩, ⟨"owner", .account "owner"⟩])
        ∧ Module.instruction module ∈ files.map (·.module)
        ∧ Module.account helper ∈ files.map (·.module)
        ∧ module.Calls .standard (.account "vault") before
          (findWords .standard (ProgramId.of false depositProgram) helper.name arguments)
        ∧ finderWords "Vault" parameters array <:+: helper.words .standard
        ∧ arguments = [["&", "owner"], ["payer_arg"]] ∧ array.length = 3 := by
  obtain ⟨files, hfiles⟩ : ∃ files, Crate.files ⟨[depositProgram], []⟩ = .ok files :=
    exists_ok_of_isSome (by decide +kernel)
  have hdefault : deposit.Defaults (.account "vault")
      (.pda "Vault" [⟨"side", .argument "payer"⟩, ⟨"owner", .account "owner"⟩]) :=
    .account (a := deposit.accounts.head (List.cons_ne_nil _ _)) List.mem_cons_self rfl
  obtain ⟨module, helper, before, parameters, arguments, array, ⟨hmodule, hof⟩, ⟨hhelper, -⟩,
      hcalls, hfinder, hstep, -, hlength⟩ :=
    derived_calls_inStep hfiles .standard List.mem_cons_self List.mem_cons_self hdefault
      (show depositProgram.account? "Vault" = some _ from rfl) rfl
  have hinstruction : module.instruction = deposit := (InstructionModule.of_eq_ok hof).1
  refine ⟨files, module, helper, before, parameters, arguments, array, hfiles, hdefault, hmodule,
    hhelper, hcalls, hfinder, ?_, hlength⟩
  cases hstep with
  | constant hstep =>
  cases hstep with
  | supplied htype howner _ hstep =>
  cases hstep with
  | supplied htype' hside _ hstep =>
  cases hstep
  obtain rfl := howner.only (by decide) ⟨"owner", .account "owner"⟩ (by decide) rfl
  obtain rfl := hside.only (by decide) ⟨"side", .argument "payer"⟩ (by decide) rfl
  rw [← Except.ok.inj htype, ← Except.ok.inj htype', InstructionModule.nameOf,
    InstructionModule.nameOf, hinstruction]
  decide +kernel

end Crate

end Bindery
