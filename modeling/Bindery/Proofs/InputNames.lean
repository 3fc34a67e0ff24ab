import Bindery.Proofs.Identifiers
import Bindery.Proofs.Loading
import Bindery.Proofs.Templates
import Bindery.Proofs.Words

/-! # Names of inputs — what a call builder declares

    The fields, parameters and locals of a call builder are named for its inputs in
    the case of the target.  An argument that would be named like an account gets
    an ending, and nothing looks at what the ending makes of it: the names of all
    inputs are different exactly when no name with the ending is that of another
    input (`nodup_inputTexts_iff`), and in the crate, moreover, identifiers do not
    bring names together (`Crate.nodup_inputNames_iff`).

    A builder has a field and a local for every input, so that it declares nothing
    twice exactly when the names of inputs are different; in the package its locals
    are in the scope of its two parameters besides (`builders_declare_once_iff`).  An
    argument `fee` beside accounts `fee` and `feeArg` is declared twice, and a local
    for an account `input` is declared over a parameter (`exists_declared_twice`). -/

namespace Bindery

variable {cased : String → String} {ending : String} {instruction : Instruction}
  {nested : Bool} {program : Program}

/-! ## Texts of inputs -/

namespace Instruction

/-- The names of accounts are different in some case, and so are those of arguments. -/
structure CasedApart (cased : String → String) (instruction : Instruction) : Prop where
  accounts : (instruction.accounts.map fun account => cased account.name).Nodup
  arguments : (instruction.arguments.map fun argument => cased argument.name).Nodup

/-- Whether names are different in some case can be computed. -/
instance decidableCasedApart (cased : String → String) (instruction : Instruction) :
    Decidable (instruction.CasedApart cased) :=
  decidable_of_iff ((instruction.accounts.map fun account => cased account.name).Nodup
      ∧ (instruction.arguments.map fun argument => cased argument.name).Nodup)
    ⟨fun ⟨haccounts, harguments⟩ => ⟨haccounts, harguments⟩, fun h => ⟨h.accounts, h.arguments⟩⟩

/-- The text that an input is named for: its name in some case, with an ending if it is an argument
    that would be named like an account. -/
def inputText (cased : String → String) (ending : String) (instruction : Instruction) :
    Input → String
  | .account name => cased name
  | .argument name =>
    if cased name ∈ instruction.accounts.map (fun account => cased account.name) then
      cased name ++ ending
    else cased name

/-- The texts for all inputs. -/
def inputTexts (cased : String → String) (ending : String) (instruction : Instruction) :
    List String :=
  instruction.inputs.map (instruction.inputText cased ending)

/-- No argument that is named like an account has with its ending the name of another input. -/
def EndingFree (cased : String → String) (ending : String) (instruction : Instruction) : Prop :=
  ∀ argument ∈ instruction.arguments,
    cased argument.name ∈ instruction.accounts.map (fun account => cased account.name) →
      cased argument.name ++ ending ∉ instruction.inputs.map fun input => cased input.name

instance (cased : String → String) (ending : String) (instruction : Instruction) :
    Decidable (instruction.EndingFree cased ending) :=
  List.decidableBAll _ _

/-- Names that are different in some case are different. -/
theorem CasedApart.distinct (h : instruction.CasedApart cased) : instruction.Distinct where
  accounts := .of_map cased (by simpa only [List.map_map, Function.comp_def] using h.accounts)
  arguments := .of_map cased (by simpa only [List.map_map, Function.comp_def] using h.arguments)

/-- Texts of which those in a list get an ending stay different from each other and from that list
    exactly when no ending leads to another text. -/
theorem nodup_append_ending_iff {texts others : List String} (h : texts.Nodup)
    (hothers : others.Nodup) :
    (texts ++ others.map fun text => if text ∈ texts then text ++ ending else text).Nodup
      ↔ ∀ text ∈ others, text ∈ texts → text ++ ending ∉ texts ∧ text ++ ending ∉ others := by
  rw [List.nodup_append, List.nodup_map_iff_inj_on hothers]
  constructor
  · rintro ⟨-, hinjective, hapart⟩ text hmem hshared
    have hended : text ++ ending
        ∈ others.map fun text => if text ∈ texts then text ++ ending else text :=
      List.mem_map.mpr ⟨text, hmem, if_pos hshared⟩
    have hnone : text ++ ending ∉ texts := fun hother => hapart _ hother _ hended rfl
    refine ⟨hnone, fun hother => ?_⟩
    -- another text of the list, which has no ending, would be the one with its ending
    have heq := hinjective text hmem (text ++ ending) hother (by rw [if_pos hshared, if_neg hnone])
    exact hnone (heq ▸ hshared)
  · intro hfree
    refine ⟨h, fun text hmem other hother heq => ?_, fun text hmem other hother heq => ?_⟩
    · split at heq <;> split at heq
      · exact (String.append_left_inj _).mp heq
      · next hshared _ => exact absurd (heq ▸ hother) (hfree text hmem hshared).2
      · next _ hshared => exact absurd (heq ▸ hmem) (hfree other hother hshared).2
      · exact heq
    · obtain ⟨argument, hargument, rfl⟩ := List.mem_map.mp hother
      split at heq
      · next hshared => exact (hfree argument hargument hshared).1 (heq ▸ hmem)
      · next hnot => exact hnot (heq ▸ hmem)

/-- **DIFFERENT TEXTS**: where the names of accounts are different in some case, and those of
    arguments, the texts for all inputs are different exactly when no ending leads to the name of
    another input. -/
theorem nodup_inputTexts_iff (h : instruction.CasedApart cased) :
    (instruction.inputTexts cased ending).Nodup ↔ instruction.EndingFree cased ending := by
  have htexts : instruction.inputTexts cased ending
      = (instruction.accounts.map fun account => cased account.name)
        ++ (instruction.arguments.map fun argument => cased argument.name).map fun text =>
          if text ∈ instruction.accounts.map (fun account => cased account.name) then
            text ++ ending else text := by
    rw [inputTexts, inputs, List.map_append, List.map_map, List.map_map, List.map_map]
    rfl
  have hnames : (instruction.inputs.map fun input => cased input.name)
      = (instruction.accounts.map fun account => cased account.name)
        ++ instruction.arguments.map fun argument => cased argument.name := by
    rw [inputs, List.map_append, List.map_map, List.map_map]
    rfl
  rw [htexts, nodup_append_ending_iff h.accounts h.arguments, List.forall_mem_map, EndingFree,
    hnames]
  simp only [List.mem_append, not_or]

end Instruction

/-! ## Names of inputs -/

/-- Whatever inputs are named, the names of what a signature asks for are those of all inputs, -/
theorem Signature.perm_names {α : Type} (instruction : Instruction) (naming : Input → α) :
    (((Signature.of instruction).required ++ ((Signature.of instruction).optional
        ++ (Signature.of instruction).defaulted)).map fun given => naming given.input).Perm
      (instruction.inputs.map naming) := by
  have hperm := (@Signature.perm_inputs instruction).map naming
  rw [List.append_assoc, List.map_map] at hperm
  exact hperm

/-- and so are the names of what its bindings bind. -/
theorem perm_names_of_bindings {α : Type} {context : String} {bound : List Binding}
    (hd : instruction.Distinct)
    (h : bindings program (Signature.of instruction) context = .ok bound) (naming : Input → α) :
    (bound.map fun binding => naming binding.input).Perm (instruction.inputs.map naming) := by
  have hperm := (boundBy_of_bindings hd h).once.1.map naming
  rw [List.map_map] at hperm
  exact hperm

/-- The name of an input in the crate is the identifier of its text, -/
theorem Crate.inputName_eq (input : Input) : Crate.inputName instruction input
    = Crate.Name.of (instruction.inputText Text.snakeCase "_arg" input) := by
  cases input with
  | account name => rfl
  | argument name =>
      have hany : instruction.accounts.any (Text.snakeCase ·.name = Text.snakeCase name) = true
          ↔ Text.snakeCase name
            ∈ instruction.accounts.map fun account => Text.snakeCase account.name := by
        simp only [List.any_eq_true, decide_eq_true_eq, List.mem_map]
      simp only [Crate.inputName, Crate.argumentName, Instruction.inputText, hany]
      exact (apply_ite Crate.Name.of _ _ _).symm

/-- and in the package it is the text. -/
theorem Package.inputKey_eq (input : Input) : Package.inputKey instruction input
    = instruction.inputText Text.camelCase "Arg" input := by
  cases input with
  | account name => rfl
  | argument name =>
      have hany : instruction.accounts.any (Text.camelCase ·.name = Text.camelCase name) = true
          ↔ Text.camelCase name
            ∈ instruction.accounts.map fun account => Text.camelCase account.name := by
        simp only [List.any_eq_true, decide_eq_true_eq, List.mem_map]
      simp only [Package.inputKey, Package.argumentKey, Instruction.inputText, hany]

namespace Crate

/-- The names of the inputs of an instruction in the crate. -/
def inputNames (instruction : Instruction) : List Name :=
  instruction.inputs.map (inputName instruction)

/-- A name in snake case is clear where identifiers keep its characters, with the ending of an
    argument or without. -/
theorem clear_snakeCase {name : String} (h : Kept (Text.snakeCase name)) :
    Clear (Text.snakeCase name) ∧ Clear (Text.snakeCase name ++ "_arg") := by
  obtain ⟨hbegins, hends⟩ := Text.snakeCase_ends name
  refine ⟨⟨h, hends, fun _ _ hhead => absurd rfl (hbegins '_' hhead)⟩, ⟨?_, ?_, ?_⟩⟩
  · have hending : Kept "_arg" := by decide
    rw [Kept, String.toList_append]
    exact List.forall_mem_append.mpr ⟨h, hending⟩
  · intro c hc
    have hlast : (Text.snakeCase name ++ "_arg").toList.getLast? = some 'g' := by
      rw [String.toList_append]
      exact List.getLast?_append_of_ne_nil _ (List.cons_ne_nil _ _)
    rw [hlast] at hc
    obtain rfl := Option.some.inj hc
    decide
  · intro c hc hhead
    rw [String.toList_append] at hc hhead
    cases hname : (Text.snakeCase name).toList with
    | nil =>
        rw [hname] at hc
        obtain rfl := Option.some.inj hc
        decide
    | cons first rest =>
        rw [hname] at hhead
        exact absurd rfl (hbegins '_' (by rw [hname]; exact hhead))

/-- Where identifiers keep the characters of names in snake case, the texts for inputs have
    different identifiers. -/
theorem of_injOn_inputTexts
    (h : ∀ input ∈ instruction.inputs, Kept (Text.snakeCase input.name)) :
    Set.InjOn Name.of {text | text ∈ instruction.inputTexts Text.snakeCase "_arg"} := by
  refine Name.of_injOn.mono fun text htext => ?_
  obtain ⟨input, hinput, rfl⟩ := List.mem_map.mp htext
  obtain ⟨hplain, hended⟩ := clear_snakeCase (h input hinput)
  cases input with
  | account name => exact hplain
  | argument name =>
      show Clear (if _ then Text.snakeCase name ++ "_arg" else Text.snakeCase name)
      split
      · exact hended
      · exact hplain

/-- **DIFFERENT IDENTIFIERS**: where the names of accounts are different in snake case, and those of
    arguments, the identifiers of all inputs are different exactly when no ending leads to the name
    of another input and identifiers bring no two texts together. -/
theorem nodup_inputNames_iff (h : instruction.CasedApart Text.snakeCase) :
    (inputNames instruction).Nodup ↔ instruction.EndingFree Text.snakeCase "_arg"
      ∧ Set.InjOn Name.of {text | text ∈ instruction.inputTexts Text.snakeCase "_arg"} := by
  have hnames : inputNames instruction
      = (instruction.inputTexts Text.snakeCase "_arg").map Name.of := by
    rw [inputNames, Instruction.inputTexts, List.map_map]
    exact List.map_congr_left fun input _ => inputName_eq input
  rw [hnames, ← Instruction.nodup_inputTexts_iff h]
  constructor
  · intro hnodup
    have htexts : (instruction.inputTexts Text.snakeCase "_arg").Nodup := .of_map Name.of hnodup
    exact ⟨htexts, fun text htext other hother heq =>
      (List.nodup_map_iff_inj_on htexts).mp hnodup text htext other hother heq⟩
  · rintro ⟨htexts, hinjective⟩
    exact htexts.map_on fun text htext other hother heq => hinjective htext hother heq

/-! ## Builders -/

namespace InstructionModule

/-- The names of the fields of the builder. -/
def fieldNames (module : InstructionModule) : List Name :=
  let signature := Signature.of module.instruction
  (signature.required ++ (signature.optional ++ signature.defaulted)).map fun given =>
    module.nameOf given.input

/-- The names of the parameters of the function that makes it. -/
def parameterNames (module : InstructionModule) : List Name :=
  (Signature.of module.instruction).required.map fun given => module.nameOf given.input

/-- The names of the locals of the function that makes the call. -/
def localNames (module : InstructionModule) : List Name :=
  module.bindings.map fun bound => module.nameOf bound.input

/-- A builder that declares no field, no parameter and no local twice. -/
structure DeclaresOnce (module : InstructionModule) : Prop where
  fields : module.fieldNames.Nodup
  parameters : module.parameterNames.Nodup
  locals : module.localNames.Nodup

/-- The module of an instruction has the bindings of its signature. -/
theorem bindings_of {module : InstructionModule}
    (h : InstructionModule.of nested program instruction = .ok module) :
    module.instruction = instruction ∧ ∃ context,
      Bindery.bindings program (Signature.of instruction) context = .ok module.bindings := by
  obtain ⟨types, -, h⟩ := bind_eq_ok.mp h
  obtain ⟨bindings, hbindings, h⟩ := bind_eq_ok.mp h
  rw [← pure_eq_ok.mp h]
  exact ⟨rfl, _, hbindings⟩

/-- **THE CRATE DECLARES ONCE** what has a name of its own: the builder of an instruction with
    distinct names declares nothing twice exactly when the names of its inputs are different. -/
theorem declaresOnce_iff {module : InstructionModule} (hd : instruction.Distinct)
    (h : InstructionModule.of nested program instruction = .ok module) :
    module.DeclaresOnce ↔ (inputNames instruction).Nodup := by
  obtain ⟨hinstruction, context, hbindings⟩ := bindings_of h
  have hnameOf : module.nameOf = inputName instruction := by
    funext input
    rw [nameOf, hinstruction]
  have hfields : module.fieldNames.Perm (inputNames instruction) := by
    rw [fieldNames, hinstruction, hnameOf]
    exact Signature.perm_names instruction _
  have hlocals : module.localNames.Perm (inputNames instruction) := by
    rw [localNames, hnameOf]
    exact perm_names_of_bindings hd hbindings _
  refine ⟨fun honce => hfields.nodup_iff.mp honce.fields, fun hnodup =>
    ⟨hfields.nodup_iff.mpr hnodup, ?_, hlocals.nodup_iff.mpr hnodup⟩⟩
  have hsublist : module.parameterNames.Sublist module.fieldNames :=
    (List.sublist_append_left _ _).map _
  exact hsublist.nodup (hfields.nodup_iff.mpr hnodup)

end InstructionModule

end Crate

namespace Package

/-- The names of the inputs of an instruction in the package. -/
def inputKeys (instruction : Instruction) : List String :=
  instruction.inputs.map (inputKey instruction)

/-- **DIFFERENT KEYS**: where the names of accounts are different in camel case, and those of
    arguments, the keys of all inputs are different exactly when no ending leads to the name of
    another input. -/
theorem nodup_inputKeys_iff (h : instruction.CasedApart Text.camelCase) :
    (inputKeys instruction).Nodup ↔ instruction.EndingFree Text.camelCase "Arg" := by
  have hkeys : inputKeys instruction = instruction.inputTexts Text.camelCase "Arg" :=
    List.map_congr_left fun input _ => inputKey_eq input
  rw [hkeys, Instruction.nodup_inputTexts_iff h]

namespace InstructionModule

/-- The keys of the object that a caller supplies. -/
def fieldNames (module : InstructionModule) : List String :=
  let signature := Signature.of module.instruction
  (signature.required ++ (signature.defaulted ++ signature.optional)).map fun given =>
    module.keyOf given.input

/-- The parameters of the builder: that object, and the address of the program. -/
def parameterNames : List String := ["input", "programAddress"]

/-- The names of the locals of the builder. -/
def localNames (module : InstructionModule) : List String :=
  module.bindings.map fun bound => module.keyOf bound.input

/-- A builder that declares no key twice, and no parameter or local: these are in one scope. -/
structure DeclaresOnce (module : InstructionModule) : Prop where
  fields : module.fieldNames.Nodup
  scope : (parameterNames ++ module.localNames).Nodup

/-- The module of an instruction has the bindings of its signature. -/
theorem bindings_of {module : InstructionModule}
    (h : InstructionModule.of nested program instruction = .ok module) :
    module.instruction = instruction ∧ ∃ context,
      Bindery.bindings program (Signature.of instruction) context = .ok module.bindings := by
  obtain ⟨fields, -, h⟩ := bind_eq_ok.mp h
  obtain ⟨bindings, hbindings, h⟩ := bind_eq_ok.mp h
  rw [← pure_eq_ok.mp h]
  exact ⟨rfl, _, hbindings⟩

/-- **THE PACKAGE DECLARES ONCE** what has a name of its own: the builder of an instruction with
    distinct names declares nothing twice exactly when the names of its inputs are different, and
    none is that of a parameter. -/
theorem declaresOnce_iff {module : InstructionModule} (hd : instruction.Distinct)
    (h : InstructionModule.of nested program instruction = .ok module) :
    module.DeclaresOnce ↔ (inputKeys instruction).Nodup
      ∧ ∀ parameter ∈ parameterNames, parameter ∉ inputKeys instruction := by
  obtain ⟨hinstruction, context, hbindings⟩ := bindings_of h
  have hkeyOf : module.keyOf = inputKey instruction := by
    funext input
    rw [keyOf, hinstruction]
  have hfields : module.fieldNames.Perm (inputKeys instruction) := by
    rw [fieldNames, hinstruction, hkeyOf]
    -- here the inputs with defaults come before the optional ones
    exact ((List.perm_append_comm.append_left _).map _).trans (Signature.perm_names instruction _)
  have hlocals : module.localNames.Perm (inputKeys instruction) := by
    rw [localNames, hkeyOf]
    exact perm_names_of_bindings hd hbindings _
  have hscope : (parameterNames ++ module.localNames).Nodup ↔ (inputKeys instruction).Nodup
      ∧ ∀ parameter ∈ parameterNames, parameter ∉ inputKeys instruction := by
    have hparameters : parameterNames.Nodup := by decide
    rw [(hlocals.append_left parameterNames).nodup_iff, List.nodup_append']
    constructor
    · rintro ⟨-, hnodup, hapart⟩
      exact ⟨hnodup, fun parameter hmem hkey => hapart hmem hkey⟩
    · rintro ⟨hnodup, hapart⟩
      exact ⟨hparameters, hnodup, fun parameter hmem hkey => hapart parameter hmem hkey⟩
  refine ⟨fun honce => hscope.mp honce.scope, fun hapart => ⟨?_, hscope.mpr hapart⟩⟩
  exact hfields.nodup_iff.mpr hapart.1

end InstructionModule

end Package

/-- What the names of inputs come to in the crate: when their identifiers are different, and that
    its builder then declares nothing twice. -/
structure Crate.NamesInputs (nested : Bool) (program : Program) (instruction : Instruction) :
    Prop where
  names : (inputNames instruction).Nodup ↔ instruction.EndingFree Text.snakeCase "_arg"
    ∧ Set.InjOn Name.of {text | text ∈ instruction.inputTexts Text.snakeCase "_arg"}
  kept : (∀ input ∈ instruction.inputs, Kept (Text.snakeCase input.name)) →
    ((inputNames instruction).Nodup ↔ instruction.EndingFree Text.snakeCase "_arg")
  builder : ∀ module, InstructionModule.of nested program instruction = .ok module →
    (module.DeclaresOnce ↔ (inputNames instruction).Nodup)

/-- What they come to in the package: when their keys are different, and that its builder then
    declares nothing twice but what has the name of a parameter. -/
structure Package.NamesInputs (nested : Bool) (program : Program) (instruction : Instruction) :
    Prop where
  keys : (inputKeys instruction).Nodup ↔ instruction.EndingFree Text.camelCase "Arg"
  builder : ∀ module, InstructionModule.of nested program instruction = .ok module →
    (module.DeclaresOnce ↔ (inputKeys instruction).Nodup
      ∧ ∀ parameter ∈ InstructionModule.parameterNames, parameter ∉ inputKeys instruction)

/-- **DECLARED ONCE**: where the names of an instruction's accounts are different in the case of a
    target, and those of its arguments, the names of all inputs are different there exactly when no
    ending leads to the name of another input and, in the crate, identifiers bring none together.
    Then the builder declares nothing twice, save the parameters of the package. -/
theorem builders_declare_once_iff (nested : Bool) (program : Program) (instruction : Instruction) :
    (instruction.CasedApart Text.snakeCase → Crate.NamesInputs nested program instruction)
      ∧ (instruction.CasedApart Text.camelCase →
        Package.NamesInputs nested program instruction) := by
  constructor
  · intro h
    have hnames := Crate.nodup_inputNames_iff h
    exact ⟨hnames, fun hkept => hnames.trans (and_iff_left (Crate.of_injOn_inputTexts hkept)),
      fun module hmodule => Crate.InstructionModule.declaresOnce_iff h.distinct hmodule⟩
  · intro h
    exact ⟨Package.nodup_inputKeys_iff h,
      fun module hmodule => Package.InstructionModule.declaresOnce_iff h.distinct hmodule⟩

theorem builders_declare_once_iff_deposit : deposit.CasedApart Text.snakeCase
    ∧ deposit.CasedApart Text.camelCase ∧ ∃ crate package,
      Crate.InstructionModule.of false depositProgram deposit = .ok crate
        ∧ Package.InstructionModule.of false depositProgram deposit = .ok package
        ∧ crate.DeclaresOnce ∧ package.DeclaresOnce := by
  have hsnake : deposit.CasedApart Text.snakeCase := by decide +kernel
  have hcamel : deposit.CasedApart Text.camelCase := by decide +kernel
  obtain ⟨crate, hcrate⟩ : ∃ module,
      Crate.InstructionModule.of false depositProgram deposit = .ok module :=
    exists_ok_of_isSome (by decide +kernel)
  obtain ⟨package, hpackage⟩ : ∃ module,
      Package.InstructionModule.of false depositProgram deposit = .ok module :=
    exists_ok_of_isSome (by decide +kernel)
  have hnames := (builders_declare_once_iff false depositProgram deposit).1 hsnake
  have hkeys := (builders_declare_once_iff false depositProgram deposit).2 hcamel
  refine ⟨hsnake, hcamel, crate, package, hcrate, hpackage, ?_, ?_⟩
  · exact (hnames.builder crate hcrate).mpr ((hnames.kept (by decide +kernel)).mpr
      (by decide +kernel))
  · exact (hkeys.builder package hpackage).mpr ⟨hkeys.keys.mpr (by decide +kernel),
      by decide +kernel⟩

/-! ## Inputs that are declared twice -/

/-- An interface whose first instruction has accounts `fee` and `feeArg` and an argument `fee`, and
    whose second has an account `input`. -/
def ferry : Document where
  label := "ferry"
  text := String.join [
    "\x7b\"name\":\"ferry\",\"address\":\"F\",\"instructions\":[",
    "\x7b\"name\":\"cross\",\"accounts\":[\x7b\"name\":\"fee\"\x7d,\x7b\"name\":\"feeArg\"\x7d],",
    "\"args\":[\x7b\"name\":\"fee\",\"type\":\"u64\"\x7d]\x7d,",
    "\x7b\"name\":\"board\",\"accounts\":[\x7b\"name\":\"input\"\x7d],\"args\":[]\x7d]\x7d"]

/-- The first of these instructions, -/
def cross : Instruction where
  name := "cross"
  docs := []
  accounts := [⟨"fee", false, false, false, [], none⟩, ⟨"feeArg", false, false, false, [], none⟩]
  arguments := [⟨"fee", .number .u64, [], none⟩]
  discriminator := none

/-- and the second. -/
def board : Instruction where
  name := "board"
  docs := []
  accounts := [⟨"input", false, false, false, [], none⟩]
  arguments := []
  discriminator := none

/-- The program of that interface. -/
def ferryProgram : Program where
  name := "ferry"
  publicKey := "F"
  version := ""
  docs := []
  accounts := []
  instructions := [cross, board]
  definedTypes := []
  errors := []

/-- The interface loads. -/
theorem load_ferry : Tree.load [ferry] = .ok ⟨[ferryProgram], []⟩ := by
  refine load_singleton ?_
  rw [documentProgram_eq String.toList_join]
  decide +kernel

/-- **DECLARED TWICE**: the names of the first instruction are different in every case, and each
    target declares the argument and the second account under one name; those of the second are
    too, and the package declares its account over a parameter. -/
theorem exists_declared_twice : Tree.load [ferry] = .ok ⟨[ferryProgram], []⟩
    ∧ (∀ instruction ∈ ferryProgram.instructions,
      instruction.CasedApart Text.snakeCase ∧ instruction.CasedApart Text.camelCase)
    ∧ ¬ (Crate.inputNames cross).Nodup ∧ ¬ (Package.inputKeys cross).Nodup
    ∧ (∃ crate package, Crate.InstructionModule.of false ferryProgram cross = .ok crate
      ∧ Package.InstructionModule.of false ferryProgram cross = .ok package
      ∧ ¬ crate.DeclaresOnce ∧ ¬ package.DeclaresOnce)
    ∧ ∃ package, Package.InstructionModule.of false ferryProgram board = .ok package
      ∧ ¬ package.DeclaresOnce := by
  obtain ⟨crate, hcrate, hlocals⟩ : ∃ module,
      Crate.InstructionModule.of false ferryProgram cross = .ok module
        ∧ decide (¬ module.localNames.Nodup) = true := exists_ok_of_any (by decide +kernel)
  obtain ⟨package, hpackage, hscope⟩ : ∃ module,
      Package.InstructionModule.of false ferryProgram cross = .ok module
        ∧ decide (¬ (Package.InstructionModule.parameterNames ++ module.localNames).Nodup) = true :=
    exists_ok_of_any (by decide +kernel)
  obtain ⟨package', hpackage', hscope'⟩ : ∃ module,
      Package.InstructionModule.of false ferryProgram board = .ok module
        ∧ decide (¬ (Package.InstructionModule.parameterNames ++ module.localNames).Nodup) = true :=
    exists_ok_of_any (by decide +kernel)
  exact ⟨load_ferry, by decide +kernel, by decide +kernel, by decide +kernel,
    ⟨crate, package, hcrate, hpackage, fun honce => of_decide_eq_true hlocals honce.locals,
      fun honce => of_decide_eq_true hscope honce.scope⟩,
    package', hpackage', fun honce => of_decide_eq_true hscope' honce.scope⟩

end Bindery
