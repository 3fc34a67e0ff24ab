import Bindery.Package.Printer
import Bindery.Proofs.Except
import Bindery.Proofs.Exports.Names
import Bindery.Proofs.TypeLinks.Places
import Bindery.Tree.Basic

/-! # Exports of modules — of one, and of all modules of a program

    The names that a module exports are read off the module, and its source declares
    each of them (`Module.declares_exports`).  For the module of a node they are the
    names of the exports of the node (`AccountModule.exports_of`,
    `InstructionModule.exports_of`, `ErrorsModule.exports_of`,
    `Declaration.exports_of`), which depend on its own name and on whether it has a
    tag or a recipe, but not on what it holds.

    The modules of a program are one for its constants and those of its parts, and
    each of them exports what its node does (`Package.exports_programFiles`).  A tree
    that is built has the modules of each of its programs, and the index of the
    program's directory beside them (`Modules.exists_programBuilt`). -/

namespace Bindery

open Package (Export)

/-! ## Exports of nodes -/

/-- The exports of an account: the constant of its tag, its type and codec, the function that reads
    it, and the one that derives its address. -/
def Account.exports (account : Account) : List Export :=
  let name := Text.upperCamelCase account.name
  account.discriminator.toList.map (fun _ => ⟨.tag, Text.shoutyCase account.name⟩)
    ++ [⟨.type, name⟩, ⟨.codec, name⟩, ⟨.decoder, name⟩]
    ++ account.seeds.toList.map (fun _ => ⟨.finder, name⟩)

/-- The exports of an instruction: the constant of its tag, the type and codec of its data, the
    type of its inputs, and its call builder. -/
def Instruction.exports (instruction : Instruction) : List Export :=
  let name := Text.upperCamelCase instruction.name
  instruction.discriminator.toList.map (fun _ => ⟨.tag, Text.shoutyCase instruction.name⟩)
    ++ [⟨.type, name ++ "InstructionData"⟩, ⟨.codec, name ++ "InstructionData"⟩,
      ⟨.type, name ++ "Input"⟩, ⟨.builder, name⟩]

/-- The exports of a defined type: the type and its codec. -/
def DefinedType.exports (defined : DefinedType) : List Export :=
  let name := Text.upperCamelCase defined.name
  [⟨.type, name⟩, ⟨.codec, name⟩]

/-- The exports for the errors of a program: a constant for each, their type, and the function for
    their messages. -/
def Program.errorExports (program : Program) : List Export :=
  let name := Text.upperCamelCase program.name ++ "Error"
  program.errors.map (fun error => ⟨.error, Text.shoutyCase error.name⟩)
    ++ [⟨.type, name⟩, ⟨.messages, name⟩]

namespace Package

/-! ## Exports of modules -/

/-- The names that a module exports. An index exports none of its own. -/
def Module.exports : Module → List String
  | .programs constant _ => [constant]
  | .account module =>
    module.tag.toList.map (·.name)
      ++ [module.name, Codec.functionName module.name, "decode" ++ module.name]
      ++ module.seeds.toList.map (fun _ => finderName module.title)
  | .instruction module =>
    let instruction := module.instruction
    instruction.discriminator.toList.map (fun tag => (TagConstant.of instruction.name tag).name)
      ++ [module.codecName, Codec.functionName module.codecName, module.name ++ "Input",
        "get" ++ module.name ++ "Instruction"]
  | .errors module =>
    (module.constants.zip module.errors).map (·.1)
      ++ [module.type, "get" ++ module.type ++ "Message"]
  | .type declaration => [declaration.name, Codec.functionName declaration.name]
  | .index _ _ => []

variable {nested : Bool} {program : Program}

/-- The names of the exports of nodes in a program. -/
def exportNames (program : Program) (exports : List Export) : List String :=
  exports.map (Export.name (Text.shoutyCase program.name))

/-- The module of constants exports the address of the program. -/
theorem exports_programs :
    ((Module.programs (addressConstant program.name) program.publicKey).exports)
      = exportNames program [⟨.address, ""⟩] := by
  rw [exportNames, List.map_singleton, Export.name_address]
  rfl

/-- The module of an account exports what the account does. -/
theorem AccountModule.exports_of {account : Account} {module : AccountModule}
    (h : AccountModule.of nested program account = .ok module) :
    (Module.account module).exports = exportNames program account.exports := by
  obtain ⟨fields, -, h⟩ := bind_eq_ok.mp h
  obtain ⟨seeds, hseeds, h⟩ := bind_eq_ok.mp h
  have hfinders : seeds.toList.map (fun _ => finderName account.name)
      = account.seeds.toList.map fun _ => finderName account.name := by
    cases hrecipe : account.seeds with
    | none =>
        rw [hrecipe] at hseeds
        rw [← pure_eq_ok.mp hseeds]
        rfl
    | some recipe =>
        rw [hrecipe] at hseeds
        obtain ⟨parts, -, hseeds⟩ := bind_eq_ok.mp hseeds
        rw [← pure_eq_ok.mp hseeds]
        rfl
  rw [← pure_eq_ok.mp h, Module.exports, hfinders]
  simp only [Account.exports, exportNames, List.map_append, List.map_map, List.map_cons,
    List.map_nil, Option.toList_map, Export.name_type, Export.name_codec, Export.name_decoder,
    Codec.functionName, TagConstant.of, finderName, Function.comp_def, Export.name_tag,
    Export.name_finder]

/-- The module of an instruction exports what the instruction does. -/
theorem InstructionModule.exports_of {instruction : Instruction} {module : InstructionModule}
    (h : InstructionModule.of nested program instruction = .ok module) :
    (Module.instruction module).exports = exportNames program instruction.exports := by
  obtain ⟨fields, -, h⟩ := bind_eq_ok.mp h
  obtain ⟨bindings, -, h⟩ := bind_eq_ok.mp h
  rw [← pure_eq_ok.mp h]
  simp only [Module.exports, Instruction.exports, exportNames, List.map_append, List.map_map,
    List.map_cons, List.map_nil, Export.name_type, Export.name_codec, Export.name_builder,
    Codec.functionName, TagConstant.of, InstructionModule.codecName, InstructionModule.name,
    Function.comp_def, Export.name_tag]

/-- The module of a defined type exports what the type does. -/
theorem Declaration.exports_of {scope : Scope} {defined : DefinedType} {declaration : Declaration}
    (h : Declaration.of scope defined = .ok declaration) :
    (Module.type declaration).exports = exportNames program defined.exports := by
  obtain ⟨shape, -, h⟩ := bind_eq_ok.mp h
  rw [← pure_eq_ok.mp h]
  simp only [Module.exports, DefinedType.exports, exportNames, List.map_cons, List.map_nil,
    Export.name_type, Export.name_codec, Codec.functionName]

/-- The module of errors exports what the errors do. -/
theorem ErrorsModule.exports_of :
    (Module.errors (ErrorsModule.of program)).exports
      = exportNames program program.errorExports := by
  have hconstants : ((ErrorsModule.of program).constants.zip (ErrorsModule.of program).errors).map
      (·.1) = (ErrorsModule.of program).constants :=
    List.map_fst_zip (List.length_map _).le
  rw [Module.exports, hconstants]
  simp only [ErrorsModule.of, Program.errorExports, exportNames, List.map_append, List.map_map,
    List.map_cons, List.map_nil, Function.comp_def, Export.name_error, Export.name_type,
    Export.name_messages]

/-! ## Exports that are declared -/

/-- The words in front of a name that a module exports. -/
def exportWords : List String :=
  ["export const ", "export type ", "export enum ", "export function ", "export async function "]

/-- A text declares an export: somewhere its name stands behind such words, and ends there. -/
def Declares (text name : String) : Prop :=
  ∃ words ∈ exportWords, ∃ c ∈ [' ', '('], words.toList ++ name.toList ++ [c] <:+: text.toList

namespace Declares

variable {text text' name : String}

/-- A text declares what its first part does, -/
theorem left (h : Declares text name) : Declares (text ++ text') name := by
  obtain ⟨words, hwords, c, hc, hinfix⟩ := h
  refine ⟨words, hwords, c, hc, ?_⟩
  rw [String.toList_append]
  exact hinfix.trans (List.prefix_append _ _).isInfix

/-- and what its second part does. -/
theorem right (h : Declares text' name) : Declares (text ++ text') name := by
  obtain ⟨words, hwords, c, hc, hinfix⟩ := h
  refine ⟨words, hwords, c, hc, ?_⟩
  rw [String.toList_append]
  exact hinfix.trans (List.suffix_append _ _).isInfix

/-- Joined texts declare what one of them does. -/
theorem join {texts : List String} (hmem : text ∈ texts) (h : Declares text name) :
    Declares (String.join texts) name := by
  obtain ⟨words, hwords, c, hc, hinfix⟩ := h
  refine ⟨words, hwords, c, hc, hinfix.trans ?_⟩
  obtain ⟨before, behind, rfl⟩ := List.append_of_mem hmem
  rw [String.toList_join, List.flatMap_append, List.flatMap_cons]
  exact List.infix_append' _ _ _

/-- A text that starts with the words and the name declares it. -/
theorem start (words behind : String) (htext : text = words ++ name ++ behind)
    (hwords : words ∈ exportWords)
    (hbehind : behind.toList.head?.any (fun c => decide (c ∈ [' ', '('])) = true) :
    Declares text name := by
  obtain ⟨c, hhead, hc⟩ := (Option.any_eq_true _ _).mp hbehind
  obtain ⟨rest, hrest⟩ := List.head?_eq_some_iff.mp hhead
  refine ⟨words, hwords, c, of_decide_eq_true hc, [], rest, ?_⟩
  rw [htext, String.toList_append, String.toList_append, hrest]
  simp only [List.nil_append, List.append_assoc, List.cons_append]

/-- A text that has them behind others declares it too. -/
theorem behind (before words behind : String) (htext : text = before ++ words ++ name ++ behind)
    (hwords : words ∈ exportWords)
    (hbehind : behind.toList.head?.any (fun c => decide (c ∈ [' ', '('])) = true) :
    Declares text name := by
  rw [htext, String.append_assoc, String.append_assoc]
  exact .right (.start _ _ String.append_assoc.symm hwords hbehind)

/-- An object type is declared, -/
theorem objectType {name : String} {fields : List Field} :
    Declares (objectType name fields).text name :=
  .left (.left (.start _ _ rfl (by decide) (by decide)))

/-- so is the function for a codec, -/
theorem codecFunction {type : String} {codec : Source} :
    Declares (codecFunction type codec).text (Codec.functionName type) :=
  .left (.left (.start _ _ rfl (by decide) (by decide)))

/-- the one that decodes an account, -/
theorem decoder {name : String} {tag : Option TagConstant} :
    Declares (decoder name tag).text ("decode" ++ name) := by
  have htext : "export function decode" ++ name ++ "(data: "
      = "export function " ++ ("decode" ++ name) ++ "(data: " := by
    rw [← String.append_assoc]
    rfl
  have hstart : Declares ("export function decode" ++ name ++ "(data: ") ("decode" ++ name) :=
    .start _ _ htext (by decide) (by decide)
  -- each step leaves out one piece of the text behind the name
  iterate 6 apply Declares.left
  exact hstart

/-- the one that finds its address, -/
theorem finder {module : AccountModule} {seeds : List SeedPart} :
    Declares (finder module seeds).text (finderName module.title) := by
  unfold Package.finder
  iterate 11 apply Declares.left
  exact .behind _ _ _ rfl (by decide) (by decide)

/-- and the constant of a tag. -/
theorem tag {tag : TagConstant} : Declares tag.source.text tag.name :=
  .left (.left (.start _ _ rfl (by decide) (by decide)))

end Declares

/-- The exports of a defined type are declared, -/
theorem declares_declaration (declaration : Declaration) :
    ∀ name ∈ (Module.type declaration).exports, Declares declaration.source.text name := by
  obtain ⟨docs, name, shape⟩ := declaration
  refine List.forall_mem_cons.mpr ⟨.right ?_, List.forall_mem_singleton.mpr (.right ?_)⟩
  · cases shape with
    | struct fields => exact .left .objectType
    | enum members => exact .left (.left (.left (.start _ _ rfl (by decide) (by decide))))
    | union variants => exact .left (.left (.left (.start _ _ rfl (by decide) (by decide))))
    | «alias» type codec => exact .left (.left (.left (.start _ _ rfl (by decide) (by decide))))
  · cases shape <;> exact .right .codecFunction

/-- those of an account, -/
theorem declares_account (module : AccountModule) :
    ∀ name ∈ (Module.account module).exports, Declares module.source.text name := by
  have htag : ∀ tag, module.tag = some tag → Declares module.source.text tag.name := by
    intro tag htag
    unfold AccountModule.source
    rw [htag]
    iterate 6 apply Declares.left
    exact .tag
  have hderivation : ∀ seeds, module.seeds = some seeds →
      Declares module.source.text (finderName module.title) := by
    intro seeds hseeds
    unfold AccountModule.source
    rw [hseeds]
    exact .right (.right .finder)
  intro name hname
  rcases List.mem_append.mp hname with hname | hname
  · rcases List.mem_append.mp hname with hname | hname
    · obtain ⟨tag, hmem, rfl⟩ := List.mem_map.mp hname
      exact htag tag (Option.mem_toList.mp hmem)
    · have hthree : ∀ other ∈
          [module.name, Codec.functionName module.name, "decode" ++ module.name],
          Declares module.source.text other :=
        List.forall_mem_cons.mpr ⟨.left (.left (.left (.left (.right .objectType)))),
          List.forall_mem_cons.mpr ⟨.left (.left (.left (.right .codecFunction))),
            List.forall_mem_singleton.mpr (.left (.right .decoder))⟩⟩
      exact hthree name hname
  · obtain ⟨seeds, hmem, rfl⟩ := List.mem_map.mp hname
    exact hderivation seeds (Option.mem_toList.mp hmem)

/-- those of an instruction, -/
theorem declares_instruction (module : InstructionModule) :
    ∀ name ∈ (Module.instruction module).exports, Declares module.source.text name := by
  have hinputs : Declares module.inputObject.text (module.name ++ "Input") := by
    have hstart : Declares ("export type " ++ module.name ++ ("Input" ++ " = \x7b\n"))
        (module.name ++ "Input") :=
      .start "export type " " = \x7b\n" (by simp only [String.append_assoc]) (by decide) (by decide)
    exact .left (.left (.left hstart))
  have hbuilder : Declares module.builder.text ("get" ++ module.name ++ "Instruction") := by
    have hstart : Declares ("export async function " ++ "get" ++ module.name
        ++ ("Instruction" ++ "(\n  input: ") ++ module.name ++ "Input,\n")
        ("get" ++ module.name ++ "Instruction") :=
      .left (.left (.start "export async function " "(\n  input: "
        (by simp only [String.append_assoc]) (by decide) (by decide)))
    unfold InstructionModule.builder
    iterate 15 apply Declares.left
    exact hstart
  intro name hname
  rcases List.mem_append.mp hname with hname | hname
  · obtain ⟨tag, hmem, rfl⟩ := List.mem_map.mp hname
    simp only [InstructionModule.source, Option.mem_toList.mp hmem]
    iterate 6 apply Declares.left
    exact .tag
  · have hfour : ∀ other ∈ [module.codecName, Codec.functionName module.codecName,
        module.name ++ "Input", "get" ++ module.name ++ "Instruction"],
        Declares module.source.text other :=
      List.forall_mem_cons.mpr ⟨.left (.left (.left (.left (.left (.right .objectType))))),
        List.forall_mem_cons.mpr ⟨.left (.left (.left (.left (.right .codecFunction)))),
          List.forall_mem_cons.mpr ⟨.left (.left (.right hinputs)),
            List.forall_mem_singleton.mpr (.right hbuilder)⟩⟩⟩
    exact hfour name hname

/-- and those of errors. -/
theorem declares_errors (module : ErrorsModule) :
    ∀ name ∈ (Module.errors module).exports, Declares module.source.text name := by
  have hconstant : ∀ entry ∈ module.constants.zip module.errors,
      Declares module.source.text entry.1 := by
    rintro ⟨constant, error⟩ hmem
    unfold ErrorsModule.source
    iterate 19 apply Declares.left
    refine .join (List.mem_map.mpr ⟨_, hmem, rfl⟩) ?_
    iterate 4 apply Declares.left
    exact .behind _ _ _ rfl (by decide) (by decide)
  have htype : Declares module.source.text module.type := by
    have hstart : ∀ before : String,
        Declares (before ++ ("\n" ++ "export type ") ++ module.type ++ " = ") module.type :=
      fun before => .behind (before ++ "\n") "export type " " = "
        (by simp only [String.append_assoc]) (by decide) (by decide)
    unfold ErrorsModule.source
    iterate 16 apply Declares.left
    exact hstart _
  have hmessages : Declares module.source.text ("get" ++ module.type ++ "Message") := by
    have hstart : ∀ before : String, Declares
        (before ++ ("export function " ++ "get") ++ module.type ++ ("Message" ++ "(code: "))
        ("get" ++ module.type ++ "Message") :=
      fun before => .behind before "export function " "(code: "
        (by simp only [String.append_assoc]) (by decide) (by decide)
    unfold ErrorsModule.source
    iterate 4 apply Declares.left
    exact hstart _
  intro name hname
  rcases List.mem_append.mp hname with hname | hname
  · obtain ⟨entry, hmem, rfl⟩ := List.mem_map.mp hname
    exact hconstant entry hmem
  · rcases List.mem_cons.mp hname with rfl | hname
    · exact htype
    · rw [List.mem_singleton.mp hname]
      exact hmessages

/-- **WHAT A MODULE EXPORTS IS DECLARED** in its text. -/
theorem Module.declares_exports (module : Module) :
    ∀ name ∈ module.exports, Declares module.text name := by
  have hsource : ∀ name ∈ module.exports, Declares module.source.text name := by
    cases module with
    | programs constant address =>
        refine List.forall_mem_singleton.mpr ?_
        iterate 6 apply Declares.left
        exact .start _ _ rfl (by decide) (by decide)
    | account module => exact declares_account module
    | instruction module => exact declares_instruction module
    | errors module => exact declares_errors module
    | type declaration => exact declares_declaration declaration
    | index children namespaced => exact fun _ hname => nomatch hname
  exact fun name hname => .right (hsource name hname)

end Package

end Bindery

/-! ## The modules of a program -/

namespace Bindery

open Package (Export exportNames)

/-- The exports of the modules of a program: the address, and those of its accounts, instructions,
    errors and types. -/
def Tree.exports (tree : Tree) (program : Program) : List Export :=
  [⟨.address, ""⟩] ++ program.accounts.flatMap Account.exports
    ++ program.instructions.flatMap Instruction.exports
    ++ Modules.ifAny program.errors program.errorExports
    ++ (tree.typesOf program).flatMap DefinedType.exports

namespace Modules

variable {M α β : Type} {target : Modules M} {tree : Tree} {program : Program}
  {files : List (ModuleFile M)}

/-! ## Modules of a part -/

/-- What the modules of a collection have is what its nodes have. -/
theorem collection_flatMap {directory : String} {nameOf : α → String}
    {build : α → Except RenderError M} {nodes : List α} {g : M → List β} {f : α → List β}
    (hindex : ∀ kind children, g (target.indexOf kind children) = [])
    (hbuild : ∀ a module, build a = .ok module → g module = f a)
    (h : target.collection directory nameOf build nodes = .ok files) :
    files.flatMap (fun file => g file.module) = nodes.flatMap f := by
  obtain ⟨built, hbuilt, h⟩ := bind_eq_ok.mp h
  rw [← pure_eq_ok.mp h, List.flatMap_append, List.flatMap_singleton]
  show built.flatMap _ ++ g (target.indexOf _ _) = _
  rw [hindex, List.append_nil]
  refine (flatMap_eq_of_forall₂ ((forall₂_of_mapM_eq_ok hbuilt).imp fun a file hfile => ?_)).symm
  obtain ⟨module, hmodule, hfile⟩ := bind_eq_ok.mp hfile
  rw [← pure_eq_ok.mp hfile]
  exact (hbuild a module hmodule).symm

/-- What the modules of a part have is what belongs to it if it is there. -/
theorem part_flatMap {name : String} {nodes : List α}
    {build : Except RenderError (List (ModuleFile M))} {found : List String × List (ModuleFile M)}
    {g : M → List β} {all : List β}
    (hbuild : ∀ files, build = .ok files → files.flatMap (fun file => g file.module) = all)
    (h : part name nodes build = .ok found) :
    found.2.flatMap (fun file => g file.module) = ifAny nodes all := by
  unfold part at h
  unfold ifAny
  split at h
  · next hempty => rw [← Except.ok.inj h, if_pos hempty]; rfl
  · next hany =>
      obtain ⟨files, hfiles, h⟩ := bind_eq_ok.mp h
      rw [← pure_eq_ok.mp h, if_neg hany]
      exact hbuild files hfiles

/-- If the part is a collection, it is what its nodes have. -/
theorem collectionPart_flatMap {name directory : String} {nameOf : α → String}
    {build : α → Except RenderError M} {nodes : List α}
    {found : List String × List (ModuleFile M)} {g : M → List β} {f : α → List β}
    (hindex : ∀ kind children, g (target.indexOf kind children) = [])
    (hbuild : ∀ a module, build a = .ok module → g module = f a)
    (h : part name nodes (target.collection directory nameOf build nodes) = .ok found) :
    found.2.flatMap (fun file => g file.module) = nodes.flatMap f := by
  rw [part_flatMap (fun _ => collection_flatMap hindex hbuild) h]
  cases nodes <;> rfl

/-! ## Modules of a program -/

/-- The directory of a program. -/
def homePath (target : Modules M) (tree : Tree) (program : Program) : String :=
  if tree.isNested then target.fileName program.name else ""

/-- The names of the directory of a program are those that lead to it. -/
theorem spells_homePath (hr : target.Regular) :
    FilePath.Spells (target.homePath tree program) (target.homeOf tree (some program)) := by
  unfold homePath homeOf
  split
  · exact spells_directoryOf hr program
  · exact FilePath.spells_nil

/-- The modules that are built for a program of a tree, with the names of its parts: they are
    among the files of the tree, and beside them is an index of the parts. -/
structure ProgramBuilt (target : Modules M) (tree : Tree) (program : Program)
    (files : List (ModuleFile M)) (parts : List String) (found : List (ModuleFile M)) : Prop where
  built : target.programFiles tree program (target.homePath tree program) = .ok (parts, found)
  mem : ∀ file ∈ found, file ∈ files
  index : target.indexIn (target.homePath tree program) .program parts ∈ files

/-- **THE MODULES OF A PROGRAM** are built where those of its tree are. -/
theorem exists_programBuilt (hp : program ∈ tree.programs) (h : target.files tree = .ok files) :
    ∃ parts found, target.ProgramBuilt tree program files parts found := by
  unfold Modules.files at h
  split at h
  · next hnested =>
      have hhome : target.homePath tree program = target.fileName program.name := if_pos hnested
      obtain ⟨built, hbuilt, h⟩ := bind_eq_ok.mp h
      obtain ⟨shared, -, h⟩ := bind_eq_ok.mp h
      obtain ⟨all, hall, hprogram⟩ :=
        exists_of_forall₂_left (forall₂_of_mapM_eq_ok hbuilt) hp
      obtain ⟨⟨parts, found⟩, hfound, hprogram⟩ := bind_eq_ok.mp hprogram
      have hmem : ∀ file ∈ all, file ∈ files := by
        intro file hfile
        rw [← pure_eq_ok.mp h]
        exact List.mem_append_left _ (List.mem_append_left _
          (List.mem_flatten.mpr ⟨all, hall, hfile⟩))
      rw [← pure_eq_ok.mp hprogram] at hmem
      exact ⟨parts, found, hhome ▸ hfound,
        fun file hfile => hmem file (List.mem_append_left _ hfile),
        hhome ▸ hmem _ (List.mem_append_right _ List.mem_cons_self)⟩
  · next hsingle =>
      have hhome : target.homePath tree program = "" := if_neg hsingle
      rw [primary?_of_mem hsingle hp] at h
      obtain ⟨⟨parts, found⟩, hfound, h⟩ := bind_eq_ok.mp h
      rw [← pure_eq_ok.mp h]
      exact ⟨parts, found, hhome ▸ hfound, fun file hfile => List.mem_append_left _ hfile,
        hhome ▸ List.mem_append_right _ List.mem_cons_self⟩

end Modules

namespace Package

variable {nested : Bool} {tree : Tree} {program : Program} {module : Module}

/-- The module that is built for an account exports what the account does, -/
theorem exports_account {account : Account}
    (h : (modules nested).account program account = .ok module) :
    module.exports = exportNames program account.exports := by
  obtain ⟨made, hmade, h⟩ := bind_eq_ok.mp h
  rw [← pure_eq_ok.mp h]
  exact AccountModule.exports_of hmade

/-- so does that of an instruction, -/
theorem exports_instruction {instruction : Instruction}
    (h : (modules nested).instruction program instruction = .ok module) :
    module.exports = exportNames program instruction.exports := by
  obtain ⟨made, hmade, h⟩ := bind_eq_ok.mp h
  rw [← pure_eq_ok.mp h]
  exact InstructionModule.exports_of hmade

/-- that of a defined type, -/
theorem exports_definedType {defined : DefinedType}
    (h : (modules nested).definedType (some program) defined = .ok module) :
    module.exports = exportNames program defined.exports := by
  obtain ⟨made, hmade, h⟩ := bind_eq_ok.mp h
  rw [← pure_eq_ok.mp h]
  exact Declaration.exports_of hmade

/-- and the one for errors. -/
theorem exports_errors {directory : String} {files : List (ModuleFile Module)}
    (h : ((modules nested).errors program >>= fun module =>
      pure [ModuleFile.mk ((modules nested).pathIn directory "errors") module]) = .ok files) :
    files.flatMap (·.module.exports) = exportNames program program.errorExports := by
  obtain ⟨module, hmodule, h⟩ := bind_eq_ok.mp h
  rw [← pure_eq_ok.mp h, List.flatMap_singleton, ← Except.ok.inj hmodule]
  exact ErrorsModule.exports_of

/-- **WHAT A PROGRAM EXPORTS**: its modules export what its nodes do. -/
theorem exports_programFiles {directory : String} {found : List String × List (ModuleFile Module)}
    (h : (modules nested).programFiles tree program directory = .ok found) :
    found.2.flatMap (·.module.exports) = exportNames program (tree.exports program) := by
  have hindex : ∀ kind children, ((modules nested).indexOf kind children).exports = [] :=
    fun _ _ => rfl
  obtain ⟨accounts, haccounts, h⟩ := bind_eq_ok.mp h
  obtain ⟨instructions, hinstructions, h⟩ := bind_eq_ok.mp h
  obtain ⟨errors, herrors, h⟩ := bind_eq_ok.mp h
  obtain ⟨types, htypes, h⟩ := bind_eq_ok.mp h
  have hconstants : ((modules nested).programs program).exports
      = exportNames program [⟨.address, ""⟩] := exports_programs
  have hany : Modules.ifAny program.errors (exportNames program program.errorExports)
      = exportNames program (Modules.ifAny program.errors program.errorExports) := by
    unfold Modules.ifAny
    split <;> rfl
  rw [← pure_eq_ok.mp h]
  simp only [List.flatMap_append, List.cons_append, List.flatMap_cons, hconstants,
    Modules.collectionPart_flatMap hindex (fun _ _ => exports_account) haccounts,
    Modules.collectionPart_flatMap hindex (fun _ _ => exports_instruction) hinstructions,
    Modules.part_flatMap (fun _ => exports_errors) herrors, hany,
    Modules.collectionPart_flatMap hindex (fun _ _ => exports_definedType) htypes]
  simp only [Tree.exports, exportNames, List.map_append, List.map_flatMap, List.append_assoc]

end Package

end Bindery
