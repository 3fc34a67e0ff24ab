import Bindery.Proofs.Exports.Modules
import Bindery.Proofs.Exports.Stems

/-! # Distinct exports — when no name is exported twice

    An index re-exports what its children declare: a child is the module of that
    name, or the index of the directory of that name, which re-exports again
    (`ReExports`).  From the index of a program one stays in the program's directory,
    and where the files of a tree are apart nothing else is in there.  So what the
    index leads to are the modules of the program, all of them and no others
    (`ReExports.mem_found`, `reExports_of_found`).

    Exports of a program have one name only if they are one export
    (`Export.name_injOn`), so its modules export distinct names exactly when its
    exports are distinct.  The index of the program re-exports all of these modules
    side by side, and therefore its names are clear exactly when accounts,
    instructions, errors and types are apart from each other
    (`exports_distinct_iff`).  They need not be: a program may have an account and a
    type of one name, and both are exported under it (`exists_ambiguous_export`). -/

namespace Bindery

open FilePath (Spells)

namespace Modules

variable {M : Type} {target : Modules M} {tree : Tree} {program : Program}

/-- The files of types are apart where all files are. -/
theorem Apart.types (h : target.Apart tree) : target.TypesApart tree where
  programs := fun program hp => (h.programs program hp).definedTypes
  sharedTypes := h.sharedTypes
  directories := h.directories

/-- What is planned in the directory of a program is planned for it. -/
theorem mem_indexedPlan_of_below (hapart : target.TypesApart tree) (hp : program ∈ tree.programs)
    {planned : Planned M} (h : planned ∈ target.plan tree) {below : List String} {last : String}
    (hnames : planned.names = target.homeOf tree (some program) ++ below ++ [last]) :
    planned ∈ target.indexedPlan tree program (target.homeOf tree (some program)) := by
  unfold plan at h
  split at h
  · next hnested =>
      have hdirectories := hapart.directories hnested
      have hbelow : ∀ {name : String}, [name] <+: planned.names →
          name = target.fileName program.name := by
        intro name hprefix
        rw [hnames, homeOf_nested hapart hnested hp] at hprefix
        exact (List.cons_prefix_cons.mp hprefix).1
      simp only [List.mem_append, List.mem_flatMap, List.mem_singleton, or_assoc] at h
      rcases h with ⟨other, hother, hmem⟩ | hmem | rfl
      · have hprefix : target.directoryOf other <+: planned.names :=
          prefix_of_mem_indexedPlan (List.mem_map_of_mem hmem)
        rw [directoryOf, if_neg (hdirectories.named other hother)] at hprefix
        obtain rfl : other = program :=
          List.inj_on_of_nodup_map hdirectories.distinct hother hp (hbelow hprefix)
        rwa [homeOf, if_pos hnested]
      · have hprefix : ["types"] <+: planned.names :=
          prefix_of_mem_collection (List.mem_map_of_mem hmem)
        exact absurd (hbelow hprefix).symm
          (hdirectories.notShared (mem_ifAny.mp hmem).1 program hp)
      · -- the index at the top is in no directory at all
        rw [homeOf_nested hapart hnested hp] at hnames
        have hlength := congrArg List.length hnames
        rw [List.length_append, List.length_append] at hlength
        exact absurd hlength (by simp [indexPlan, namesIn])
  · next hsingle =>
      rw [primary?_of_mem hsingle hp] at h
      rwa [homeOf, if_neg hsingle]

/-- What is planned for a program: its constants, and what belongs to its parts. -/
theorem mem_programPlan_iff {directory : List String} {planned : Planned M} :
    planned ∈ target.programPlan tree program directory
      ↔ planned = ⟨target.namesIn directory "programs", .ok (target.programs program)⟩
        ∨ planned ∈ ifAny program.accounts (target.collectionPlan (directory ++ ["accounts"])
            (·.name) (target.account program) program.accounts)
        ∨ planned ∈ ifAny program.instructions (target.collectionPlan
            (directory ++ ["instructions"]) (·.name) (target.instruction program)
            program.instructions)
        ∨ planned ∈ ifAny program.errors
            [⟨target.namesIn directory "errors", target.errors program⟩]
        ∨ planned ∈ ifAny (tree.typesOf program) (target.collectionPlan (directory ++ ["types"])
            (·.name) (target.definedType (some program)) (tree.typesOf program)) := by
  simp only [programPlan, typePlan, List.mem_append, List.mem_cons, List.cons_append, or_assoc]

/-- The parts of a program are those with nodes. -/
theorem mem_partsOf_iff {part : String} :
    part ∈ partsOf tree program
      ↔ part = "programs" ∨ (program.accounts ≠ [] ∧ part = "accounts")
        ∨ (program.instructions ≠ [] ∧ part = "instructions")
        ∨ (program.errors ≠ [] ∧ part = "errors")
        ∨ (tree.typesOf program ≠ [] ∧ part = "types") := by
  simp only [partsOf, List.mem_append, List.mem_cons, List.cons_append, or_assoc, mem_ifAny,
    List.not_mem_nil, or_false]

end Modules

namespace Package

/-! ## Indexes and what they lead to -/

/-- A module that is an index. -/
def Module.IsIndex (module : Module) : Prop :=
  ∃ children namespaced, module = .index children namespaced

/-- The names that lead to a module in a directory. -/
def namesIn (directory : List String) (name : String) : List String := directory ++ [name ++ ".ts"]

variable (files : List (ModuleFile Module)) (directory : List String)

/-- The index of a directory re-exports what a child declares. -/
def Lists (child : String) : Prop :=
  ∃ index ∈ files, Spells index.path (namesIn directory "index")
    ∧ ∃ children, index.module = .index children false ∧ child ∈ children

/-- The directories whose indexes are re-exported by that of a directory, or by one of those. -/
inductive Reaches : List String → Prop
  | start : Reaches directory
  | child {reached : List String} {child : String} (h : Reaches reached)
      (hlists : Lists files reached child) : Reaches (reached ++ [child])

/-- The modules that the index of a directory re-exports, itself or through other indexes. -/
structure ReExports (file : ModuleFile Module) : Prop where
  mem : file ∈ files
  notIndex : ¬ file.module.IsIndex
  listed : ∃ reached child, Reaches files directory reached ∧ Lists files reached child
    ∧ Spells file.path (namesIn reached child)

variable {files directory}

/-- Directories that are reached are below the one that they are reached from. -/
theorem Reaches.exists_below {reached : List String} (h : Reaches files directory reached) :
    ∃ below, reached = directory ++ below := by
  induction h with
  | start => exact ⟨[], (List.append_nil directory).symm⟩
  | @child reached child _ _ ih =>
      obtain ⟨below, rfl⟩ := ih
      exact ⟨below ++ [child], List.append_assoc directory below [child]⟩

/-! ## The modules of a program -/

/-- The names that lead to the directory of a program. -/
abbrev home (tree : Tree) (program : Program) : List String :=
  (modules tree.isNested).homeOf tree (some program)

section Program

variable {tree : Tree} {program : Program} {parts : List String}
  {found : List (ModuleFile Module)} {file : ModuleFile Module}
  (hbuilt : (modules tree.isNested).ProgramBuilt tree program files parts found)

include hbuilt

/-- The modules of a program and its index are built as planned for it. -/
theorem indexed_builtAs :
    List.Forall₂ Planned.BuiltAs ((modules tree.isNested).indexedPlan tree program
      (home tree program))
      (found ++ [(modules tree.isNested).indexIn ((modules tree.isNested).homePath tree program)
        .program parts]) := by
  have hr := modules_regular tree.isNested
  have hindexed := Modules.indexed_builtAs hr (Modules.spells_homePath hr) hbuilt.built
  exact hindexed

/-- **NO OTHER MODULES**: where the files of a tree are apart, what the index of a program leads to
    are modules of the program. -/
theorem ReExports.mem_found (hp : program ∈ tree.programs) (hfiles : Package.files tree = .ok files)
    (hapart : (modules tree.isNested).Apart tree)
    (h : ReExports files (home tree program) file) :
    file ∈ found := by
  have hr := modules_regular tree.isNested
  have hplan := Modules.files_builtAs hr hfiles
  obtain ⟨hmem, hnotIndex, reached, child, hreached, -, hpath⟩ := h
  obtain ⟨below, rfl⟩ := hreached.exists_below
  obtain ⟨planned, hplanned, hfile⟩ := exists_of_forall₂_right hplan hmem
  have hmine := Modules.mem_indexedPlan_of_below hapart.types hp hplanned
    (hfile.path.names_eq hpath)
  obtain ⟨other, hother, hfile'⟩ := exists_of_forall₂_left (indexed_builtAs hbuilt) hmine
  have hsame : other ∈ files → file = other := by
    intro hother
    have hsteps := (Modules.nodup_steps_iff hr hfiles).mpr hapart
    refine List.inj_on_of_nodup_map hsteps hmem hother ?_
    rw [hfile.path.text, hfile'.path.text]
  rcases List.mem_append.mp hother with hother | hother
  · rw [hsame (hbuilt.mem other hother)]
    exact hother
  · obtain rfl := List.mem_singleton.mp hother
    exact absurd ⟨parts, false, congrArg (·.module) (hsame hbuilt.index)⟩ hnotIndex

/-- The index of a program re-exports what its parts declare. -/
theorem lists_part {part : String} (hpart : part ∈ Modules.partsOf tree program) :
    Lists files (home tree program) part := by
  have hr := modules_regular tree.isNested
  have hparts : parts = Modules.partsOf tree program := Modules.programFiles_fst hbuilt.built
  exact ⟨_, hbuilt.index, Modules.spells_pathIn hr (Modules.spells_homePath hr) hr.index, parts,
    rfl, hparts ▸ hpart⟩

/-- The modules of a part that is a collection are re-exported by its index. -/
theorem reExports_of_collection {α : Type} {part : String} {nameOf : α → String}
    {build : α → Except RenderError Module} {nodes : List α} {planned : Planned Module}
    (hpart : nodes ≠ [] → part ∈ Modules.partsOf tree program)
    (hpartPlan : ∀ planned ∈ Modules.ifAny nodes ((modules tree.isNested).collectionPlan
      (home tree program ++ [part]) nameOf build nodes),
        planned ∈ (modules tree.isNested).programPlan tree program
          (home tree program))
    (hmem : file ∈ found) (hnotIndex : ¬ file.module.IsIndex)
    (hplanned : planned ∈ Modules.ifAny nodes ((modules tree.isNested).collectionPlan
      (home tree program ++ [part]) nameOf build nodes))
    (hfile : planned.BuiltAs file) :
    ReExports files (home tree program) file := by
  have hr := modules_regular tree.isNested
  obtain ⟨hany, hplanned⟩ := Modules.mem_ifAny.mp hplanned
  obtain ⟨index, hindex, hindexBuilt⟩ := exists_of_forall₂_left
    (Modules.programFiles_builtAs hr (Modules.spells_homePath hr) hbuilt.built)
    (hpartPlan _ (Modules.mem_ifAny.mpr ⟨hany, List.mem_append_right _ List.mem_cons_self⟩))
  rcases List.mem_append.mp hplanned with hnodePlan | hindexPlan
  · obtain ⟨node, hnode, rfl⟩ := List.mem_map.mp hnodePlan
    have hlists : Lists files (home tree program ++ [part])
        (Text.camelCase (nameOf node)) :=
      ⟨index, hbuilt.mem index hindex, hindexBuilt.path, _,
        (Except.ok.inj hindexBuilt.module).symm, List.mem_map.mpr ⟨node, hnode, rfl⟩⟩
    exact ⟨hbuilt.mem file hmem, hnotIndex, _, _, .child .start (lists_part hbuilt (hpart hany)),
      hlists, hfile.path⟩
  · rw [List.mem_singleton.mp hindexPlan] at hfile
    exact absurd ⟨_, _, (Except.ok.inj hfile.module).symm⟩ hnotIndex

/-- **ALL MODULES**: the index of a program leads to every module of the program. -/
theorem reExports_of_found (hmem : file ∈ found) (hnotIndex : ¬ file.module.IsIndex) :
    ReExports files (home tree program) file := by
  have hr := modules_regular tree.isNested
  have hself : ∀ {name : String}, name ∈ Modules.partsOf tree program →
      Spells file.path ((modules tree.isNested).namesIn (home tree program) name) →
        ReExports files (home tree program) file :=
    fun hname hpath => ⟨hbuilt.mem file hmem, hnotIndex, _, _, .start, lists_part hbuilt hname,
      hpath⟩
  obtain ⟨planned, hplanned, hfile⟩ := exists_of_forall₂_right
    (Modules.programFiles_builtAs hr (Modules.spells_homePath hr) hbuilt.built) hmem
  rcases Modules.mem_programPlan_iff.mp hplanned with rfl | h | h | h | h
  · exact hself (Modules.mem_partsOf_iff.mpr (.inl rfl)) hfile.path
  · exact reExports_of_collection hbuilt
      (fun hany => Modules.mem_partsOf_iff.mpr (.inr (.inl ⟨hany, rfl⟩)))
      (fun _ h => Modules.mem_programPlan_iff.mpr (.inr (.inl h))) hmem hnotIndex h hfile
  · exact reExports_of_collection hbuilt
      (fun hany => Modules.mem_partsOf_iff.mpr (.inr (.inr (.inl ⟨hany, rfl⟩))))
      (fun _ h => Modules.mem_programPlan_iff.mpr (.inr (.inr (.inl h)))) hmem hnotIndex h hfile
  · -- errors are a part with one module, which the index of the program lists itself
    obtain ⟨hany, h⟩ := Modules.mem_ifAny.mp h
    obtain rfl := List.mem_singleton.mp h
    exact hself (Modules.mem_partsOf_iff.mpr (.inr (.inr (.inr (.inl ⟨hany, rfl⟩))))) hfile.path
  · exact reExports_of_collection hbuilt
      (fun hany => Modules.mem_partsOf_iff.mpr (.inr (.inr (.inr (.inr ⟨hany, rfl⟩)))))
      (fun _ h => Modules.mem_programPlan_iff.mpr (.inr (.inr (.inr (.inr h))))) hmem hnotIndex h
      hfile

end Program

end Package

open Package (Export exportNames)

/-! ## Names of a program -/

/-- The exports of an account have stems in the case for their kind, -/
theorem Account.regular_exports (account : Account) : ∀ e ∈ account.exports, e.Regular := by
  have hname := Text.capital_upperCamelCase account.name
  intro e he
  simp only [Account.exports, List.mem_append, List.mem_map, List.mem_cons, List.not_mem_nil,
    or_false] at he
  rcases he with (⟨_, -, rfl⟩ | rfl | rfl | rfl) | ⟨_, -, rfl⟩
  · exact Export.shouty_shoutyCase account.name
  all_goals exact hname

/-- those of an instruction too, -/
theorem Instruction.regular_exports (instruction : Instruction) :
    ∀ e ∈ instruction.exports, e.Regular := by
  have hname := Text.capital_upperCamelCase instruction.name
  have hdata := hname.append (by decide : Text.Capital "InstructionData")
  have hinput := hname.append (by decide : Text.Capital "Input")
  intro e he
  simp only [Instruction.exports, List.mem_append, List.mem_map, List.mem_cons, List.not_mem_nil,
    or_false] at he
  rcases he with ⟨_, -, rfl⟩ | rfl | rfl | rfl | rfl
  · exact Export.shouty_shoutyCase instruction.name
  · exact hdata
  · exact hdata
  · exact hinput
  · exact hname

/-- those of a defined type, -/
theorem DefinedType.regular_exports (defined : DefinedType) : ∀ e ∈ defined.exports, e.Regular := by
  have hname := Text.capital_upperCamelCase defined.name
  exact List.forall_mem_cons.mpr ⟨hname, List.forall_mem_singleton.mpr hname⟩

/-- and those for errors. -/
theorem Program.regular_errorExports (program : Program) :
    ∀ e ∈ program.errorExports, e.Regular := by
  have hname := (Text.capital_upperCamelCase program.name).append
    (by decide : Text.Capital "Error")
  refine List.forall_mem_append.mpr ⟨List.forall_mem_map.mpr fun _ _ => trivial, ?_⟩
  exact List.forall_mem_cons.mpr ⟨hname, List.forall_mem_singleton.mpr hname⟩

/-- So do all exports of a program. -/
theorem Tree.regular_exports (tree : Tree) (program : Program) :
    ∀ e ∈ tree.exports program, e.Regular := by
  intro e he
  simp only [Tree.exports, List.mem_append, List.mem_singleton, List.mem_flatMap,
    Modules.mem_ifAny] at he
  rcases he with (((rfl | ⟨account, -, he⟩) | ⟨instruction, -, he⟩) | ⟨-, he⟩) | ⟨defined, -, he⟩
  · exact (rfl : ("" : String) = "")
  · exact account.regular_exports e he
  · exact instruction.regular_exports e he
  · exact program.regular_errorExports e he
  · exact defined.regular_exports e he

/-- **NAMES FOR EXPORTS**: the names of a program's exports are distinct exactly when the exports
    are. -/
theorem Tree.nodup_exportNames_iff {tree : Tree} {program : Program} :
    (exportNames program (tree.exports program)).Nodup ↔ (tree.exports program).Nodup := by
  refine ⟨List.Nodup.of_map _, List.Nodup.map_on fun a ha b hb heq => ?_⟩
  exact Export.name_injOn (Export.shouty_shoutyCase program.name)
    (tree.regular_exports program a ha) (tree.regular_exports program b hb) heq

namespace Package

/-- An index exports nothing of its own. -/
theorem Module.not_isIndex {module : Module} {name : String} (h : name ∈ module.exports) :
    ¬ module.IsIndex := by
  rintro ⟨children, namespaced, rfl⟩
  exact nomatch h

/-- What becomes of the exports of a program among the files of its tree: they are declared in the
    texts of its modules, the index of the program leads to these modules and no others, and they
    have distinct names exactly when they are apart across the collections of the program. -/
structure Exported (tree : Tree) (program : Program) (files found : List (ModuleFile Module)) :
    Prop where
  declared : ∀ file ∈ found, ∀ name ∈ file.module.exports, Declares (textOf file.module) name
  reached : (modules tree.isNested).Apart tree → ∀ file,
    ReExports files (home tree program) file ↔ file ∈ found ∧ ¬ file.module.IsIndex
  distinct : (found.flatMap (·.module.exports)).Nodup ↔ tree.ExportsApart program

end Package

/-- **DISTINCT EXPORTS**: if the accounts, the instructions and the types of a program are each
    told apart by their cased names, the modules of the package that are built for the program
    export distinct names exactly when its exports are apart across these collections. -/
theorem exports_distinct_iff {tree : Tree} {options : RenderOptions} {artifacts : Artifacts}
    (h : Package.render tree options = .ok artifacts) {program : Program}
    (hp : program ∈ tree.programs) (hnames : tree.NamesApart program) :
    ∃ files parts found, Package.files tree = .ok files
      ∧ artifacts = Artifacts.ofFiles (files.map (ModuleFile.written Package.textOf))
      ∧ (Package.modules tree.isNested).ProgramBuilt tree program files parts found
      ∧ Package.Exported tree program files found := by
  obtain ⟨files, hfiles, hartifacts⟩ := Package.render_eq_ok h
  obtain ⟨parts, found, hbuilt⟩ := Modules.exists_programBuilt hp hfiles
  refine ⟨files, parts, found, hfiles, hartifacts, hbuilt, ⟨?_, ?_, ?_⟩⟩
  · intro file _ name hname
    exact .right (file.module.declares_exports name hname)
  · intro hapart file
    exact ⟨fun hfile => ⟨hfile.mem_found hbuilt hp hfiles hapart, hfile.notIndex⟩,
      fun ⟨hmem, hnotIndex⟩ => Package.reExports_of_found hbuilt hmem hnotIndex⟩
  · have hexports := Package.exports_programFiles hbuilt.built
    rw [hexports, Tree.nodup_exportNames_iff, Tree.nodup_exports_iff hnames]

theorem exports_distinct_iff_bank : ∃ program files parts found artifacts,
    bankTree.programs = [program] ∧ bankTree.NamesApart program
      ∧ Package.render bankTree ⟨false, SortedMap.empty⟩ = .ok artifacts
      ∧ (Package.modules false).ProgramBuilt bankTree program files parts found
      ∧ (∀ file, Package.ReExports files (Package.home bankTree program) file
        ↔ file ∈ found ∧ ¬ file.module.IsIndex)
      ∧ (found.flatMap (·.module.exports)).Nodup := by
  have hnames : bankTree.NamesApart bankTree.programs[0] :=
    ⟨⟨by decide +kernel, by decide +kernel⟩, ⟨by decide +kernel, by decide +kernel⟩,
      ⟨by decide +kernel, by decide +kernel⟩⟩
  have hexports : bankTree.ExportsApart bankTree.programs[0] :=
    ⟨by decide +kernel, by decide +kernel, by decide +kernel, by decide +kernel⟩
  have hapart : (Package.modules false).Apart bankTree := by decide +kernel
  obtain ⟨artifacts, hrender⟩ : ∃ artifacts,
      Package.render bankTree ⟨false, SortedMap.empty⟩ = .ok artifacts :=
    exists_ok_of_isSome (by decide +kernel)
  obtain ⟨files, parts, found, -, -, hbuilt, hexported⟩ :=
    exports_distinct_iff hrender List.mem_cons_self hnames
  exact ⟨_, files, parts, found, artifacts, rfl, hnames, hrender, hbuilt,
    hexported.reached hapart, hexported.distinct.mpr hexports⟩

/-! ## A name that is exported twice -/

/-- An interface with an account whose layout is the type of its name. -/
def sharedLayout : Document where
  label := "bank"
  text := String.join [
    "\x7b\"name\":\"bank\",\"address\":\"B\",\"accounts\":[\x7b\"name\":\"Vault\"\x7d],",
    "\"types\":[\x7b\"name\":\"Vault\",\"type\":\x7b\"kind\":\"struct\",\"fields\":[",
    "\x7b\"name\":\"bump\",\"type\":\"u8\"\x7d]\x7d\x7d],",
    "\"instructions\":[]\x7d"]

/-- The tree of that interface. -/
def sharedLayoutTree : Tree where
  programs := [
    { name := "bank", publicKey := "B", version := "", docs := []
      accounts := [⟨"Vault", [], [⟨"bump", .number .u8, []⟩], none, none⟩]
      instructions := []
      definedTypes := [⟨"Vault", .struct [⟨"bump", .number .u8, []⟩], []⟩]
      errors := [] }]
  sharedTypes := []

/-- The interface loads. -/
theorem load_sharedLayout : Tree.load [sharedLayout] = .ok sharedLayoutTree := by
  refine load_singleton ?_
  rw [documentProgram_eq String.toList_join]
  decide +kernel

/-- **AN AMBIGUOUS NAME**: the accounts, instructions and types of the interface are each told
    apart and it is rendered, but the index of the program leads to two modules that export the
    same name. -/
theorem exists_ambiguous_export : ∃ program files artifacts,
    Tree.load [sharedLayout] = .ok sharedLayoutTree
      ∧ sharedLayoutTree.programs = [program] ∧ sharedLayoutTree.NamesApart program
      ∧ Package.render sharedLayoutTree ⟨false, SortedMap.empty⟩ = .ok artifacts
      ∧ Package.files sharedLayoutTree = .ok files
      ∧ ∃ file file', file.path ≠ file'.path
        ∧ Package.ReExports files (Package.home sharedLayoutTree program) file
        ∧ Package.ReExports files (Package.home sharedLayoutTree program) file'
        ∧ "Vault" ∈ file.module.exports ∧ "Vault" ∈ file'.module.exports := by
  have hnames : sharedLayoutTree.NamesApart sharedLayoutTree.programs[0] :=
    ⟨⟨by decide +kernel, by decide +kernel⟩, ⟨by decide +kernel, by decide +kernel⟩,
      ⟨by decide +kernel, by decide +kernel⟩⟩
  obtain ⟨artifacts, hrender⟩ : ∃ artifacts,
      Package.render sharedLayoutTree ⟨false, SortedMap.empty⟩ = .ok artifacts :=
    exists_ok_of_isSome (by decide +kernel)
  have hany : (((Package.modules false).programFiles sharedLayoutTree
      sharedLayoutTree.programs[0] "").toOption.any fun found => decide (
        ∃ file ∈ found.2, ∃ file' ∈ found.2, file.path ≠ file'.path
          ∧ "Vault" ∈ file.module.exports ∧ "Vault" ∈ file'.module.exports)) = true := by
    decide +kernel
  obtain ⟨⟨parts, found⟩, hfound, htwice⟩ := exists_ok_of_any hany
  obtain ⟨file, hmem, file', hmem', hne, hname, hname'⟩ := of_decide_eq_true htwice
  obtain ⟨files, hfiles, -⟩ := Package.render_eq_ok hrender
  have hp : sharedLayoutTree.programs[0] ∈ sharedLayoutTree.programs := List.mem_cons_self
  obtain ⟨parts', found', hbuilt⟩ := Modules.exists_programBuilt hp hfiles
  obtain ⟨rfl, rfl⟩ : parts = parts' ∧ found = found' :=
    Prod.mk.inj (Except.ok.inj (hfound.symm.trans hbuilt.built))
  exact ⟨_, files, artifacts, load_sharedLayout, rfl, hnames, hrender, hfiles, file, file', hne,
    Package.reExports_of_found hbuilt hmem (Package.Module.not_isIndex hname),
    Package.reExports_of_found hbuilt hmem' (Package.Module.not_isIndex hname'), hname, hname'⟩

end Bindery
