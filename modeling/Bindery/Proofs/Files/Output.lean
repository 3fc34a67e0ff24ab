import Bindery.Crate.Render
import Bindery.Package.Render
import Bindery.Proofs.Files.Apart
import Bindery.Proofs.Files.Kept
import Bindery.Proofs.Loading

/-! # Outputs — which modules of a tree are kept

    The crate and the package name the files of nodes in snake case and in camel
    case, so both are regular (`Crate.modules_regular`, `Package.modules_regular`),
    and what is built becomes files as planned.  Since a file goes over any other of
    its path, there is a file for each module exactly when the files of the tree are
    apart, and then each module is under its own path (`render_lossless_iff`).

    Names that are distinct in a program need not be apart: the accounts `Vault` and
    `vault` have one file, and the first of them is lost
    (`exists_module_lost`). -/

namespace Bindery

variable {M : Type} {target : Modules M} {tree : Tree} {files : List (ModuleFile M)}

/-- A file as it is put: its path, and the text of its module. -/
def ModuleFile.written (textOf : M → String) (file : ModuleFile M) : String × String :=
  (file.path, textOf file.module)

/-- Files that keep all modules: these have different paths, and under each is the text of its
    own module. -/
structure Artifacts.Keeps (artifacts : Artifacts) (files : List (ModuleFile M))
    (textOf : M → String) : Prop where
  distinct : (files.map (·.path)).Nodup
  contents : ∀ file ∈ files,
    artifacts.get? (FilePath.steps file.path) = some ⟨file.path, textOf file.module⟩

namespace Modules

/-- Files that are as planned have the steps of the names that are planned. -/
theorem steps_of_builtAs {plan : List (Planned M)}
    (h : List.Forall₂ Planned.BuiltAs plan files) :
    files.map (fun file => FilePath.steps file.path)
      = (namesOf plan).map (List.map FilePath.Step.name) := by
  rw [namesOf, List.map_map]
  exact (map_eq_map_iff_forall₂.mpr (h.imp fun planned file hfile => hfile.path.steps.symm)).symm

/-- The files of a tree have different steps exactly when they are apart. -/
theorem nodup_steps_iff (hr : target.Regular) (h : target.files tree = .ok files) :
    (files.map fun file => FilePath.steps file.path).Nodup ↔ target.Apart tree := by
  have hname : Function.Injective FilePath.Step.name := fun a b heq => FilePath.Step.name.inj heq
  rw [steps_of_builtAs (files_builtAs hr h), List.nodup_map_iff hname.list_map, nodup_plan_iff hr]

/-- **EACH MODULE A FILE**: the files of a tree are as many as its modules exactly when they are
    apart, and then they keep all modules. -/
theorem ofFiles_lossless_iff (hr : target.Regular) (h : target.files tree = .ok files)
    (textOf : M → String) {artifacts : Artifacts}
    (hartifacts : artifacts = Artifacts.ofFiles (files.map (ModuleFile.written textOf))) :
    (artifacts.entries.length = files.length ↔ target.Apart tree)
      ∧ (target.Apart tree → artifacts.Keeps files textOf) := by
  have hsteps : Artifacts.stepsOf (files.map (ModuleFile.written textOf))
      = files.map fun file => FilePath.steps file.path := List.map_map
  have hiff := nodup_steps_iff hr h
  subst hartifacts
  refine ⟨?_, fun hapart => ⟨?_, fun file hmem => ?_⟩⟩
  · rw [← hiff, ← hsteps, ← Artifacts.length_ofFiles_iff, List.length_map]
  · refine List.Nodup.of_map FilePath.steps ?_
    rw [List.map_map]
    exact hiff.mpr hapart
  · have hdistinct : (Artifacts.stepsOf (files.map (ModuleFile.written textOf))).Nodup :=
      hsteps ▸ hiff.mpr hapart
    have hwritten : file.written textOf ∈ files.map (ModuleFile.written textOf) :=
      List.mem_map_of_mem hmem
    have hfound := Artifacts.get?_ofFiles hdistinct hwritten
    exact hfound

end Modules

/-- The crate is regular. -/
theorem Crate.modules_regular (nested : Bool) : (Crate.modules nested).Regular where
  fileName := Text.plain_snakeCase
  index := show Text.Plain "mod" by decide
  notPrograms := show "mod" ≠ "programs" by decide
  notErrors := show "mod" ≠ "errors" by decide
  ending := show FilePath.Ending ".rs" from ⟨by decide, by decide, by decide⟩

/-- The package is regular. -/
theorem Package.modules_regular (nested : Bool) : (Package.modules nested).Regular where
  fileName := Text.plain_camelCase
  index := show Text.Plain "index" by decide
  notPrograms := show "index" ≠ "programs" by decide
  notErrors := show "index" ≠ "errors" by decide
  ending := show FilePath.Ending ".ts" from ⟨by decide, by decide, by decide⟩

variable {options : RenderOptions} {artifacts : Artifacts}

/-- The files of the crate are those of its modules. -/
theorem Crate.render_eq_ok (h : Crate.render tree options = .ok artifacts) :
    ∃ mount files, Crate.mountOf options = .ok mount ∧ Crate.files tree = .ok files
      ∧ artifacts = Artifacts.ofFiles (files.map
        (ModuleFile.written (Crate.textOf mount options.formatCode))) := by
  obtain ⟨-, -, h⟩ := bind_eq_ok.mp h
  obtain ⟨mount, hmount, h⟩ := bind_eq_ok.mp h
  obtain ⟨files, hfiles, h⟩ := bind_eq_ok.mp h
  refine ⟨mount, files, hmount, hfiles, ?_⟩
  split at h
  · split at h
    · exact nomatch h
    · exact (pure_eq_ok.mp h).symm
  · exact (pure_eq_ok.mp h).symm

/-- The files of the package are those of its modules. -/
theorem Package.render_eq_ok (h : Package.render tree options = .ok artifacts) :
    ∃ files, Package.files tree = .ok files
      ∧ artifacts = Artifacts.ofFiles (files.map (ModuleFile.written Package.textOf)) := by
  obtain ⟨-, -, h⟩ := bind_eq_ok.mp h
  obtain ⟨-, -, h⟩ := bind_eq_ok.mp h
  obtain ⟨files, hfiles, h⟩ := bind_eq_ok.mp h
  exact ⟨files, hfiles, (pure_eq_ok.mp h).symm⟩

/-- What becomes of the modules of a tree for a target: they are built as planned, the files are
    as many exactly when those of the tree are apart, and then all modules are kept. -/
structure Modules.Output (target : Modules M) (tree : Tree) (textOf : M → String)
    (files : List (ModuleFile M)) (artifacts : Artifacts) : Prop where
  built : target.files tree = .ok files
  planned : List.Forall₂ Planned.BuiltAs (target.plan tree) files
  lossless : artifacts.entries.length = files.length ↔ target.Apart tree
  kept : target.Apart tree → artifacts.Keeps files textOf

/-- Modules that are put with their texts have such an output. -/
theorem Modules.Regular.output (hr : target.Regular) (h : target.files tree = .ok files)
    {textOf : M → String} {artifacts : Artifacts}
    (hartifacts : artifacts = Artifacts.ofFiles (files.map (ModuleFile.written textOf))) :
    target.Output tree textOf files artifacts := by
  obtain ⟨hlossless, hkept⟩ := Modules.ofFiles_lossless_iff hr h textOf hartifacts
  exact ⟨h, Modules.files_builtAs hr h, hlossless, hkept⟩

/-- **NO MODULE LOST**: what is rendered has as many files as modules, in the crate and in the
    package, exactly when the files of the tree are apart there.  Then each module has a path of
    its own, and is found under it with its own contents. -/
theorem render_lossless_iff (tree : Tree) (options : RenderOptions) :
    (∀ inCrate, Crate.render tree options = .ok inCrate → ∃ mount files,
        Crate.mountOf options = .ok mount ∧ (Crate.modules tree.isNested).Output tree
          (Crate.textOf mount options.formatCode) files inCrate)
      ∧ ∀ inPackage, Package.render tree options = .ok inPackage → ∃ files,
        (Package.modules tree.isNested).Output tree Package.textOf files inPackage := by
  constructor
  · intro inCrate h
    obtain ⟨mount, files, hmount, hfiles, hartifacts⟩ := Crate.render_eq_ok h
    exact ⟨mount, files, hmount, (Crate.modules_regular _).output hfiles hartifacts⟩
  · intro inPackage h
    obtain ⟨files, hfiles, hartifacts⟩ := Package.render_eq_ok h
    exact ⟨files, (Package.modules_regular _).output hfiles hartifacts⟩

theorem render_lossless_iff_bank : ∃ mount built inCrate built' inPackage,
    Crate.render bankTree ⟨false, SortedMap.empty⟩ = .ok inCrate
      ∧ inCrate.Keeps built (Crate.textOf mount false)
      ∧ Package.render bankTree ⟨false, SortedMap.empty⟩ = .ok inPackage
      ∧ inPackage.Keeps built' Package.textOf := by
  obtain ⟨inCrate, hcrate⟩ : ∃ inCrate,
      Crate.render bankTree ⟨false, SortedMap.empty⟩ = .ok inCrate :=
    exists_ok_of_isSome (by decide +kernel)
  obtain ⟨inPackage, hpackage⟩ : ∃ inPackage,
      Package.render bankTree ⟨false, SortedMap.empty⟩ = .ok inPackage :=
    exists_ok_of_isSome (by decide +kernel)
  have hlossless := render_lossless_iff bankTree ⟨false, SortedMap.empty⟩
  obtain ⟨mount, built, -, houtput⟩ := hlossless.1 inCrate hcrate
  obtain ⟨built', houtput'⟩ := hlossless.2 inPackage hpackage
  exact ⟨mount, built, inCrate, built', inPackage, hcrate, houtput.kept (by decide +kernel),
    hpackage, houtput'.kept (by decide +kernel)⟩

/-! ## A module that is lost -/

/-- An interface with accounts `Vault` and `vault`. -/
def vaults : Document where
  label := "bank"
  text := String.join [
    "\x7b\"name\":\"bank\",\"address\":\"B\",\"accounts\":[",
    "\x7b\"name\":\"Vault\",\"type\":\x7b\"kind\":\"struct\",\"fields\":[",
    "\x7b\"name\":\"a\",\"type\":\"u8\"\x7d]\x7d\x7d,",
    "\x7b\"name\":\"vault\",\"type\":\x7b\"kind\":\"struct\",\"fields\":[",
    "\x7b\"name\":\"b\",\"type\":\"bool\"\x7d]\x7d\x7d],",
    "\"instructions\":[]\x7d"]

/-- The tree of that interface. -/
def vaultsTree : Tree where
  programs := [
    { name := "bank", publicKey := "B", version := "", docs := []
      accounts := [⟨"Vault", [], [⟨"a", .number .u8, []⟩], none, none⟩,
        ⟨"vault", [], [⟨"b", .boolean, []⟩], none, none⟩]
      instructions := [], definedTypes := [], errors := [] }]
  sharedTypes := []

/-- The interface loads. -/
theorem load_vaults : Tree.load [vaults] = .ok vaultsTree := by
  refine load_singleton ?_
  rw [documentProgram_eq String.toList_join]
  decide +kernel

/-- **A LOSS**: the interface is rendered, five modules are built, and there are four files. -/
theorem exists_module_lost :
    Tree.load [vaults] = .ok vaultsTree
      ∧ (∃ built inCrate, Crate.files vaultsTree = .ok built
        ∧ Crate.render vaultsTree ⟨false, SortedMap.empty⟩ = .ok inCrate
        ∧ built.length = 5 ∧ inCrate.entries.length = 4)
      ∧ ∃ built inPackage, Package.files vaultsTree = .ok built
        ∧ Package.render vaultsTree ⟨false, SortedMap.empty⟩ = .ok inPackage
        ∧ built.length = 5 ∧ inPackage.entries.length = 4 := by
  obtain ⟨built, hbuilt, hmodules⟩ : ∃ built, Crate.files vaultsTree = .ok built
      ∧ decide (built.length = 5) = true := exists_ok_of_any (by decide +kernel)
  obtain ⟨inCrate, hcrate, hfiles⟩ : ∃ inCrate,
      Crate.render vaultsTree ⟨false, SortedMap.empty⟩ = .ok inCrate
        ∧ decide (inCrate.entries.length = 4) = true := exists_ok_of_any (by decide +kernel)
  obtain ⟨built', hbuilt', hmodules'⟩ : ∃ built, Package.files vaultsTree = .ok built
      ∧ decide (built.length = 5) = true := exists_ok_of_any (by decide +kernel)
  obtain ⟨inPackage, hpackage, hfiles'⟩ : ∃ inPackage,
      Package.render vaultsTree ⟨false, SortedMap.empty⟩ = .ok inPackage
        ∧ decide (inPackage.entries.length = 4) = true := exists_ok_of_any (by decide +kernel)
  exact ⟨load_vaults,
    ⟨built, inCrate, hbuilt, hcrate, of_decide_eq_true hmodules, of_decide_eq_true hfiles⟩,
    ⟨built', inPackage, hbuilt', hpackage, of_decide_eq_true hmodules',
      of_decide_eq_true hfiles'⟩⟩

end Bindery
