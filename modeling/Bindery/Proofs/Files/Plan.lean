import Bindery.Proofs.Except
import Bindery.Proofs.Files.Names
import Bindery.Render.Layout

/-! # Plans — which modules a tree has, and where

    A plan lists the modules of a tree in the order in which they are built: for
    each the names that lead to its file, and how it is built.  It depends on the
    tree and the target alone.  Where the names of files are plain, the modules
    that are built are those of the plan, each under the names that are planned
    for it (`files_builtAs`).  Whatever the names, they are built in the order of
    the plan (`files_modules`), so that they fail with the first module that
    cannot be built (`files_eq_error_iff`). -/

namespace Bindery

variable {M α : Type}

/-- A module that is planned: the names that lead to its file, and how it is built. -/
structure Planned (M : Type) where
  names : List String
  build : Except RenderError M

/-- A file that is as planned: its path has the names, and it holds the module. -/
structure Planned.BuiltAs (planned : Planned M) (file : ModuleFile M) : Prop where
  path : FilePath.Spells file.path planned.names
  module : planned.build = .ok file.module

namespace Modules

/-- A target that gives plain names to files, one to its index that no other file of a program
    has, and to all files the same ending. -/
structure Regular (target : Modules M) : Prop where
  fileName : ∀ name, Text.Plain (target.fileName name)
  index : Text.Plain target.index
  notPrograms : target.index ≠ "programs"
  notErrors : target.index ≠ "errors"
  ending : FilePath.Ending target.ending

variable (target : Modules M)

/-- The names that lead to a file in a directory. -/
def namesIn (directory : List String) (name : String) : List String :=
  directory ++ [name ++ target.ending]

/-- The names that lead to the directory of a program. -/
def directoryOf (program : Program) : List String :=
  if target.fileName program.name = "" then [] else [target.fileName program.name]

/-- The plan of an index. -/
def indexPlan (directory : List String) (kind : IndexKind) (children : List String) : Planned M :=
  ⟨target.namesIn directory target.index, .ok (target.indexOf kind children)⟩

/-- The plan of a collection: a module for every node, and an index of all. -/
def collectionPlan (directory : List String) (nameOf : α → String)
    (build : α → Except RenderError M) (nodes : List α) : List (Planned M) :=
  nodes.map (fun a => ⟨target.namesIn directory (target.fileName (nameOf a)), build a⟩)
    ++ [target.indexPlan directory .collection (nodes.map fun a => target.fileName (nameOf a))]

/-- What belongs to a part of a program that is there if it has nodes. -/
def ifAny {β : Type} (nodes : List α) (plan : List β) : List β :=
  if nodes.isEmpty then [] else plan

/-- What belongs to a part that is there. -/
theorem mem_ifAny {α β : Type} {nodes : List α} {plan : List β} {b : β} :
    b ∈ ifAny nodes plan ↔ nodes ≠ [] ∧ b ∈ plan := by
  cases nodes with
  | nil => exact iff_of_false List.not_mem_nil fun h => h.1 rfl
  | cons first rest => exact (and_iff_right (List.cons_ne_nil first rest)).symm

/-- It is all that belongs to the part, or nothing. -/
theorem ifAny_sublist {α β : Type} (nodes : List α) (plan : List β) :
    (ifAny nodes plan).Sublist plan := by
  cases nodes with
  | nil => exact List.nil_sublist plan
  | cons first rest => exact List.Sublist.refl plan

/-- The plan of defined types below a directory. -/
def typePlan (program : Option Program) (directory : List String) (types : List DefinedType) :
    List (Planned M) :=
  target.collectionPlan (directory ++ ["types"]) (·.name) (target.definedType program) types

/-- The plan of a program below a directory. -/
def programPlan (tree : Tree) (program : Program) (directory : List String) : List (Planned M) :=
  ⟨target.namesIn directory "programs", .ok (target.programs program)⟩
    :: ifAny program.accounts (target.collectionPlan (directory ++ ["accounts"]) (·.name)
        (target.account program) program.accounts)
    ++ ifAny program.instructions (target.collectionPlan (directory ++ ["instructions"]) (·.name)
        (target.instruction program) program.instructions)
    ++ ifAny program.errors [⟨target.namesIn directory "errors", target.errors program⟩]
    ++ ifAny (tree.typesOf program)
        (target.typePlan (some program) directory (tree.typesOf program))

/-- The parts of a program that are there. -/
def partsOf (tree : Tree) (program : Program) : List String :=
  "programs" :: ifAny program.accounts ["accounts"] ++ ifAny program.instructions ["instructions"]
    ++ ifAny program.errors ["errors"] ++ ifAny (tree.typesOf program) ["types"]

/-- The plan of a program below a directory with the index of the directory. -/
def indexedPlan (tree : Tree) (program : Program) (directory : List String) : List (Planned M) :=
  target.programPlan tree program directory
    ++ [target.indexPlan directory .program (partsOf tree program)]

/-- The plan of a tree. -/
def plan (tree : Tree) : List (Planned M) :=
  if tree.isNested then
    tree.programs.flatMap (fun program =>
        target.indexedPlan tree program (target.directoryOf program))
      ++ ifAny tree.sharedTypes (target.typePlan none [] tree.sharedTypes)
      ++ [target.indexPlan [] .programs (tree.programs.map (fun program =>
          target.fileName program.name) ++ ifAny tree.sharedTypes ["types"])]
  else
    match tree.primary? with
    | some program => target.indexedPlan tree program []
    | none => if target.emptyIndex then [target.indexPlan [] .program []] else []

/-! ## Built as planned -/

variable {target} {directory : String} {names : List String} {files : List (ModuleFile M)}

open FilePath (Spells)

/-- A file in a directory has the names for it. -/
theorem spells_pathIn (hr : target.Regular) (hdirectory : Spells directory names) {name : String}
    (hname : Text.Plain name) :
    Spells (target.pathIn directory name) (target.namesIn names name) :=
  hdirectory.join (FilePath.ordinary_file hname hr.ending)

/-- An index is built as planned. -/
theorem indexIn_builtAs (hr : target.Regular) (hdirectory : Spells directory names)
    (kind : IndexKind) (children : List String) :
    (target.indexPlan names kind children).BuiltAs (target.indexIn directory kind children) :=
  ⟨spells_pathIn hr hdirectory hr.index, rfl⟩

/-- A collection is built as planned. -/
theorem collection_builtAs (hr : target.Regular) (hdirectory : Spells directory names)
    {nameOf : α → String} {build : α → Except RenderError M} {nodes : List α}
    (h : target.collection directory nameOf build nodes = .ok files) :
    List.Forall₂ Planned.BuiltAs (target.collectionPlan names nameOf build nodes) files := by
  obtain ⟨built, hbuilt, h⟩ := bind_eq_ok.mp h
  rw [← pure_eq_ok.mp h]
  refine List.rel_append ?_ (.cons (indexIn_builtAs hr hdirectory _ _) .nil)
  rw [List.forall₂_map_left_iff]
  refine (forall₂_of_mapM_eq_ok hbuilt).imp fun a file hfile => ?_
  obtain ⟨module, hmodule, hfile⟩ := bind_eq_ok.mp hfile
  rw [← pure_eq_ok.mp hfile]
  exact ⟨spells_pathIn hr hdirectory (hr.fileName _), hmodule⟩

/-- A part goes by its name if it is there. -/
theorem part_fst {name : String} {nodes : List α}
    {build : Except RenderError (List (ModuleFile M))} {found : List String × List (ModuleFile M)}
    (h : part name nodes build = .ok found) : found.1 = ifAny nodes [name] := by
  unfold part at h
  unfold ifAny
  split at h
  · next hempty =>
      rw [← Except.ok.inj h, if_pos hempty]
  · next hany =>
      obtain ⟨files, -, h⟩ := bind_eq_ok.mp h
      rw [← pure_eq_ok.mp h, if_neg hany]

/-- A part is built as planned where what it has is. -/
theorem part_builtAs {name : String} {nodes : List α}
    {build : Except RenderError (List (ModuleFile M))} {found : List String × List (ModuleFile M)}
    {plan : List (Planned M)} (h : part name nodes build = .ok found)
    (hbuild : ∀ files, build = .ok files → List.Forall₂ Planned.BuiltAs plan files) :
    List.Forall₂ Planned.BuiltAs (ifAny nodes plan) found.2 := by
  unfold part at h
  unfold ifAny
  split at h
  · next hempty =>
      rw [← Except.ok.inj h, if_pos hempty]
      exact .nil
  · next hany =>
      obtain ⟨files, hfiles, h⟩ := bind_eq_ok.mp h
      rw [← pure_eq_ok.mp h, if_neg hany]
      exact hbuild files hfiles

/-- The types below a directory are built as planned. -/
theorem typeFiles_builtAs (hr : target.Regular) (hdirectory : Spells directory names)
    {program : Option Program} {types : List DefinedType}
    (h : target.typeFiles program directory types = .ok files) :
    List.Forall₂ Planned.BuiltAs (target.typePlan program names types) files := by
  refine collection_builtAs hr (hdirectory.join ?_) h
  exact FilePath.ordinary_of_plain (by decide) (by decide)

/-- The parts of a program are those that are there. -/
theorem programFiles_fst {tree : Tree} {program : Program}
    {found : List String × List (ModuleFile M)}
    (h : target.programFiles tree program directory = .ok found) :
    found.1 = partsOf tree program := by
  obtain ⟨accounts, haccounts, h⟩ := bind_eq_ok.mp h
  obtain ⟨instructions, hinstructions, h⟩ := bind_eq_ok.mp h
  obtain ⟨errors, herrors, h⟩ := bind_eq_ok.mp h
  obtain ⟨types, htypes, h⟩ := bind_eq_ok.mp h
  rw [← pure_eq_ok.mp h, partsOf, ← part_fst haccounts, ← part_fst hinstructions,
    ← part_fst herrors, ← part_fst htypes]

/-- A program is built as planned. -/
theorem programFiles_builtAs (hr : target.Regular) (hdirectory : Spells directory names)
    {tree : Tree} {program : Program} {found : List String × List (ModuleFile M)}
    (h : target.programFiles tree program directory = .ok found) :
    List.Forall₂ Planned.BuiltAs (target.programPlan tree program names) found.2 := by
  have hplain : ∀ name : String, Text.Plain name → name ≠ "" →
      Spells (FilePath.join directory name) (names ++ [name]) := fun name hname hne =>
    hdirectory.join (FilePath.ordinary_of_plain hname hne)
  obtain ⟨accounts, haccounts, h⟩ := bind_eq_ok.mp h
  obtain ⟨instructions, hinstructions, h⟩ := bind_eq_ok.mp h
  obtain ⟨errors, herrors, h⟩ := bind_eq_ok.mp h
  obtain ⟨types, htypes, h⟩ := bind_eq_ok.mp h
  have haccounts := part_builtAs haccounts fun files hfiles =>
    collection_builtAs hr (hplain "accounts" (by decide) (by decide)) hfiles
  have hinstructions := part_builtAs hinstructions fun files hfiles =>
    collection_builtAs hr (hplain "instructions" (by decide) (by decide)) hfiles
  -- errors have one module for all of them, which makes them a part but no collection
  have herrorPlan : ∀ files : List (ModuleFile M),
      (target.errors program >>= fun module =>
        pure [ModuleFile.mk (target.pathIn directory "errors") module]) = .ok files →
        List.Forall₂ Planned.BuiltAs [⟨target.namesIn names "errors", target.errors program⟩]
          files := by
    intro files hfiles
    obtain ⟨module, hmodule, hfiles⟩ := bind_eq_ok.mp hfiles
    rw [← pure_eq_ok.mp hfiles]
    exact .cons ⟨spells_pathIn hr hdirectory (by decide), hmodule⟩ .nil
  have herrors := part_builtAs herrors herrorPlan
  have htypes := part_builtAs htypes fun files hfiles => typeFiles_builtAs hr hdirectory hfiles
  rw [← pure_eq_ok.mp h]
  refine .cons ⟨spells_pathIn hr hdirectory (by decide), rfl⟩ ?_
  exact List.rel_append (List.rel_append (List.rel_append haccounts hinstructions) herrors) htypes

/-- A program and the index of its directory are built as planned. -/
theorem indexed_builtAs (hr : target.Regular) (hdirectory : Spells directory names)
    {tree : Tree} {program : Program} {found : List String × List (ModuleFile M)}
    (h : target.programFiles tree program directory = .ok found) :
    List.Forall₂ Planned.BuiltAs (target.indexedPlan tree program names)
      (found.2 ++ [target.indexIn directory .program found.1]) := by
  rw [programFiles_fst h]
  exact List.rel_append (programFiles_builtAs hr hdirectory h)
    (.cons (indexIn_builtAs hr hdirectory _ _) .nil)

/-- The directory of a program has the names for it. -/
theorem spells_directoryOf (hr : target.Regular) (program : Program) :
    Spells (target.fileName program.name) (target.directoryOf program) := by
  unfold directoryOf
  split
  · rename_i hempty
    rw [hempty]
    exact FilePath.spells_nil
  · rename_i hne
    exact (FilePath.ordinary_of_plain (hr.fileName _) hne).spells

/-- The programs of a tree are built as planned, each in its directory. -/
theorem nestedPrograms_builtAs (hr : target.Regular) {tree : Tree} {programs : List Program}
    {built : List (List (ModuleFile M))}
    (h : programs.mapM (target.nestedProgramFiles tree) = .ok built) :
    List.Forall₂ Planned.BuiltAs
      (programs.flatMap fun program =>
        target.indexedPlan tree program (target.directoryOf program))
      built.flatten := by
  rw [List.flatMap_def]
  refine List.rel_flatten ?_
  rw [List.forall₂_map_left_iff]
  refine (forall₂_of_mapM_eq_ok h).imp fun program files hfiles => ?_
  obtain ⟨found, hfound, hfiles⟩ := bind_eq_ok.mp hfiles
  rw [← pure_eq_ok.mp hfiles]
  exact indexed_builtAs hr (spells_directoryOf hr program) hfound

/-- **AS PLANNED**: the modules that are built are those of the plan, in order, each with the
    names and the contents that are planned for it. -/
theorem files_builtAs (hr : target.Regular) {tree : Tree} (h : target.files tree = .ok files) :
    List.Forall₂ Planned.BuiltAs (target.plan tree) files := by
  unfold Modules.files at h
  unfold plan
  split at h
  · rename_i hnested
    rw [if_pos hnested]
    obtain ⟨programs, hprograms, h⟩ := bind_eq_ok.mp h
    obtain ⟨shared, hshared, h⟩ := bind_eq_ok.mp h
    have hsharedFiles := part_builtAs hshared fun files hfiles =>
      typeFiles_builtAs hr FilePath.spells_nil hfiles
    rw [← pure_eq_ok.mp h, part_fst hshared]
    refine List.rel_append (List.rel_append (nestedPrograms_builtAs hr hprograms) hsharedFiles) ?_
    exact .cons (indexIn_builtAs hr FilePath.spells_nil _ _) .nil
  · rename_i hsingle
    rw [if_neg hsingle]
    cases hprimary : tree.primary? with
    | some program =>
        simp only [hprimary] at h ⊢
        obtain ⟨found, hfound, h⟩ := bind_eq_ok.mp h
        rw [← pure_eq_ok.mp h]
        exact indexed_builtAs hr FilePath.spells_nil hfound
    | none =>
        simp only [hprimary] at h ⊢
        rw [← pure_eq_ok.mp h]
        split
        · exact .cons (indexIn_builtAs hr FilePath.spells_nil _ _) .nil
        · exact .nil

end Modules

/-! ## Failures -/

/-- A module of a plan that cannot be built, and why. -/
def Planned.FailsIn (plan : List (Planned M)) (e : RenderError) : Prop :=
  ∃ planned ∈ plan, planned.build = .error e

/-- The modules of a plan, built one after another. -/
def Planned.buildAll (plan : List (Planned M)) : Except RenderError (List M) :=
  plan.mapM (·.build)

namespace Planned

variable {plan plan' : List (Planned M)}

/-- Of two plans the second is built behind the first. -/
theorem buildAll_append : buildAll (plan ++ plan')
    = (buildAll plan >>= fun modules => (buildAll plan').map (modules ++ ·)) := by
  unfold buildAll
  rw [List.mapM_append]
  cases plan.mapM (·.build) with
  | error e => rfl
  | ok modules => cases plan'.mapM (·.build) <;> rfl

/-- A module that can be built is built behind a plan. -/
theorem buildAll_concat {names : List String} {module : M} :
    buildAll (plan ++ [⟨names, .ok module⟩]) = (buildAll plan).map (· ++ [module]) := by
  rw [buildAll_append]
  cases buildAll plan <;> rfl

end Planned

namespace Modules

open Planned (FailsIn buildAll buildAll_append buildAll_concat)

variable {target : Modules M} {tree : Tree} {e : RenderError}

/-- The modules of files. -/
def modulesOf (files : List (ModuleFile M)) : List M := files.map (·.module)

/-- The modules of a collection are built in the order of its plan. -/
theorem collection_modules (target : Modules M) (directory : String) (names : List String) (nameOf : α → String)
    (build : α → Except RenderError M) (nodes : List α) :
    (target.collection directory nameOf build nodes).map modulesOf
      = buildAll (target.collectionPlan names nameOf build nodes) := by
  have hnodes : buildAll (nodes.map fun a =>
        ⟨target.namesIn names (target.fileName (nameOf a)), build a⟩)
      = (nodes.mapM fun a => (build a >>= fun module => pure (ModuleFile.mk
          (target.pathIn directory (target.fileName (nameOf a))) module))).map modulesOf := by
    unfold buildAll modulesOf
    rw [List.mapM_map, map_mapM]
    congr 1
    funext a
    cases h : build a <;> exact h
  rw [collectionPlan, indexPlan, buildAll_concat, hnodes, collection]
  generalize (nodes.mapM fun a => build a >>= fun module =>
    (pure (ModuleFile.mk _ module) : Except RenderError (ModuleFile M))) = built
  cases built with
  | error e => rfl
  | ok files => exact congrArg Except.ok List.map_append

/-- The modules of a part are built if it is there. -/
theorem part_modules (name : String) (nodes : List α)
    {build : Except RenderError (List (ModuleFile M))} {plan : List (Planned M)}
    (h : build.map modulesOf = buildAll plan) :
    (part name nodes build).map (fun found => modulesOf found.2) = buildAll (ifAny nodes plan) := by
  unfold part ifAny
  split
  · rfl
  · rw [← h]
    cases build <;> rfl

/-- The modules of a program are built in the order of its plan, -/
theorem programFiles_modules (program : Program) (directory : String) (names : List String) :
    (target.programFiles tree program directory).map (fun found => modulesOf found.2)
      = buildAll (target.programPlan tree program names) := by
  have herrors : (target.errors program >>= fun module =>
        (pure [ModuleFile.mk (target.pathIn directory "errors") module] :
          Except RenderError (List (ModuleFile M)))).map modulesOf
      = buildAll [⟨target.namesIn names "errors", target.errors program⟩] := by
    cases h : target.errors program with
    | error e => rfl
    | ok module => rfl
  have haccounts := part_modules "accounts" program.accounts (target.collection_modules
    (FilePath.join directory "accounts") (names ++ ["accounts"]) (·.name)
    (target.account program) program.accounts)
  have hinstructions := part_modules "instructions" program.instructions
    (target.collection_modules (FilePath.join directory "instructions")
      (names ++ ["instructions"]) (·.name) (target.instruction program) program.instructions)
  have herrors := part_modules "errors" program.errors herrors
  have htypes := part_modules "types" (tree.typesOf program) (target.collection_modules
    (FilePath.join directory "types") (names ++ ["types"]) (·.name)
    (target.definedType (some program)) (tree.typesOf program))
  rw [programPlan, typePlan, List.cons_append, List.cons_append, List.cons_append,
    ← List.singleton_append, buildAll_append, buildAll_append, buildAll_append, buildAll_append,
    ← haccounts, ← hinstructions, ← herrors, ← htypes]
  unfold programFiles typeFiles
  clear haccounts hinstructions herrors htypes
  generalize part "accounts" _ _ = accounts
  generalize part "instructions" _ _ = instructions
  generalize part "errors" _ _ = errors
  generalize part "types" _ _ = types
  cases accounts with
  | error e => rfl
  | ok accounts =>
  cases instructions with
  | error e => rfl
  | ok instructions =>
  cases errors with
  | error e => rfl
  | ok errors =>
  cases types with
  | error e => rfl
  | ok types =>
  show Except.ok _ = Except.ok _
  simp [modulesOf]

/-- and behind them the index of its directory. -/
theorem indexed_modules {program : Program} {directory : String} {names : List String} :
    (target.programFiles tree program directory).map (fun found =>
        modulesOf (found.2 ++ [target.indexIn directory .program found.1]))
      = buildAll (target.indexedPlan tree program names) := by
  rw [indexedPlan, indexPlan, buildAll_concat, ← programFiles_modules]
  cases h : target.programFiles tree program directory with
  | error e => rfl
  | ok found =>
      rw [← programFiles_fst h]
      exact congrArg Except.ok List.map_append

/-- One of several programs has these modules in its directory. -/
theorem nestedProgram_modules (program : Program) :
    (target.nestedProgramFiles tree program).map modulesOf
      = buildAll (target.indexedPlan tree program (target.directoryOf program)) := by
  rw [← indexed_modules, nestedProgramFiles]
  cases target.programFiles tree program (target.fileName program.name) with
  | error e => rfl
  | ok found => rfl

/-- The modules of programs are built one program after another. -/
theorem nestedPrograms_modules {programs : List Program} :
    (programs.mapM (target.nestedProgramFiles tree)).map (fun built => modulesOf built.flatten)
      = buildAll (programs.flatMap fun program =>
          target.indexedPlan tree program (target.directoryOf program)) := by
  induction programs with
  | nil => rfl
  | cons program programs ih =>
      rw [List.flatMap_cons, buildAll_append, ← ih, ← nestedProgram_modules, List.mapM_cons]
      cases target.nestedProgramFiles tree program with
      | error e => rfl
      | ok files =>
      cases programs.mapM (target.nestedProgramFiles tree) with
      | error e => rfl
      | ok built => exact congrArg Except.ok List.map_append

/-- **IN ORDER**: the modules of a tree are built in the order of the plan. -/
theorem files_modules (tree : Tree) :
    (target.files tree).map modulesOf = buildAll (target.plan tree) := by
  unfold Modules.files plan
  split
  · have hshared := part_modules "types" tree.sharedTypes (target.collection_modules
      (FilePath.join "" "types") ([] ++ ["types"]) (·.name) (target.definedType none)
      tree.sharedTypes)
    rw [indexPlan, buildAll_concat, buildAll_append, typePlan, ← hshared,
      ← nestedPrograms_modules]
    unfold nestedFiles typeFiles
    cases tree.programs.mapM (target.nestedProgramFiles tree) with
    | error e => rfl
    | ok built =>
    cases hpart : part "types" tree.sharedTypes _ with
    | error e => rfl
    | ok shared =>
        rw [← part_fst hpart]
        show Except.ok _ = Except.ok _
        simp only [modulesOf, List.map_append]
        rfl
  · cases tree.primary? with
    | some program =>
        dsimp only
        rw [← indexed_modules]
        cases target.programFiles tree program "" with
        | error e => rfl
        | ok found => rfl
    | none =>
        dsimp only
        split <;> rfl

/-- **WHERE FILES FAIL**: the files of a tree fail with the first module of the plan that cannot be
    built, -/
theorem files_eq_error_iff : target.files tree = .error e ↔ ∃ before planned after,
    target.plan tree = before ++ planned :: after
      ∧ (∀ earlier ∈ before, ∃ module, earlier.build = .ok module) ∧ planned.build = .error e := by
  have hmap : target.files tree = .error e ↔ (target.files tree).map modulesOf = .error e := by
    cases target.files tree with
    | error e' => exact ⟨fun h => congrArg (Except.map modulesOf) h, fun h => by cases h; rfl⟩
    | ok files => exact ⟨fun h => (nomatch h), fun h => (nomatch h)⟩
  rw [hmap, files_modules]
  exact mapM_eq_error_iff

/-- which is a module that is planned. -/
theorem files_fails (h : target.files tree = .error e) : FailsIn (target.plan tree) e := by
  obtain ⟨before, planned, after, hplan, -, he⟩ := files_eq_error_iff.mp h
  refine ⟨planned, ?_, he⟩
  rw [hplan]
  exact List.mem_append_right _ List.mem_cons_self

/-- The files of a tree fail exactly when a module that is planned cannot be built. -/
theorem files_fail_iff (hr : target.Regular) :
    (∃ e, target.files tree = .error e) ↔ ∃ e, FailsIn (target.plan tree) e := by
  constructor
  · rintro ⟨e, h⟩
    exact ⟨e, files_fails h⟩
  · rintro ⟨e, planned, hmem, he⟩
    cases hfiles : target.files tree with
    | error e' => exact ⟨e', rfl⟩
    | ok files =>
        obtain ⟨file, -, hbuilt⟩ := exists_of_forall₂_left (files_builtAs hr hfiles) hmem
        rw [hbuilt.module] at he
        exact nomatch he

end Modules

end Bindery
