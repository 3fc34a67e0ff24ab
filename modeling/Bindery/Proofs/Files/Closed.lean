import Bindery.Proofs.Files.Declared

/-! # Closed crates — when every module that is declared has its file

    The plan of a crate is put together from forests: the modules of a collection
    are leaves below the index that lists them, the parts of a program stand side by
    side, and so do the programs of a tree (`exists_planted`).  Where no two modules
    share a path the crate is therefore closed exactly when no name of a node that
    has a file, and none of a program that has a directory, is changed on its way to
    an identifier (`modules_closed_iff`).  Keywords are not changed: they are marked
    as raw, and the mark belongs to no name of a file.

    Words that cannot be raw are changed: the file of an account `Crate` is
    `accounts/crate.rs`, while its index declares a module `crate_`
    (`exists_unclosed`). -/

namespace Bindery.Crate

open Modules (ifAny mem_ifAny ifAny_sublist partsOf namesOf)

/-! ## Forests put together -/

namespace Forest

variable {α : Type} {directory children children' : List String}
  {plan plan' : List (Planned Module)} {inner inner' : List Item} {name : String}

/-- No children have no modules. -/
theorem nil (directory : List String) : Forest directory [] [] [] where
  items := rfl
  leads _ h := nomatch h
  listed _ h := nomatch h
  orderly _ h := nomatch h
  distinct _ h := nomatch h
  deep _ h := nomatch h

/-- Forests of one directory stand side by side. -/
theorem append (h : Forest directory children plan inner)
    (h' : Forest directory children' plan' inner') :
    Forest directory (children ++ children') (plan ++ plan') (inner ++ inner') := by
  have hmem : ∀ item : Item, item ∈ (children ++ children').map (Item.mk directory)
      ++ (inner ++ inner') ↔ item ∈ children.map (Item.mk directory) ++ inner
        ∨ item ∈ children'.map (Item.mk directory) ++ inner' := by
    intro item
    simp only [List.map_append, List.mem_append]
    tauto
  constructor
  · rw [List.flatMap_append, h.items, h'.items]
  · intro item hitem
    rcases (hmem item).mp hitem with hitem | hitem
    · obtain ⟨planned, hplanned, hleads⟩ := h.leads item hitem
      exact ⟨planned, List.mem_append_left _ hplanned, hleads⟩
    · obtain ⟨planned, hplanned, hleads⟩ := h'.leads item hitem
      exact ⟨planned, List.mem_append_right _ hplanned, hleads⟩
  · refine List.forall_mem_append.mpr ⟨fun planned hplanned => ?_, fun planned hplanned => ?_⟩
    · obtain ⟨item, hitem, hleads⟩ := h.listed planned hplanned
      exact ⟨item, (hmem item).mpr (.inl hitem), hleads⟩
    · obtain ⟨item, hitem, hleads⟩ := h'.listed planned hplanned
      exact ⟨item, (hmem item).mpr (.inr hitem), hleads⟩
  · exact List.forall_mem_append.mpr ⟨h.orderly, h'.orderly⟩
  · exact List.forall_mem_append.mpr ⟨h.distinct, h'.distinct⟩
  · exact List.forall_mem_append.mpr ⟨h.deep, h'.deep⟩

/-- A module in a file of its own, which has no name of an index, is a child. -/
theorem leaf (directory : List String) (build : Except RenderError Module) (h : name ≠ "mod") :
    Forest directory [name] [⟨directory ++ [name ++ ".rs"], build⟩] [] := by
  have hitems : plannedItems ⟨directory ++ [name ++ ".rs"], build⟩ = [] :=
    plannedItems_leaf build h
  constructor
  · rw [List.flatMap_singleton, hitems]
  · exact List.forall_mem_singleton.mpr ⟨_, List.mem_singleton_self _, .inl rfl⟩
  · exact List.forall_mem_singleton.mpr ⟨_, List.mem_singleton_self _, .inl rfl⟩
  · exact List.forall_mem_singleton.mpr (.leaf h)
  · refine List.forall_mem_singleton.mpr ?_
    rw [hitems]
    exact List.nodup_nil
  · exact List.forall_mem_nil _

/-- A forest with an index that lists its children is a child of the directory above. -/
theorem branch (h : Forest (directory ++ [name]) children plan inner) (hchildren : children.Nodup)
    (hmod : "mod" ∉ children) (reexported : Bool) :
    Forest directory [name]
      (plan ++ [⟨directory ++ [name] ++ ["mod.rs"], .ok (.index children reexported)⟩])
      (inner ++ children.map (Item.mk (directory ++ [name]))) := by
  have hitems := plannedItems_index (directory ++ [name]) children reexported
  have hindex : Item.LeadsTo ⟨directory, name⟩ (directory ++ [name] ++ ["mod.rs"]) :=
    .inr (List.append_assoc _ _ _)
  -- what were children of the forest are items inside the branch, whose child is the index
  have hmem : ∀ item : Item, item ∈ [name].map (Item.mk directory)
      ++ (inner ++ children.map (Item.mk (directory ++ [name]))) ↔ item = ⟨directory, name⟩
        ∨ item ∈ children.map (Item.mk (directory ++ [name])) ++ inner := by
    intro item
    simp only [List.map_singleton, List.mem_append, List.mem_singleton]
    tauto
  constructor
  · rw [List.flatMap_append, h.items, List.flatMap_singleton, hitems]
  · intro item hitem
    rcases (hmem item).mp hitem with rfl | hitem
    · exact ⟨_, List.mem_append_right _ List.mem_cons_self, hindex⟩
    · obtain ⟨planned, hplanned, hleads⟩ := h.leads item hitem
      exact ⟨planned, List.mem_append_left _ hplanned, hleads⟩
  · refine List.forall_mem_append.mpr ⟨fun planned hplanned => ?_,
      List.forall_mem_singleton.mpr ⟨_, (hmem _).mpr (.inl rfl), hindex⟩⟩
    obtain ⟨item, hitem, hleads⟩ := h.listed planned hplanned
    exact ⟨item, (hmem item).mpr (.inr hitem), hleads⟩
  · exact List.forall_mem_append.mpr ⟨h.orderly, List.forall_mem_singleton.mpr (.index _ _ _)⟩
  · refine List.forall_mem_append.mpr ⟨h.distinct, List.forall_mem_singleton.mpr ?_⟩
    rw [hitems]
    exact hchildren.map fun a b heq => congrArg Item.name heq
  · refine List.forall_mem_append.mpr ⟨h.deep, List.forall_mem_map.mpr fun child hchild heq => ?_⟩
    have hname : child = "mod" := heq
    exact hmod (hname ▸ hchild)

/-- Forests for the nodes of a list, each for one child, stand side by side. -/
theorem flatMap {nodes : List α} {nameOf : α → String} {planOf : α → List (Planned Module)}
    {innerOf : α → List Item}
    (h : ∀ a ∈ nodes, Forest directory [nameOf a] (planOf a) (innerOf a)) :
    Forest directory (nodes.map nameOf) (nodes.flatMap planOf) (nodes.flatMap innerOf) := by
  induction nodes with
  | nil => exact nil directory
  | cons a nodes ih =>
      obtain ⟨hfirst, hrest⟩ := List.forall_mem_cons.mp h
      exact hfirst.append (ih hrest)

variable {nested : Bool} {tree : Tree} {program : Program}

/-- The index of a directory as it is planned. -/
theorem indexPlan_eq (directory : List String) (kind : IndexKind) (children : List String) :
    (modules nested).indexPlan directory kind children
      = ⟨directory ++ ["mod.rs"], .ok (.index children (decide (kind = .collection)))⟩ := by
  have hfile : "mod" ++ ".rs" = "mod.rs" := by decide
  exact congrArg (fun file => Planned.mk (directory ++ [file]) _) hfile

/-- A collection whose files are apart is a child, if it has nodes. -/
theorem collection (directory : List String) (part : String) {nameOf : α → String}
    (build : α → Except RenderError Module) {nodes : List α}
    (h : (modules nested).FilesApart (nodes.map nameOf)) :
    Forest directory (ifAny nodes [part])
      (ifAny nodes ((modules nested).collectionPlan (directory ++ [part]) nameOf build nodes))
      (nodes.map fun a => ⟨directory ++ [part], Text.snakeCase (nameOf a)⟩) := by
  have hnames : (nodes.map nameOf).map Text.snakeCase
      = nodes.map fun a => Text.snakeCase (nameOf a) := List.map_map
  have hdistinct : (nodes.map fun a => Text.snakeCase (nameOf a)).Nodup := hnames ▸ h.distinct
  have hmod : "mod" ∉ nodes.map fun a => Text.snakeCase (nameOf a) := hnames ▸ h.notIndex
  have hleaves : Forest (directory ++ [part]) (nodes.map fun a => Text.snakeCase (nameOf a))
      (nodes.flatMap fun a => [⟨directory ++ [part] ++ [Text.snakeCase (nameOf a) ++ ".rs"],
        build a⟩]) (nodes.flatMap fun _ => []) :=
    flatMap fun a ha => leaf _ (build a) fun heq => hmod (List.mem_map.mpr ⟨a, ha, heq⟩)
  have hbranch := hleaves.branch hdistinct hmod true
  rw [← List.map_eq_flatMap, List.flatMap_eq_nil_iff.mpr fun _ _ => rfl, List.map_map] at hbranch
  cases nodes with
  -- without nodes there is no index, and none is listed
  | nil => exact nil directory
  | cons first rest =>
      show Forest directory [part] ((modules nested).collectionPlan _ nameOf build _) _
      rw [Modules.collectionPlan, indexPlan_eq]
      exact hbranch

/-- The items of the parts of a program below a directory. -/
def programItems (tree : Tree) (program : Program) (directory : List String) : List Item :=
  program.accounts.map (fun node => ⟨directory ++ ["accounts"], Text.snakeCase node.name⟩)
    ++ program.instructions.map
        (fun node => ⟨directory ++ ["instructions"], Text.snakeCase node.name⟩)
    ++ (tree.typesOf program).map (fun node => ⟨directory ++ ["types"], Text.snakeCase node.name⟩)

/-- The parts of a program whose files are apart are a forest. -/
theorem parts (h : (modules nested).ProgramApart tree program) (directory : List String) :
    Forest directory (partsOf tree program)
      ((modules nested).programPlan tree program directory)
      (programItems tree program directory) := by
  have hprograms : Forest directory ["programs"]
      [⟨directory ++ ["programs" ++ ".rs"], .ok ((modules nested).programs program)⟩] [] :=
    leaf directory _ (by decide)
  have herrors : Forest directory (ifAny program.errors ["errors"])
      (ifAny program.errors [⟨directory ++ ["errors" ++ ".rs"], (modules nested).errors program⟩])
      [] := by
    cases program.errors with
    | nil => exact nil directory
    | cons first rest => exact leaf directory _ (by decide)
  have hparts := (((hprograms.append (collection directory "accounts"
    ((modules nested).account program) h.accounts)).append (collection directory "instructions"
    ((modules nested).instruction program) h.instructions)).append herrors).append
    (collection directory "types" ((modules nested).definedType (some program)) h.definedTypes)
  rw [List.nil_append, List.append_nil] at hparts
  exact hparts

/-- The parts of a program are among five. -/
theorem partsOf_sublist (tree : Tree) (program : Program) :
    (partsOf tree program).Sublist ["programs", "accounts", "instructions", "errors", "types"] := by
  have hparts := (((ifAny_sublist program.accounts ["accounts"]).append
    (ifAny_sublist program.instructions ["instructions"])).append
    (ifAny_sublist program.errors ["errors"])).append
    (ifAny_sublist (tree.typesOf program) ["types"])
  exact hparts.cons_cons "programs"

/-- The parts of a program are distinct words of identifiers, and none has the name of an index. -/
theorem nodup_partsOf (tree : Tree) (program : Program) : (partsOf tree program).Nodup
    ∧ "mod" ∉ partsOf tree program ∧ ∀ part ∈ partsOf tree program, Spoken part := by
  have hsublist := partsOf_sublist tree program
  have hspoken : ∀ part ∈ ["programs", "accounts", "instructions", "errors", "types"],
      Spoken part := by decide
  exact ⟨hsublist.nodup (by decide), fun hmem => absurd (hsublist.subset hmem) (by decide),
    fun part hmem => hspoken part (hsublist.subset hmem)⟩

/-- A program whose files are apart is a child of the directory above. -/
theorem indexed (h : (modules nested).ProgramApart tree program) (directory : List String)
    (name : String) :
    Forest directory [name] ((modules nested).indexedPlan tree program (directory ++ [name]))
      (programItems tree program (directory ++ [name])
        ++ (partsOf tree program).map (Item.mk (directory ++ [name]))) := by
  obtain ⟨hdistinct, hmod, -⟩ := nodup_partsOf tree program
  rw [Modules.indexedPlan, indexPlan_eq]
  exact (parts h _).branch hdistinct hmod false

end Forest

/-! ## Trees -/

/-- Names that are words of identifiers in snake case. -/
def SpokenNames (names : List String) : Prop := ∀ name ∈ names, Spoken (Text.snakeCase name)

instance (names : List String) : Decidable (SpokenNames names) := List.decidableBAll _ _

/-- A program whose nodes have files of such names. -/
structure SpokenProgram (tree : Tree) (program : Program) : Prop where
  accounts : SpokenNames (program.accounts.map (·.name))
  instructions : SpokenNames (program.instructions.map (·.name))
  definedTypes : SpokenNames ((tree.typesOf program).map (·.name))

/-- A tree whose nodes have files and directories of such names. -/
structure SpokenTree (tree : Tree) : Prop where
  programs : ∀ program ∈ tree.programs, SpokenProgram tree program
  directories : tree.isNested = true → SpokenNames (tree.programs.map (·.name))
  sharedTypes : tree.isNested = true → SpokenNames (tree.sharedTypes.map (·.name))

/-- Whether the names of a program are such can be computed, -/
instance decidableSpokenProgram (tree : Tree) (program : Program) :
    Decidable (SpokenProgram tree program) :=
  decidable_of_iff (SpokenNames (program.accounts.map (·.name))
      ∧ SpokenNames (program.instructions.map (·.name))
      ∧ SpokenNames ((tree.typesOf program).map (·.name)))
    ⟨fun ⟨haccounts, hinstructions, htypes⟩ => ⟨haccounts, hinstructions, htypes⟩,
      fun h => ⟨h.accounts, h.instructions, h.definedTypes⟩⟩

/-- and so for those of a tree. -/
instance decidableSpokenTree (tree : Tree) : Decidable (SpokenTree tree) :=
  decidable_of_iff ((∀ program ∈ tree.programs, SpokenProgram tree program)
      ∧ (tree.isNested = true → SpokenNames (tree.programs.map (·.name)))
      ∧ (tree.isNested = true → SpokenNames (tree.sharedTypes.map (·.name))))
    ⟨fun ⟨hprograms, hdirectories, hshared⟩ => ⟨hprograms, hdirectories, hshared⟩,
      fun h => ⟨h.programs, h.directories, h.sharedTypes⟩⟩

variable {tree : Tree} {program : Program} {directory : List String}

/-- Items for nodes have words of identifiers for names where the nodes have. -/
theorem forall_items_iff {α : Type} {nameOf : α → String} {nodes : List α} :
    (∀ item ∈ nodes.map (fun a => Item.mk directory (Text.snakeCase (nameOf a))),
        Spoken item.name) ↔ SpokenNames (nodes.map nameOf) := by
  rw [SpokenNames, List.forall_mem_map, List.forall_mem_map]

/-- The items of a program have such names where the program has. -/
theorem forall_programItems_iff :
    (∀ item ∈ Forest.programItems tree program directory
        ++ (partsOf tree program).map (Item.mk directory), Spoken item.name)
      ↔ SpokenProgram tree program := by
  have hparts : ∀ item ∈ (partsOf tree program).map (Item.mk directory), Spoken item.name :=
    List.forall_mem_map.mpr (Forest.nodup_partsOf tree program).2.2
  rw [List.forall_mem_append, and_iff_left hparts, Forest.programItems, List.forall_mem_append,
    List.forall_mem_append, forall_items_iff, forall_items_iff, forall_items_iff]
  exact ⟨fun ⟨⟨haccounts, hinstructions⟩, htypes⟩ => ⟨haccounts, hinstructions, htypes⟩,
    fun h => ⟨⟨h.accounts, h.instructions⟩, h.definedTypes⟩⟩

/-- A plan that is a forest with its index, whose items have words of identifiers for names exactly
    where the tree has. -/
structure Planted (tree : Tree) (children : List String) (plan : List (Planned Module))
    (inner : List Item) (reexported : Bool) : Prop where
  planned : (modules tree.isNested).plan tree = plan ++ [topIndex children reexported]
  forest : Forest [] children plan inner
  distinct : children.Nodup
  spoken : (∀ item ∈ inner ++ children.map (Item.mk []), Spoken item.name) ↔ SpokenTree tree

/-- The directories of several programs and of shared types are different children. -/
theorem nodup_directories {nested : Bool} (h : (modules nested).DirectoriesApart tree) :
    (tree.programs.map (fun program => Text.snakeCase program.name)
      ++ ifAny tree.sharedTypes ["types"]).Nodup := by
  refine List.nodup_append.mpr ⟨h.distinct, ?_, fun name hname part hpart heq => ?_⟩
  · exact (ifAny_sublist _ _).nodup (List.nodup_singleton _)
  · obtain ⟨program, hmem, rfl⟩ := List.mem_map.mp hname
    obtain ⟨hshared, hpart⟩ := mem_ifAny.mp hpart
    exact h.notShared hshared program hmem (heq.trans (List.mem_singleton.mp hpart))

/-- A tree of several programs is planted where its files are apart. -/
theorem planted_nested (hnested : tree.isNested = true)
    (h : (modules tree.isNested).Apart tree) :
    ∃ children plan inner, Planted tree children plan inner false := by
  have hdirectories := h.directories hnested
  have hforest := (Forest.flatMap fun program hmem =>
    Forest.indexed (h.programs program hmem) [] (Text.snakeCase program.name)).append
      (Forest.collection [] "types" ((modules tree.isNested).definedType none)
        (h.sharedTypes hnested))
  refine ⟨_, _, _, ?_, hforest, nodup_directories hdirectories, ?_⟩
  · -- a program whose name is empty in snake case would have no directory of its own
    have hplans : ∀ program ∈ tree.programs,
        (modules tree.isNested).indexedPlan tree program
            ((modules tree.isNested).directoryOf program)
          = (modules tree.isNested).indexedPlan tree program
            ([] ++ [Text.snakeCase program.name]) := fun program hmem =>
      congrArg ((modules tree.isNested).indexedPlan tree program)
        (if_neg (hdirectories.named program hmem))
    rw [Modules.plan, if_pos hnested, List.flatMap_congr hplans, Forest.indexPlan_eq]
    rfl
  · have htypes : ∀ part ∈ ifAny tree.sharedTypes ["types"], Spoken part := by
      intro part hpart
      rw [List.mem_singleton.mp (mem_ifAny.mp hpart).2]
      decide
    have hchildren : (∀ item ∈ (tree.programs.map (fun program => Text.snakeCase program.name)
        ++ ifAny tree.sharedTypes ["types"]).map (Item.mk []), Spoken item.name)
          ↔ SpokenNames (tree.programs.map (·.name)) := by
      rw [List.forall_mem_map, List.forall_mem_append, and_iff_left htypes, List.forall_mem_map,
        SpokenNames, List.forall_mem_map]
    rw [List.forall_mem_append, List.forall_mem_append, List.forall_mem_flatMap, hchildren,
      forall_items_iff]
    simp only [forall_programItems_iff]
    constructor
    · rintro ⟨⟨hprograms, hshared⟩, hnames⟩
      exact ⟨hprograms, fun _ => hnames, fun _ => hshared⟩
    · intro h
      exact ⟨⟨h.programs, h.sharedTypes hnested⟩, h.directories hnested⟩

/-- A tree of one program is planted where its files are apart. -/
theorem planted_single (hsingle : ¬ tree.isNested = true) (hprograms : tree.programs = [program])
    (h : (modules tree.isNested).Apart tree) :
    ∃ children plan inner, Planted tree children plan inner false := by
  have happart := h.programs program (hprograms ▸ List.mem_singleton_self program)
  obtain ⟨hdistinct, -, -⟩ := Forest.nodup_partsOf tree program
  refine ⟨_, _, _, ?_, Forest.parts happart [], hdistinct, ?_⟩
  · have hprimary : tree.primary? = some program := by
      rw [Tree.primary?, hprograms]
      rfl
    rw [Modules.plan, if_neg hsingle, hprimary]
    show _ ++ [(modules tree.isNested).indexPlan [] .program _] = _
    rw [Forest.indexPlan_eq]
    rfl
  · rw [forall_programItems_iff]
    constructor
    · intro hspoken
      refine ⟨?_, fun hnested => absurd hnested hsingle, fun hnested => absurd hnested hsingle⟩
      rw [hprograms]
      exact List.forall_mem_singleton.mpr hspoken
    · exact fun hspoken => hspoken.programs program (hprograms ▸ List.mem_singleton_self program)

/-- A tree without programs is planted: it has an index and nothing else. -/
theorem planted_empty (hsingle : ¬ tree.isNested = true) (hprograms : tree.programs = []) :
    ∃ children plan inner, Planted tree children plan inner false := by
  refine ⟨[], [], [], ?_, Forest.nil [], List.nodup_nil, ?_⟩
  · have hprimary : tree.primary? = none := by
      rw [Tree.primary?, hprograms]
      rfl
    rw [Modules.plan, if_neg hsingle, hprimary]
    show [(modules tree.isNested).indexPlan [] .program []] = _
    rw [Forest.indexPlan_eq]
    rfl
  · refine iff_of_true (List.forall_mem_nil _) ⟨?_, fun hnested => absurd hnested hsingle,
      fun hnested => absurd hnested hsingle⟩
    rw [hprograms]
    exact List.forall_mem_nil _

/-- **PLANTED**: the plan of every tree whose files are apart is a forest with its index. -/
theorem exists_planted (h : (modules tree.isNested).Apart tree) :
    ∃ children plan inner, Planted tree children plan inner false := by
  by_cases hnested : tree.isNested = true
  · exact planted_nested hnested h
  · cases hprograms : tree.programs with
    | nil => exact planted_empty hnested hprograms
    | cons program rest =>
        have hrest : rest = [] := by
          rw [Tree.isNested, hprograms, decide_eq_true_iff, List.length_cons] at hnested
          exact List.length_eq_zero_iff.mp (by omega)
        exact planted_single hnested (hrest ▸ hprograms) h

/-- Where no two modules share a path, no two are planned under the same names. -/
theorem nodup_names_of_paths {M : Type} {target : Modules M} {files : List (ModuleFile M)}
    (hr : target.Regular) (h : target.files tree = .ok files)
    (hpaths : (files.map (·.path)).Nodup) : (namesOf (target.plan tree)).Nodup := by
  have hjoined : (namesOf (target.plan tree)).map (Text.joinText '/') = files.map (·.path) := by
    rw [namesOf, List.map_map]
    refine map_eq_map_iff_forall₂.mpr
      ((Modules.files_builtAs hr h).imp fun planned file hfile => ?_)
    exact hfile.path.text.symm
  exact List.Nodup.of_map (Text.joinText '/') (hjoined ▸ hpaths)

/-- **CLOSED WHERE NAMES ARE SPOKEN**: a crate that is rendered, no two modules of which share a
    path, keeps all of its modules, and they are closed exactly when the names of files and
    directories are words of identifiers. -/
theorem modules_closed_iff {options : RenderOptions} {inCrate : Artifacts}
    (h : render tree options = .ok inCrate)
    (hpaths : ∀ files, Crate.files tree = .ok files → (files.map (·.path)).Nodup) :
    ∃ mount files, mountOf options = .ok mount ∧ Crate.files tree = .ok files
      ∧ inCrate.Keeps files (textOf mount options.formatCode)
      ∧ (Closed mount files ↔ SpokenTree tree) := by
  obtain ⟨mount, files, hmount, hfiles, hartifacts⟩ := render_eq_ok h
  have hr := modules_regular tree.isNested
  have hnames := nodup_names_of_paths hr hfiles (hpaths files hfiles)
  have happart := (Modules.nodup_plan_iff hr).mp hnames
  obtain ⟨-, hkeeps⟩ := Modules.ofFiles_lossless_iff hr hfiles _ hartifacts
  obtain ⟨children, plan, inner, hplanted⟩ := exists_planted happart
  have hbuilt := Modules.files_builtAs hr hfiles
  rw [hplanted.planned] at hnames hbuilt
  refine ⟨mount, files, hmount, hfiles, hkeeps happart, ?_⟩
  exact (hplanted.forest.closed_iff hplanted.distinct hbuilt hnames).trans hplanted.spoken

theorem modules_closed_iff_bank : ∃ inCrate mount files,
    render bankTree ⟨false, SortedMap.empty⟩ = .ok inCrate ∧ Crate.files bankTree = .ok files
      ∧ (files.map (·.path)).Nodup ∧ Closed mount files := by
  obtain ⟨inCrate, hcrate⟩ : ∃ inCrate, render bankTree ⟨false, SortedMap.empty⟩ = .ok inCrate :=
    exists_ok_of_isSome (by decide +kernel)
  obtain ⟨built, hbuilt, hdistinct⟩ : ∃ built, Crate.files bankTree = .ok built
      ∧ decide (built.map (·.path)).Nodup = true := exists_ok_of_any (by decide +kernel)
  have hpaths : ∀ files, Crate.files bankTree = .ok files → (files.map (·.path)).Nodup := by
    intro files hfiles
    obtain rfl := Except.ok.inj (hbuilt.symm.trans hfiles)
    exact of_decide_eq_true hdistinct
  obtain ⟨mount, files, -, hfiles, -, hclosed⟩ := modules_closed_iff hcrate hpaths
  exact ⟨inCrate, mount, files, hcrate, hfiles, hpaths files hfiles,
    hclosed.mpr (by decide +kernel)⟩

/-! ## A module without its file -/

/-- An interface with an account `Crate`. -/
def depot : Document where
  label := "depot"
  text := String.join [
    "\x7b\"name\":\"depot\",\"address\":\"D\",\"accounts\":[",
    "\x7b\"name\":\"Crate\",\"type\":\x7b\"kind\":\"struct\",\"fields\":[",
    "\x7b\"name\":\"weight\",\"type\":\"u8\"\x7d]\x7d\x7d],",
    "\"instructions\":[]\x7d"]

/-- The tree of that interface. -/
def depotTree : Tree where
  programs := [
    { name := "depot", publicKey := "D", version := "", docs := []
      accounts := [⟨"Crate", [], [⟨"weight", .number .u8, []⟩], none, none⟩]
      instructions := [], definedTypes := [], errors := [] }]
  sharedTypes := []

/-- The interface loads. -/
theorem load_depot : Tree.load [depot] = .ok depotTree := by
  refine load_singleton ?_
  rw [documentProgram_eq String.toList_join]
  decide +kernel

/-- **NOT CLOSED**: the interface is rendered, no two modules share a path, and the index of its
    accounts declares a module that has no file. -/
theorem exists_unclosed :
    Tree.load [depot] = .ok depotTree ∧ mountOf ⟨false, SortedMap.empty⟩ = .ok .standard
      ∧ ∃ inCrate files, render depotTree ⟨false, SortedMap.empty⟩ = .ok inCrate
        ∧ Crate.files depotTree = .ok files ∧ (files.map (·.path)).Nodup
        ∧ ¬ Closed .standard files := by
  obtain ⟨inCrate, hcrate⟩ : ∃ inCrate, render depotTree ⟨false, SortedMap.empty⟩ = .ok inCrate :=
    exists_ok_of_isSome (by decide +kernel)
  obtain ⟨files, hfiles, htest⟩ : ∃ files, Crate.files depotTree = .ok files
      ∧ decide ((files.map (·.path)).Nodup
        ∧ ⟨["accounts"], "crate_"⟩ ∈ files.flatMap (itemsOf .standard)
        ∧ ∀ file ∈ files, ¬ Item.LeadsTo ⟨["accounts"], "crate_"⟩ (FilePath.names file.path))
          = true := exists_ok_of_any (by decide +kernel)
  obtain ⟨hdistinct, hitem, hnone⟩ := of_decide_eq_true htest
  refine ⟨load_depot, rfl, inCrate, files, hcrate, hfiles, hdistinct, fun hclosed => ?_⟩
  obtain ⟨file, hfile, hleads⟩ := hclosed.found _ hitem
  exact hnone file hfile hleads

end Bindery.Crate
