import Bindery.Proofs.Files.Plan
import Mathlib.Data.List.Nodup

/-! # Files apart — when a plan has no file twice

    Modules of different parts of a program are in different directories, or in
    files of their own, whatever the names of nodes.  Within a part only the cased
    names count: they have to differ from each other and from the name of the
    index (`FilesApart`).  In a tree of several programs their directories have to
    differ from each other, from the top and from that of the shared types
    (`DirectoriesApart`).  Nothing else can clash, so no file is planned twice
    exactly when all this holds (`nodup_plan_iff`).

    The plan is cut into segments, one for each name that the paths have below a
    directory.  Segments of different names are disjoint (`nodup_segments_iff`), and
    since every directory has an index, segments of one name never are
    (`nodup_heads`). -/

namespace Bindery

/-- Paths in segments, each with the name that its paths have below some directory. -/
abbrev Segments := List (String × List (List String))

/-- Paths have one name below a directory. -/
theorem name_below_unique {directory names : List String} {a b : String}
    (ha : directory ++ [a] <+: names) (hb : directory ++ [b] <+: names) : a = b := by
  have hlength : (directory ++ [a]).length = (directory ++ [b]).length := by
    rw [List.length_append, List.length_append]
    rfl
  have heq := (List.prefix_of_prefix_length_le ha hb (Nat.le_of_eq hlength)).eq_of_length hlength
  exact List.singleton_inj.mp (List.append_cancel_left heq)

/-- Where segments have different names below a directory, no path occurs twice exactly when
    none does within a segment. -/
theorem nodup_segments_iff {segments : Segments} {directory : List String}
    (hheads : (segments.map (·.1)).Nodup)
    (hbelow : ∀ segment ∈ segments, ∀ names ∈ segment.2, directory ++ [segment.1] <+: names) :
    (segments.flatMap (·.2)).Nodup ↔ ∀ segment ∈ segments, segment.2.Nodup := by
  rw [List.nodup_flatMap]
  refine and_iff_left ?_
  have hpairs : segments.Pairwise fun a b => a.1 ≠ b.1 := List.pairwise_map.mp hheads
  refine hpairs.imp_of_mem fun {a b} ha hb hne => ?_
  intro names hna hnb
  exact hne (name_below_unique (hbelow a ha names hna) (hbelow b hb names hnb))

/-- Where every segment has one path in common below its name, no path occurs twice only if the
    names are different. -/
theorem nodup_heads {segments : Segments} {tail : List String}
    (htail : ∀ segment ∈ segments, segment.1 :: tail ∈ segment.2)
    (h : (segments.flatMap (·.2)).Nodup) : (segments.map (·.1)).Nodup := by
  refine List.pairwise_map.mpr ((List.nodup_flatMap.mp h).2.imp_of_mem fun {a b} ha hb hab => ?_)
  intro heq
  exact hab (htail a ha) (heq ▸ htail b hb)

namespace Modules

variable {M α : Type} (target : Modules M)

/-- The files for nodes of some names in one directory are apart: no two of them have one name,
    and none has that of the index. -/
structure FilesApart (names : List String) : Prop where
  distinct : (names.map target.fileName).Nodup
  notIndex : target.index ∉ names.map target.fileName

/-- The files of a program are apart, part by part. -/
structure ProgramApart (tree : Tree) (program : Program) : Prop where
  accounts : target.FilesApart (program.accounts.map (·.name))
  instructions : target.FilesApart (program.instructions.map (·.name))
  definedTypes : target.FilesApart ((tree.typesOf program).map (·.name))

/-- The directories of programs are apart: each has a name, no two the same, and none that of
    the directory of shared types if there are any. -/
structure DirectoriesApart (tree : Tree) : Prop where
  named : ∀ program ∈ tree.programs, target.fileName program.name ≠ ""
  distinct : (tree.programs.map fun program => target.fileName program.name).Nodup
  notShared : tree.sharedTypes ≠ [] → ∀ program ∈ tree.programs,
    target.fileName program.name ≠ "types"

/-- The files of a tree are apart. -/
structure Apart (tree : Tree) : Prop where
  programs : ∀ program ∈ tree.programs, target.ProgramApart tree program
  directories : tree.isNested = true → target.DirectoriesApart tree
  sharedTypes : tree.isNested = true → target.FilesApart (tree.sharedTypes.map (·.name))

/-- Whether files of some names are apart can be computed. -/
instance decidableFilesApart (names : List String) : Decidable (target.FilesApart names) :=
  decidable_of_iff ((names.map target.fileName).Nodup ∧ target.index ∉ names.map target.fileName)
    ⟨fun ⟨hdistinct, hindex⟩ => ⟨hdistinct, hindex⟩, fun h => ⟨h.distinct, h.notIndex⟩⟩

/-- Whether the files of a program are apart can be computed, -/
instance decidableProgramApart (tree : Tree) (program : Program) :
    Decidable (target.ProgramApart tree program) :=
  decidable_of_iff (target.FilesApart (program.accounts.map (·.name))
      ∧ target.FilesApart (program.instructions.map (·.name))
      ∧ target.FilesApart ((tree.typesOf program).map (·.name)))
    ⟨fun ⟨haccounts, hinstructions, htypes⟩ => ⟨haccounts, hinstructions, htypes⟩,
      fun h => ⟨h.accounts, h.instructions, h.definedTypes⟩⟩

/-- and whether the directories of a tree are, -/
instance decidableDirectoriesApart (tree : Tree) : Decidable (target.DirectoriesApart tree) :=
  decidable_of_iff ((∀ program ∈ tree.programs, target.fileName program.name ≠ "")
      ∧ (tree.programs.map fun program => target.fileName program.name).Nodup
      ∧ (tree.sharedTypes ≠ [] → ∀ program ∈ tree.programs,
        target.fileName program.name ≠ "types"))
    ⟨fun ⟨hnamed, hdistinct, hshared⟩ => ⟨hnamed, hdistinct, hshared⟩,
      fun h => ⟨h.named, h.distinct, h.notShared⟩⟩

/-- and so for the files of the tree. -/
instance decidableApart (tree : Tree) : Decidable (target.Apart tree) :=
  decidable_of_iff ((∀ program ∈ tree.programs, target.ProgramApart tree program)
      ∧ (tree.isNested = true → target.DirectoriesApart tree)
      ∧ (tree.isNested = true → target.FilesApart (tree.sharedTypes.map (·.name))))
    ⟨fun ⟨hprograms, hdirectories, hshared⟩ => ⟨hprograms, hdirectories, hshared⟩,
      fun h => ⟨h.programs, h.directories, h.sharedTypes⟩⟩

/-- The names that lead to the files of a plan. -/
def namesOf (plan : List (Planned M)) : List (List String) := plan.map (·.names)

variable {target} {directory : List String}

/-- Names of files in one directory are different where the names of the files are. -/
theorem namesIn_injective (directory : List String) :
    Function.Injective (target.namesIn directory) := by
  intro a b h
  have hfile := congrArg String.toList (List.singleton_inj.mp (List.append_cancel_left h))
  rw [String.toList_append, String.toList_append] at hfile
  exact String.toList_inj.mp (List.append_cancel_right hfile)

/-- The names of a collection are those of its nodes and of its index. -/
theorem namesOf_collection (nameOf : α → String) (build : α → Except RenderError M)
    (nodes : List α) :
    namesOf (target.collectionPlan directory nameOf build nodes)
      = ((nodes.map nameOf).map target.fileName ++ [target.index]).map
          (target.namesIn directory) := by
  unfold namesOf collectionPlan
  simp only [List.map_append, List.map_map]
  rfl

/-- No file of a collection is planned twice when its files are apart. -/
theorem nodup_collection_iff (nameOf : α → String) (build : α → Except RenderError M)
    (nodes : List α) :
    (namesOf (ifAny nodes (target.collectionPlan directory nameOf build nodes))).Nodup
      ↔ target.FilesApart (nodes.map nameOf) := by
  cases nodes with
  | nil => exact iff_of_true List.nodup_nil ⟨List.nodup_nil, List.not_mem_nil⟩
  | cons first rest =>
      show (namesOf (target.collectionPlan directory nameOf build (first :: rest))).Nodup ↔ _
      rw [namesOf_collection, List.nodup_map_iff (namesIn_injective directory), List.nodup_append]
      constructor
      · rintro ⟨hdistinct, -, hindex⟩
        exact ⟨hdistinct, fun hmem => hindex _ hmem _ List.mem_cons_self rfl⟩
      · rintro ⟨hdistinct, hindex⟩
        refine ⟨hdistinct, List.nodup_singleton _, fun a ha b hb heq => hindex ?_⟩
        rw [← List.mem_singleton.mp hb, ← heq]
        exact ha

/-- The paths of a collection are in its directory. -/
theorem prefix_of_mem_collection {nameOf : α → String} {build : α → Except RenderError M}
    {nodes : List α} {names : List String}
    (h : names ∈ namesOf (ifAny nodes (target.collectionPlan directory nameOf build nodes))) :
    directory <+: names := by
  cases nodes with
  | nil => exact nomatch h
  | cons first rest =>
      have hmem : names
          ∈ namesOf (target.collectionPlan directory nameOf build (first :: rest)) := h
      rw [namesOf_collection] at hmem
      obtain ⟨name, -, rfl⟩ := List.mem_map.mp hmem
      exact List.prefix_append directory _

/-! ## Programs -/

/-- The segments of a program below a directory: the constants, the parts, and the index. -/
def segmentsOf (target : Modules M) (tree : Tree) (program : Program) (directory : List String) :
    Segments :=
  [("programs" ++ target.ending, [target.namesIn directory "programs"]),
    ("accounts", namesOf (ifAny program.accounts (target.collectionPlan (directory ++ ["accounts"])
      (·.name) (target.account program) program.accounts))),
    ("instructions", namesOf (ifAny program.instructions (target.collectionPlan
      (directory ++ ["instructions"]) (·.name) (target.instruction program)
      program.instructions))),
    ("errors" ++ target.ending, namesOf (ifAny program.errors
      [⟨target.namesIn directory "errors", target.errors program⟩])),
    ("types", namesOf (ifAny (tree.typesOf program)
      (target.typePlan (some program) directory (tree.typesOf program)))),
    (target.index ++ target.ending, [target.namesIn directory target.index])]

variable {tree : Tree} {program : Program}

/-- The segments of a program have its paths. -/
theorem namesOf_indexedPlan :
    namesOf (target.indexedPlan tree program directory)
      = (target.segmentsOf tree program directory).flatMap (·.2) := by
  simp only [namesOf, indexedPlan, programPlan, segmentsOf, indexPlan, List.flatMap_cons,
    List.flatMap_nil, List.map_append, List.map_cons, List.map_nil, List.append_assoc,
    List.cons_append, List.nil_append, List.append_nil]

/-- The segments of a program have different names. -/
theorem nodup_segmentsOf_heads (hr : target.Regular) :
    ((target.segmentsOf tree program directory).map (·.1)).Nodup := by
  have hfiles : ∀ {a b : String}, a ≠ b → a ++ target.ending ≠ b ++ target.ending := by
    intro a b hne heq
    have hnames : target.namesIn [] a = target.namesIn [] b := congrArg (fun name => [name]) heq
    exact hne (namesIn_injective [] hnames)
  have hparts : ∀ {part name : String}, Text.Plain part → part ≠ name ++ target.ending :=
    fun hpart => FilePath.plain_ne_file hpart hr.ending
  have haccounts : ∀ {name : String}, "accounts" ≠ name ++ target.ending := hparts (by decide)
  have hinstructions : ∀ {name : String}, "instructions" ≠ name ++ target.ending :=
    hparts (by decide)
  have htypes : ∀ {name : String}, "types" ≠ name ++ target.ending := hparts (by decide)
  have hfixed : "programs" ++ target.ending ≠ "errors" ++ target.ending := hfiles (by decide)
  simp only [segmentsOf, List.map_cons, List.map_nil, List.nodup_cons, List.mem_cons,
    List.not_mem_nil, or_false, not_or, not_false_eq_true, List.nodup_nil, and_true]
  exact ⟨⟨haccounts.symm, hinstructions.symm, hfixed, htypes.symm, (hfiles hr.notPrograms).symm⟩,
    ⟨by decide, haccounts, by decide, haccounts⟩, ⟨hinstructions, by decide, hinstructions⟩,
    ⟨htypes.symm, (hfiles hr.notErrors).symm⟩, htypes⟩

/-- The paths of a segment of a program have its name below the directory. -/
theorem prefix_of_mem_segmentsOf : ∀ segment ∈ target.segmentsOf tree program directory,
    ∀ names ∈ segment.2, directory ++ [segment.1] <+: names := by
  simp only [segmentsOf, List.forall_mem_cons, List.not_mem_nil, false_imp_iff, implies_true,
    and_true]
  refine ⟨List.prefix_refl _, fun _ => prefix_of_mem_collection,
    fun _ => prefix_of_mem_collection, fun names h => ?_, fun _ => prefix_of_mem_collection,
    List.prefix_refl _⟩
  cases herrors : program.errors with
  | nil => rw [herrors] at h; exact nomatch h
  | cons first rest =>
      rw [herrors] at h
      rw [List.mem_singleton.mp h]
      exact List.prefix_refl _

/-- No file of a program is planned twice when its files are apart. -/
theorem nodup_indexedPlan_iff (hr : target.Regular) :
    (namesOf (target.indexedPlan tree program directory)).Nodup
      ↔ target.ProgramApart tree program := by
  have herrors : (namesOf (ifAny program.errors
      [⟨target.namesIn directory "errors", target.errors program⟩])).Nodup := by
    cases program.errors with
    | nil => exact List.nodup_nil
    | cons first rest => exact List.nodup_singleton _
  rw [namesOf_indexedPlan, nodup_segments_iff (nodup_segmentsOf_heads hr)
    prefix_of_mem_segmentsOf]
  simp only [segmentsOf, List.forall_mem_cons, List.not_mem_nil, false_imp_iff, implies_true,
    and_true, nodup_collection_iff, List.nodup_singleton, true_and, typePlan, herrors]
  exact ⟨fun ⟨haccounts, hinstructions, htypes⟩ => ⟨haccounts, hinstructions, htypes⟩,
    fun h => ⟨h.accounts, h.instructions, h.definedTypes⟩⟩

/-- The paths of a program are in its directory. -/
theorem prefix_of_mem_indexedPlan {names : List String}
    (h : names ∈ namesOf (target.indexedPlan tree program directory)) : directory <+: names := by
  rw [namesOf_indexedPlan] at h
  obtain ⟨segment, hsegment, hnames⟩ := List.mem_flatMap.mp h
  exact (List.prefix_append directory _).trans
    (prefix_of_mem_segmentsOf segment hsegment names hnames)

/-- The directory of a program has an index. -/
theorem index_mem_indexedPlan : target.namesIn directory target.index
    ∈ namesOf (target.indexedPlan tree program directory) :=
  List.mem_map_of_mem (List.mem_append_right _ List.mem_cons_self)

/-! ## Trees -/

/-- The segments of a tree of several programs that have names for directories: the programs,
    and the shared types if there are any. -/
def directorySegments (target : Modules M) (tree : Tree) : Segments :=
  tree.programs.map (fun program => (target.fileName program.name,
      namesOf (target.indexedPlan tree program (target.directoryOf program))))
    ++ ifAny tree.sharedTypes [("types", namesOf (target.typePlan none [] tree.sharedTypes))]

/-- The plan of a tree of several programs has the paths of its directories, and an index. -/
theorem namesOf_plan_nested (hnested : tree.isNested = true) :
    namesOf (target.plan tree) = (target.directorySegments tree
      ++ [(target.index ++ target.ending, [target.namesIn [] target.index])]).flatMap (·.2) := by
  have hshared : ∀ plan : List (Planned M), namesOf (ifAny tree.sharedTypes plan)
      = (ifAny tree.sharedTypes [("types", namesOf plan)]).flatMap (·.2) := by
    intro plan
    unfold ifAny
    split
    · rfl
    · exact (List.flatMap_singleton _ _).symm
  rw [plan, if_pos hnested, directorySegments]
  simp only [List.flatMap_append, List.flatMap_map, ← hshared]
  simp only [namesOf, List.map_append, List.map_flatMap]
  rfl

/-- The directories have different names when those of programs differ from each other and from
    that of shared types. -/
theorem nodup_directorySegments_heads_iff :
    ((target.directorySegments tree).map (·.1)).Nodup
      ↔ (tree.programs.map fun program => target.fileName program.name).Nodup
        ∧ (tree.sharedTypes ≠ [] → ∀ program ∈ tree.programs,
          target.fileName program.name ≠ "types") := by
  have hheads : (target.directorySegments tree).map (·.1)
      = tree.programs.map (fun program => target.fileName program.name)
        ++ ifAny tree.sharedTypes ["types"] := by
    rw [directorySegments, List.map_append, List.map_map]
    refine congrArg (_ ++ ·) ?_
    unfold ifAny
    split <;> rfl
  rw [hheads]
  cases tree.sharedTypes with
  | nil =>
      show (_ ++ []).Nodup ↔ _
      rw [List.append_nil]
      exact (and_iff_left fun hne => absurd rfl hne).symm
  | cons first rest =>
      show (_ ++ ["types"]).Nodup ↔ _
      rw [List.nodup_append]
      simp only [List.nodup_singleton, List.mem_singleton, forall_eq, List.forall_mem_map,
        true_and, ne_eq, reduceCtorEq, not_false_eq_true, forall_const]

/-- Every directory has an index. -/
theorem index_mem_directorySegments
    (hnamed : ∀ program ∈ tree.programs, target.fileName program.name ≠ "") :
    ∀ segment ∈ target.directorySegments tree,
      segment.1 :: target.namesIn [] target.index ∈ segment.2 := by
  refine List.forall_mem_append.mpr ⟨List.forall_mem_map.mpr fun program hmem => ?_, ?_⟩
  · rw [directoryOf, if_neg (hnamed program hmem)]
    exact index_mem_indexedPlan
  · have hindex : target.namesIn ["types"] target.index
        ∈ namesOf (target.typePlan none [] tree.sharedTypes) :=
      List.mem_map_of_mem (List.mem_append_right _ List.mem_cons_self)
    intro segment hsegment
    rw [List.mem_singleton.mp (mem_ifAny.mp hsegment).2]
    exact hindex

/-- The paths of a directory begin with its name. -/
theorem prefix_of_mem_directorySegments
    (hnamed : ∀ program ∈ tree.programs, target.fileName program.name ≠ "") :
    ∀ segment ∈ target.directorySegments tree, ∀ names ∈ segment.2, [segment.1] <+: names := by
  refine List.forall_mem_append.mpr ⟨List.forall_mem_map.mpr fun program hmem => ?_, ?_⟩
  · rw [directoryOf, if_neg (hnamed program hmem)]
    exact fun _ => prefix_of_mem_indexedPlan
  · cases tree.sharedTypes with
    | nil => exact fun _ h => (nomatch h)
    | cons first rest =>
        refine List.forall_mem_singleton.mpr fun names hmem => ?_
        have hpart : names ∈ namesOf (ifAny (first :: rest)
            (target.typePlan none [] (first :: rest))) := hmem
        exact prefix_of_mem_collection hpart

/-- No directory has the name of a file. -/
theorem file_notMem_directorySegments (hr : target.Regular) {name : String} :
    name ++ target.ending ∉ (target.directorySegments tree).map (·.1) := by
  have htypes : Text.Plain "types" := by decide
  have hplain : ∀ segment ∈ target.directorySegments tree, Text.Plain segment.1 := by
    refine List.forall_mem_append.mpr ⟨List.forall_mem_map.mpr fun _ _ => hr.fileName _, ?_⟩
    intro segment hsegment
    rw [List.mem_singleton.mp (mem_ifAny.mp hsegment).2]
    exact htypes
  intro hmem
  obtain ⟨segment, hsegment, heq⟩ := List.mem_map.mp hmem
  exact FilePath.plain_ne_file (hplain segment hsegment) hr.ending heq

/-- Where programs have names for directories, no file is planned twice exactly when the names
    are different and no file is planned twice in one of them. -/
theorem nodup_nested_iff (hr : target.Regular) (hnested : tree.isNested = true)
    (hnamed : ∀ program ∈ tree.programs, target.fileName program.name ≠ "") :
    (namesOf (target.plan tree)).Nodup
      ↔ ((target.directorySegments tree).map (·.1)).Nodup
        ∧ ∀ segment ∈ target.directorySegments tree, segment.2.Nodup := by
  have hwithIndex : ((target.directorySegments tree).map (·.1)).Nodup →
      ((target.directorySegments tree ++ [(target.index ++ target.ending,
        [target.namesIn [] target.index])]).map (·.1)).Nodup := by
    intro h
    rw [List.map_append, List.map_singleton, List.nodup_append_comm]
    exact List.nodup_cons.mpr ⟨file_notMem_directorySegments hr, h⟩
  have hbelow : ∀ segment ∈ target.directorySegments tree ++ [(target.index ++ target.ending,
      [target.namesIn [] target.index])], ∀ names ∈ segment.2, [] ++ [segment.1] <+: names :=
    List.forall_mem_append.mpr ⟨prefix_of_mem_directorySegments hnamed,
      List.forall_mem_singleton.mpr (List.forall_mem_singleton.mpr (List.prefix_refl _))⟩
  rw [namesOf_plan_nested hnested]
  constructor
  · intro h
    -- the names come first: segments of one name share their index, whatever else they have
    have hdirectories : ((target.directorySegments tree).flatMap (·.2)).Nodup := by
      rw [List.flatMap_append] at h
      exact h.of_append_left
    have hheads := nodup_heads (index_mem_directorySegments hnamed) hdirectories
    refine ⟨hheads, fun segment hsegment => ?_⟩
    exact (nodup_segments_iff (hwithIndex hheads) hbelow).mp h segment
      (List.mem_append_left _ hsegment)
  · rintro ⟨hheads, hsegments⟩
    refine (nodup_segments_iff (hwithIndex hheads) hbelow).mpr ?_
    exact List.forall_mem_append.mpr ⟨hsegments,
      List.forall_mem_singleton.mpr (List.nodup_singleton _)⟩

/-- A program without a name for a directory has the index of the tree for its own. -/
theorem not_nodup_of_unnamed (hnested : tree.isNested = true) {program : Program}
    (hmem : program ∈ tree.programs) (hunnamed : target.fileName program.name = "") :
    ¬ (namesOf (target.plan tree)).Nodup := by
  have hindex : target.namesIn [] target.index
      ∈ (target.directorySegments tree).flatMap (·.2) := by
    have hdirectory : target.directoryOf program = [] := if_pos hunnamed
    refine List.mem_flatMap.mpr ⟨_, List.mem_append_left _ (List.mem_map_of_mem hmem), ?_⟩
    rw [hdirectory]
    exact index_mem_indexedPlan
  rw [namesOf_plan_nested hnested, List.flatMap_append]
  intro h
  exact (List.nodup_append.mp h).2.2 _ hindex _ List.mem_cons_self rfl

/-- Where programs have names for directories, no file is planned twice exactly when the
    directories are apart, and the files in each of them. -/
theorem nodup_plan_named_iff (hr : target.Regular) (hnested : tree.isNested = true)
    (hnamed : ∀ program ∈ tree.programs, target.fileName program.name ≠ "") :
    (namesOf (target.plan tree)).Nodup ↔ target.Apart tree := by
  have hshared : (∀ segment ∈ ifAny tree.sharedTypes
      [("types", namesOf (target.typePlan none [] tree.sharedTypes))], segment.2.Nodup)
        ↔ target.FilesApart (tree.sharedTypes.map (·.name)) := by
    rw [← nodup_collection_iff (·.name) (target.definedType none) tree.sharedTypes]
    cases tree.sharedTypes with
    | nil => exact iff_of_true (fun _ h => (nomatch h)) List.nodup_nil
    | cons first rest => exact List.forall_mem_singleton
  rw [nodup_nested_iff hr hnested hnamed, nodup_directorySegments_heads_iff, directorySegments,
    List.forall_mem_append, List.forall_mem_map, hshared]
  constructor
  · rintro ⟨⟨hdistinct, hnotShared⟩, hprograms, htypes⟩
    exact ⟨fun program hmem => (nodup_indexedPlan_iff hr).mp (hprograms program hmem),
      fun _ => ⟨hnamed, hdistinct, hnotShared⟩, fun _ => htypes⟩
  · intro h
    have hdirectories := h.directories hnested
    exact ⟨⟨hdirectories.distinct, hdirectories.notShared⟩,
      fun program hmem => (nodup_indexedPlan_iff hr).mpr (h.programs program hmem),
      h.sharedTypes hnested⟩

/-- **NO FILE TWICE**: the paths of a plan are pairwise distinct exactly when the files of the
    tree are apart. -/
theorem nodup_plan_iff (hr : target.Regular) :
    (namesOf (target.plan tree)).Nodup ↔ target.Apart tree := by
  cases hnested : tree.isNested with
  | true =>
      -- a program without a name is planned at the top, so its paths have no name in common
      by_cases hunnamed : ∃ program ∈ tree.programs, target.fileName program.name = ""
      · obtain ⟨program, hmem, hname⟩ := hunnamed
        exact iff_of_false (not_nodup_of_unnamed hnested hmem hname) fun h =>
          (h.directories hnested).named program hmem hname
      · exact nodup_plan_named_iff hr hnested fun program hmem hname =>
          hunnamed ⟨program, hmem, hname⟩
  | false =>
      have hnot : ¬ tree.isNested = true := Bool.eq_false_iff.mp hnested
      have hsingle : target.Apart tree ↔ ∀ program ∈ tree.programs,
          target.ProgramApart tree program :=
        ⟨fun h => h.programs, fun h => ⟨h, fun hyes => absurd hyes hnot,
          fun hyes => absurd hyes hnot⟩⟩
      have hlength : tree.programs.length ≤ 1 := by
        have hmany := of_decide_eq_false hnested
        omega
      rw [hsingle, plan, if_neg hnot]
      unfold Tree.primary?
      cases hprograms : tree.programs with
      | nil =>
          refine iff_of_true ?_ fun _ h => (nomatch h)
          show (namesOf (if target.emptyIndex then _ else [])).Nodup
          split
          · exact List.nodup_singleton _
          · exact List.nodup_nil
      | cons program rest =>
          rw [hprograms] at hlength
          have hrest : rest = [] := List.length_eq_zero_iff.mp (Nat.le_zero.mp
            (Nat.le_of_succ_le_succ hlength))
          rw [hrest, List.forall_mem_singleton]
          exact nodup_indexedPlan_iff hr

end Modules

end Bindery
