import Bindery.Proofs.Files.Output
import Bindery.Proofs.Rename.Simultaneous
import Bindery.Proofs.TypeLinks.Emitted

/-! # Places — where modules and types are in the output

    A module with links is that of a site: an account or an instruction of a
    program, or a type in the place where types of its scope are.  Every other
    module that is planned is an index or has no links (`Modules.plannedAs_of_mem`).
    Where the files of types and the directories are apart, the file of a type and
    the index that lists it are planned by nothing else, so that both are found in
    the output with their own contents (`Modules.showsType`), and so are the
    indexes on the way to them (`Modules.has_programIndex`, `Modules.has_topIndex`).
    Accounts and instructions may share files with each other; the files of types
    do not depend on theirs. -/

namespace Bindery

variable {M : Type}

/-! ## Sites and places -/

/-- A node whose module can have links. A type has the scope that it is rendered in: a program,
    or none beside several programs. -/
inductive Site where
  | account (program : Program) (account : Account)
  | instruction (program : Program) (instruction : Instruction)
  | definedType (scope : Option Program) (defined : DefinedType)

namespace Site

/-- The scope in which a site is rendered. -/
def scope : Site → Option Program
  | .account program _ | .instruction program _ => some program
  | .definedType scope _ => scope

/-- The part of the scope's modules that has the module of a site. -/
def part : Site → String
  | .account _ _ => "accounts"
  | .instruction _ _ => "instructions"
  | .definedType _ _ => "types"

/-- The name of a site. -/
def name : Site → String
  | .account _ node => node.name
  | .instruction _ node => node.name
  | .definedType _ node => node.name

/-- The links of a site. -/
def links : Site → List String
  | .account _ node => node.links
  | .instruction _ node => node.links
  | .definedType _ node => node.type.links

end Site

/-- The types that are rendered in a place: those that belong to a program, or the shared ones
    beside several programs. -/
def Tree.typesAt (tree : Tree) : Option Program → List DefinedType
  | some program => tree.typesOf program
  | none => tree.sharedTypes

/-- The places of a tree: its programs and, beside several of them, that of the shared types. -/
def Tree.HasPlace (tree : Tree) : Option Program → Prop
  | some program => program ∈ tree.programs
  | none => tree.isNested = true

/-- The sites of a tree. -/
def Tree.Renders (tree : Tree) : Site → Prop
  | .account program account => program ∈ tree.programs ∧ account ∈ program.accounts
  | .instruction program instruction =>
    program ∈ tree.programs ∧ instruction ∈ program.instructions
  | .definedType scope defined => tree.HasPlace scope ∧ defined ∈ tree.typesAt scope

/-- The scope of a site is a place. -/
theorem Tree.Renders.hasPlace {tree : Tree} {site : Site} (h : tree.Renders site) :
    tree.HasPlace site.scope := by
  cases site <;> exact h.1

/-- A site without a program is a shared type. -/
theorem Tree.Renders.shared {tree : Tree} {site : Site} (h : tree.Renders site)
    (hscope : site.scope = none) : site.part = "types" ∧ tree.sharedTypes ≠ [] := by
  cases site with
  | account program node => exact nomatch hscope
  | instruction program node => exact nomatch hscope
  | definedType scope defined =>
      obtain rfl : scope = none := hscope
      exact ⟨rfl, List.ne_nil_of_mem h.2⟩

/-- There is a file of some names with some contents. -/
def Artifacts.Has (artifacts : Artifacts) (names : List String) (contents : String) : Prop :=
  ∃ path, artifacts.get? (names.map .name) = some ⟨path, contents⟩

namespace Modules

variable (target : Modules M) (tree : Tree)

/-- The module of a site. -/
def build : Site → Except RenderError M
  | .account program account => target.account program account
  | .instruction program instruction => target.instruction program instruction
  | .definedType scope defined => target.definedType scope defined

/-- The names that lead to the directory of a place. -/
def homeOf : Option Program → List String
  | some program => if tree.isNested then target.directoryOf program else []
  | none => []

/-- The plan of a site. -/
def sitePlan (site : Site) : Planned M :=
  ⟨target.namesIn (target.homeOf tree site.scope ++ [site.part]) (target.fileName site.name),
    target.build site⟩

/-- The plan of the index of the types in a place. -/
def typesIndexPlan (place : Option Program) : Planned M :=
  target.indexPlan (target.homeOf tree place ++ ["types"]) .collection
    ((tree.typesAt place).map fun defined => target.fileName defined.name)

/-- The plan of the index of a program. -/
def programIndexPlan (program : Program) : Planned M :=
  target.indexPlan (target.homeOf tree (some program)) .program (partsOf tree program)

/-- The plan of the index of a tree of several programs. -/
def topIndexPlan : Planned M :=
  target.indexPlan [] .programs (tree.programs.map (fun program => target.fileName program.name)
    ++ ifAny tree.sharedTypes ["types"])

/-- What a planned module is: that of a site, the index of types, of another collection, of a
    program or of all programs, or one for the constants or the errors of a program. -/
inductive PlannedAs : Planned M → Prop
  | site {site : Site} (h : tree.Renders site) : PlannedAs (target.sitePlan tree site)
  | typesIndex {place : Option Program} (h : tree.HasPlace place)
      (hany : tree.typesAt place ≠ []) : PlannedAs (target.typesIndexPlan tree place)
  | collectionIndex {program : Program} (h : program ∈ tree.programs) {part : String}
      (hpart : part ≠ "types") (names : List String) :
      PlannedAs (target.indexPlan (target.homeOf tree (some program) ++ [part]) .collection
        (names.map target.fileName))
  | programIndex {program : Program} (h : program ∈ tree.programs) :
      PlannedAs (target.programIndexPlan tree program)
  | topIndex (h : tree.isNested = true) : PlannedAs (target.topIndexPlan tree)
  | emptyIndex (h : tree.programs = []) : PlannedAs (target.indexPlan [] .program [])
  | programs {program : Program} (h : program ∈ tree.programs) :
      PlannedAs ⟨target.namesIn (target.homeOf tree (some program)) "programs",
        .ok (target.programs program)⟩
  | errors {program : Program} (h : program ∈ tree.programs) (hany : program.errors ≠ []) :
      PlannedAs ⟨target.namesIn (target.homeOf tree (some program)) "errors",
        target.errors program⟩

variable {target tree}

/-- The modules of the types in a place are those of sites, and an index. -/
theorem plannedAs_of_mem_types {place : Option Program} (hplace : tree.HasPlace place)
    {planned : Planned M}
    (h : planned ∈ ifAny (tree.typesAt place)
      (target.typePlan place (target.homeOf tree place) (tree.typesAt place))) :
    target.PlannedAs tree planned := by
  obtain ⟨hany, h⟩ := mem_ifAny.mp h
  rcases List.mem_append.mp h with h | h
  · obtain ⟨defined, hmem, rfl⟩ := List.mem_map.mp h
    have hsite : tree.Renders (.definedType place defined) := ⟨hplace, hmem⟩
    exact PlannedAs.site hsite
  · rw [List.mem_singleton.mp h]
    exact .typesIndex hplace hany

/-- The modules of another collection of a program are those of sites, and an index. -/
theorem plannedAs_of_mem_collection {α : Type} {program : Program} (hp : program ∈ tree.programs)
    {part : String} (hpart : part ≠ "types") {nameOf : α → String}
    {build : α → Except RenderError M} {nodes : List α} {planned : Planned M}
    (hsites : ∀ node ∈ nodes, target.PlannedAs tree ⟨target.namesIn
      (target.homeOf tree (some program) ++ [part]) (target.fileName (nameOf node)), build node⟩)
    (h : planned ∈ ifAny nodes (target.collectionPlan
      (target.homeOf tree (some program) ++ [part]) nameOf build nodes)) :
    target.PlannedAs tree planned := by
  rcases List.mem_append.mp (mem_ifAny.mp h).2 with h | h
  · obtain ⟨node, hmem, rfl⟩ := List.mem_map.mp h
    exact hsites node hmem
  · have hchildren : (nodes.map fun node => target.fileName (nameOf node))
        = (nodes.map nameOf).map target.fileName := List.map_map.symm
    rw [List.mem_singleton.mp h, hchildren]
    exact .collectionIndex hp hpart _

/-- The modules of a program are those of its sites and the others that it has. -/
theorem plannedAs_of_mem_indexedPlan {program : Program} (hp : program ∈ tree.programs)
    {planned : Planned M}
    (h : planned ∈ target.indexedPlan tree program (target.homeOf tree (some program))) :
    target.PlannedAs tree planned := by
  simp only [indexedPlan, programPlan, List.mem_append, List.mem_cons, List.cons_append,
    List.not_mem_nil, or_false, or_assoc] at h
  rcases h with rfl | h | h | h | h | rfl
  · exact .programs hp
  · refine plannedAs_of_mem_collection hp (by decide) (fun account hmem => ?_) h
    have hsite : tree.Renders (.account program account) := ⟨hp, hmem⟩
    exact PlannedAs.site hsite
  · refine plannedAs_of_mem_collection hp (by decide) (fun instruction hmem => ?_) h
    have hsite : tree.Renders (.instruction program instruction) := ⟨hp, hmem⟩
    exact PlannedAs.site hsite
  · obtain ⟨hany, h⟩ := mem_ifAny.mp h
    rw [List.mem_singleton.mp h]
    exact .errors hp hany
  · have hplace : tree.HasPlace (some program) := hp
    exact plannedAs_of_mem_types hplace h
  · exact .programIndex hp

/-- **WHAT IS PLANNED**: every module of a plan is that of a site or one of the others. -/
theorem plannedAs_of_mem {planned : Planned M} (h : planned ∈ target.plan tree) :
    target.PlannedAs tree planned := by
  unfold plan at h
  split at h
  · next hnested =>
      simp only [List.mem_append, List.mem_flatMap, List.mem_singleton, or_assoc] at h
      rcases h with ⟨program, hp, h⟩ | h | rfl
      · refine plannedAs_of_mem_indexedPlan hp ?_
        rwa [homeOf, if_pos hnested]
      · have hplace : tree.HasPlace none := hnested
        exact plannedAs_of_mem_types hplace h
      · exact .topIndex hnested
  · next hsingle =>
      cases hprimary : tree.primary? with
      | some program =>
          rw [hprimary] at h
          refine plannedAs_of_mem_indexedPlan (List.mem_of_head? hprimary) ?_
          rwa [homeOf, if_neg hsingle]
      | none =>
          rw [hprimary] at h
          have h := (List.mem_ite_nil_right.mp h).2
          rw [List.mem_singleton.mp h]
          exact .emptyIndex (List.head?_eq_none_iff.mp hprimary)

/-- Constants and indexes are always built, so that files fail with a site or with the errors of a
    program. -/
theorem exists_site_of_files_eq_error {e : RenderError} (h : target.files tree = .error e) :
    (∃ site, tree.Renders site ∧ target.build site = .error e)
      ∨ ∃ program ∈ tree.programs, target.errors program = .error e := by
  obtain ⟨planned, hmem, he⟩ := files_fails h
  cases plannedAs_of_mem hmem with
  | site hsite => exact .inl ⟨_, hsite, he⟩
  | errors hp _ => exact .inr ⟨_, hp, he⟩
  | typesIndex _ _ | collectionIndex _ _ _ | programIndex _ | topIndex _ | emptyIndex _
  | programs _ => exact nomatch he

/-! ## Modules of a place -/

/-- A tree without a directory for each program has at most one. -/
theorem primary?_of_mem {tree : Tree} (hsingle : ¬ tree.isNested = true)
    {program : Program} (hp : program ∈ tree.programs) : tree.primary? = some program := by
  unfold Tree.isNested at hsingle
  unfold Tree.primary?
  cases hprograms : tree.programs with
  | nil => rw [hprograms] at hp; exact nomatch hp
  | cons first rest =>
      rw [hprograms] at hp hsingle
      have hrest : rest = [] := by
        rw [decide_eq_true_iff, List.length_cons] at hsingle
        exact List.length_eq_zero_iff.mp (by omega)
      rw [hrest] at hp
      exact congrArg some (List.mem_singleton.mp hp).symm

/-- The plan has what is planned for a program. -/
theorem mem_plan_of_mem_indexedPlan {program : Program} (hp : program ∈ tree.programs)
    {planned : Planned M}
    (h : planned ∈ target.indexedPlan tree program (target.homeOf tree (some program))) :
    planned ∈ target.plan tree := by
  unfold plan
  split
  · next hnested =>
      rw [homeOf, if_pos hnested] at h
      exact List.mem_append_left _ (List.mem_append_left _ (List.mem_flatMap.mpr ⟨program, hp, h⟩))
  · next hsingle =>
      rw [homeOf, if_neg hsingle] at h
      rw [primary?_of_mem hsingle hp]
      exact h

/-- The plan has what is planned for the types of a place. -/
theorem mem_plan_of_mem_types {place : Option Program} (hplace : tree.HasPlace place)
    {planned : Planned M}
    (h : planned ∈ ifAny (tree.typesAt place)
      (target.typePlan place (target.homeOf tree place) (tree.typesAt place))) :
    planned ∈ target.plan tree := by
  cases place with
  | some program =>
      refine mem_plan_of_mem_indexedPlan hplace ?_
      exact List.mem_append_left _ (List.mem_append_right _ h)
  | none =>
      have hnested : tree.isNested = true := hplace
      rw [plan, if_pos hnested]
      exact List.mem_append_left _ (List.mem_append_right _ h)

/-- The plan has the module of a type. -/
theorem mem_plan_type {place : Option Program} (hplace : tree.HasPlace place)
    {defined : DefinedType} (hmem : defined ∈ tree.typesAt place) :
    target.sitePlan tree (.definedType place defined) ∈ target.plan tree := by
  refine mem_plan_of_mem_types hplace (mem_ifAny.mpr ⟨List.ne_nil_of_mem hmem, ?_⟩)
  exact List.mem_append_left _ (List.mem_map.mpr ⟨defined, hmem, rfl⟩)

/-- The plan has the module of every site. -/
theorem mem_plan_site {site : Site} (h : tree.Renders site) :
    target.sitePlan tree site ∈ target.plan tree := by
  cases site with
  | definedType place defined => exact mem_plan_type h.1 h.2
  | account program account =>
      have hcollection : target.sitePlan tree (.account program account) ∈ ifAny program.accounts
          (target.collectionPlan (target.homeOf tree (some program) ++ ["accounts"]) (·.name)
            (target.account program) program.accounts) :=
        mem_ifAny.mpr ⟨List.ne_nil_of_mem h.2,
          List.mem_append_left _ (List.mem_map.mpr ⟨account, h.2, rfl⟩)⟩
      refine mem_plan_of_mem_indexedPlan h.1 (List.mem_append_left _ (List.mem_append_left _
        (List.mem_append_left _ (List.mem_append_left _ ?_))))
      exact List.mem_cons_of_mem _ hcollection
  | instruction program instruction =>
      have hcollection : target.sitePlan tree (.instruction program instruction)
          ∈ ifAny program.instructions (target.collectionPlan
            (target.homeOf tree (some program) ++ ["instructions"]) (·.name)
            (target.instruction program) program.instructions) :=
        mem_ifAny.mpr ⟨List.ne_nil_of_mem h.2,
          List.mem_append_left _ (List.mem_map.mpr ⟨instruction, h.2, rfl⟩)⟩
      exact mem_plan_of_mem_indexedPlan h.1 (List.mem_append_left _ (List.mem_append_left _
        (List.mem_append_left _ (List.mem_append_right _ hcollection))))

/-- Every site has a file among those that are built as planned. -/
theorem exists_file_of_site {built : List (ModuleFile M)}
    (hplanned : List.Forall₂ Planned.BuiltAs (target.plan tree) built) {site : Site}
    (h : tree.Renders site) : ∃ file ∈ built, (target.sitePlan tree site).BuiltAs file :=
  exists_of_forall₂_left hplanned (mem_plan_site h)

/-- The plan has the index of types that are there. -/
theorem mem_plan_typesIndex {place : Option Program} (hplace : tree.HasPlace place)
    (hany : tree.typesAt place ≠ []) : target.typesIndexPlan tree place ∈ target.plan tree :=
  mem_plan_of_mem_types hplace
    (mem_ifAny.mpr ⟨hany, List.mem_append_right _ List.mem_cons_self⟩)

/-- The plan has the index of a program. -/
theorem mem_plan_programIndex {program : Program} (hp : program ∈ tree.programs) :
    target.programIndexPlan tree program ∈ target.plan tree :=
  mem_plan_of_mem_indexedPlan hp (List.mem_append_right _ List.mem_cons_self)

/-- The plan of a tree of several programs has an index at the top. -/
theorem mem_plan_topIndex (hnested : tree.isNested = true) :
    target.topIndexPlan tree ∈ target.plan tree := by
  rw [plan, if_pos hnested]
  exact List.mem_append_right _ List.mem_cons_self

/-! ## Files that are planned once -/

/-- The files of types are apart in every place, and so are the directories. -/
structure TypesApart (target : Modules M) (tree : Tree) : Prop where
  programs : ∀ program ∈ tree.programs, target.FilesApart ((tree.typesOf program).map (·.name))
  sharedTypes : tree.isNested = true → target.FilesApart (tree.sharedTypes.map (·.name))
  directories : tree.isNested = true → target.DirectoriesApart tree

/-- The files of the types in a place are apart. -/
theorem TypesApart.at (h : target.TypesApart tree) {place : Option Program}
    (hplace : tree.HasPlace place) : target.FilesApart ((tree.typesAt place).map (·.name)) := by
  cases place with
  | some program => exact h.programs program hplace
  | none => exact h.sharedTypes hplace

/-- Files have the same names exactly when their directories and they have. -/
theorem namesIn_eq_iff {directory directory' : List String} {name name' : String} :
    target.namesIn directory name = target.namesIn directory' name'
      ↔ directory = directory' ∧ name = name' := by
  constructor
  · intro h
    obtain ⟨rfl, -⟩ := List.append_inj' h rfl
    exact ⟨rfl, namesIn_injective directory h⟩
  · rintro ⟨rfl, rfl⟩
    rfl

section Apart

variable (hapart : target.TypesApart tree) {place place' : Option Program}

include hapart

/-- Beside several programs, each has a directory of its own name. -/
theorem homeOf_nested (hnested : tree.isNested = true) {program : Program}
    (hp : program ∈ tree.programs) :
    target.homeOf tree (some program) = [target.fileName program.name] := by
  rw [homeOf, if_pos hnested, directoryOf,
    if_neg ((hapart.directories hnested).named program hp)]

/-- Places have different directories. -/
theorem home_injective (hplace : tree.HasPlace place) (hplace' : tree.HasPlace place')
    (h : target.homeOf tree place = target.homeOf tree place') : place = place' := by
  by_cases hnested : tree.isNested = true
  · cases place with
    | none =>
        cases place' with
        | none => rfl
        | some program' =>
            rw [homeOf_nested hapart hnested hplace'] at h
            exact nomatch h
    | some program =>
        rw [homeOf_nested hapart hnested hplace] at h
        cases place' with
        | none => exact nomatch h
        | some program' =>
            rw [homeOf_nested hapart hnested hplace'] at h
            exact congrArg some (List.inj_on_of_nodup_map (hapart.directories hnested).distinct
              hplace hplace' (List.singleton_inj.mp h))
  · cases place with
    | none => exact absurd hplace hnested
    | some program =>
        cases place' with
        | none => exact absurd hplace' hnested
        | some program' =>
            rw [← primary?_of_mem hnested hplace, primary?_of_mem hnested hplace']

/-- No place is a part of another: the shared types are not in the directory of a program. -/
theorem home_ne_part (hplace : tree.HasPlace place) {part : String}
    (hplace' : tree.HasPlace place')
    (hshared : place' = none → part = "types" ∧ tree.sharedTypes ≠ []) :
    target.homeOf tree place ≠ target.homeOf tree place' ++ [part] := by
  intro h
  by_cases hempty : target.homeOf tree place = []
  · rw [hempty] at h
    exact List.append_ne_nil_of_right_ne_nil _ (List.cons_ne_nil _ _) h.symm
  · have hnested : tree.isNested = true := by
      by_contra hsingle
      cases place with
      | none => exact hempty rfl
      | some program => exact hempty (if_neg hsingle)
    cases place with
    | none => exact hempty rfl
    | some program =>
        rw [homeOf_nested hapart hnested hplace] at h
        cases place' with
        | some program' =>
            rw [homeOf_nested hapart hnested hplace'] at h
            exact nomatch (List.cons.inj h).2
        | none =>
            obtain ⟨rfl, hany⟩ := hshared rfl
            exact (hapart.directories hnested).notShared hany program hplace
              (List.singleton_inj.mp h)

/-- What is planned in the directory of the types of a place is the index of these types, or the
    module of one of them. -/
theorem PlannedAs.of_types (hplace : tree.HasPlace place) (hany : tree.typesAt place ≠ [])
    {planned : Planned M} (h : target.PlannedAs tree planned) {file : String}
    (hnames : planned.names = target.namesIn (target.homeOf tree place ++ ["types"]) file) :
    file = target.index ∧ planned = target.typesIndexPlan tree place
      ∨ ∃ defined ∈ tree.typesAt place, file = target.fileName defined.name
        ∧ planned = target.sitePlan tree (.definedType place defined) := by
  have hshared : place = none → "types" = "types" ∧ tree.sharedTypes ≠ [] := by
    rintro rfl
    exact ⟨rfl, hany⟩
  have accounts_ne_types : "accounts" ≠ "types" := by decide
  have instructions_ne_types : "instructions" ≠ "types" := by decide
  cases h with
  | @site site hsite =>
      obtain ⟨hdirectory, rfl⟩ := namesIn_eq_iff.mp hnames
      obtain ⟨hhome, hpart⟩ := List.append_inj' hdirectory rfl
      have hscope := home_injective hapart hsite.hasPlace hplace hhome
      cases site with
      | definedType scope defined =>
          obtain rfl : scope = place := hscope
          exact .inr ⟨defined, hsite.2, rfl, rfl⟩
      | account program node => exact absurd (List.singleton_inj.mp hpart) accounts_ne_types
      | instruction program node =>
          exact absurd (List.singleton_inj.mp hpart) instructions_ne_types
  | typesIndex hplace' hany' =>
      obtain ⟨hdirectory, rfl⟩ := namesIn_eq_iff.mp hnames
      obtain ⟨hhome, -⟩ := List.append_inj' hdirectory rfl
      obtain rfl := home_injective hapart hplace' hplace hhome
      exact .inl ⟨rfl, rfl⟩
  | collectionIndex hp hpart names =>
      obtain ⟨hdirectory, -⟩ := namesIn_eq_iff.mp hnames
      obtain ⟨-, hpart'⟩ := List.append_inj' hdirectory rfl
      exact absurd (List.singleton_inj.mp hpart') hpart
  | @programIndex program hp | @programs program hp | @errors program hp =>
      have hplace' : tree.HasPlace (some program) := hp
      exact absurd (namesIn_eq_iff.mp hnames).1 (home_ne_part hapart hplace' hplace hshared)
  | topIndex | emptyIndex =>
      exact absurd (namesIn_eq_iff.mp hnames).1.symm
        (List.append_ne_nil_of_right_ne_nil _ (List.cons_ne_nil _ _))

/-- The index of a program is planned once. -/
theorem PlannedAs.of_programIndex (hr : target.Regular) {program : Program}
    (hp : program ∈ tree.programs) {planned : Planned M} (h : target.PlannedAs tree planned)
    (hnames : planned.names
      = target.namesIn (target.homeOf tree (some program)) target.index) :
    planned = target.programIndexPlan tree program := by
  have hprogram : tree.HasPlace (some program) := hp
  have hpart : ∀ {place : Option Program} {part : String}, tree.HasPlace place →
      (place = none → part = "types" ∧ tree.sharedTypes ≠ []) →
      target.homeOf tree place ++ [part] ≠ target.homeOf tree (some program) :=
    fun hplace hshared => (home_ne_part hapart hprogram hplace hshared).symm
  cases h with
  | site hsite => exact absurd (namesIn_eq_iff.mp hnames).1 (hpart hsite.hasPlace hsite.shared)
  | @typesIndex place hplace hany =>
      refine absurd (namesIn_eq_iff.mp hnames).1 (hpart hplace ?_)
      rintro rfl
      exact ⟨rfl, hany⟩
  | @collectionIndex program' hp' _ _ _ =>
      have hplace : tree.HasPlace (some program') := hp'
      exact absurd (namesIn_eq_iff.mp hnames).1 (hpart hplace nofun)
  | @programIndex program' hp' =>
      have hplace : tree.HasPlace (some program') := hp'
      have heq := home_injective hapart hplace hprogram (namesIn_eq_iff.mp hnames).1
      rw [Option.some.inj heq]
  | topIndex hnested =>
      rw [homeOf_nested hapart hnested hp] at hnames
      exact nomatch (namesIn_eq_iff.mp hnames).1
  | emptyIndex hnone => rw [hnone] at hp; exact nomatch hp
  | programs _ => exact absurd (namesIn_eq_iff.mp hnames).2.symm hr.notPrograms
  | errors _ => exact absurd (namesIn_eq_iff.mp hnames).2.symm hr.notErrors

/-- The index at the top of a tree of several programs is planned once. -/
theorem PlannedAs.of_topIndex (hnested : tree.isNested = true) {planned : Planned M}
    (h : target.PlannedAs tree planned) (hnames : planned.names = target.namesIn [] target.index) :
    planned = target.topIndexPlan tree := by
  have hpart : ∀ {directory : List String} {part : String}, directory ++ [part] ≠ [] :=
    List.append_ne_nil_of_right_ne_nil _ (List.cons_ne_nil _ _)
  cases h with
  | site _ | typesIndex _ _ | collectionIndex _ _ _ =>
      exact absurd (namesIn_eq_iff.mp hnames).1 hpart
  | programIndex hp | programs hp | errors hp =>
      have hhome := (namesIn_eq_iff.mp hnames).1
      rw [homeOf_nested hapart hnested hp] at hhome
      exact nomatch hhome
  | topIndex _ => rfl
  | emptyIndex hnone =>
      have hmany : 1 < tree.programs.length := of_decide_eq_true hnested
      rw [hnone] at hmany
      exact absurd hmany (by decide)

end Apart

/-! ## Files that are found -/

variable {files : List (ModuleFile M)} {textOf : M → String}

/-- A module that nothing else is planned in the place of is found under its names. -/
theorem has_of_unique (textOf : M → String)
    (hfiles : List.Forall₂ Planned.BuiltAs (target.plan tree) files)
    {planned : Planned M} (hmem : planned ∈ target.plan tree)
    (hunique : ∀ other ∈ target.plan tree, other.names = planned.names → other = planned) :
    ∃ module, planned.build = .ok module
      ∧ (Artifacts.ofFiles (files.map (ModuleFile.written textOf))).Has planned.names
        (textOf module) := by
  obtain ⟨file, hfile, hbuilt⟩ := exists_of_forall₂_left hfiles hmem
  have hkey : planned.names.map FilePath.Step.name
      ∈ Artifacts.stepsOf (files.map (ModuleFile.written textOf)) :=
    hbuilt.path.steps ▸ List.mem_map_of_mem (List.mem_map_of_mem hfile)
  obtain ⟨⟨path, contents⟩, hfound, _, hwritten, hsteps, rfl⟩ :=
    Artifacts.exists_contents_ofFiles hkey
  obtain ⟨last, hlast, rfl⟩ := List.mem_map.mp hwritten
  -- the last file of these steps may be another one, but it is built by the same plan
  obtain ⟨other, hother, hbuilt'⟩ := exists_of_forall₂_right hfiles hlast
  have hsame : other.names = planned.names := by
    have hpath : FilePath.steps last.path = planned.names.map .name := hsteps
    rw [hbuilt'.path.steps] at hpath
    exact List.map_injective_iff.mpr (fun a b heq => FilePath.Step.name.inj heq) hpath
  obtain rfl := hunique other hother hsame
  exact ⟨last.module, hbuilt'.module, path, hfound⟩

/-- A directory of types shows a type: the module is built for the type, the index lists it, which
    `lists` tells of the text of an index and the name of a file, and its file holds it. -/
structure ShowsType (target : Modules M) (artifacts : Artifacts) (textOf : M → String)
    (lists : String → String → Prop) (directory : List String) (defined : DefinedType)
    (module : M) : Prop where
  built : ∃ place, target.definedType place defined = .ok module
  listed : ∃ children, target.fileName defined.name ∈ children
    ∧ artifacts.Has (target.namesIn directory target.index)
        (textOf (target.indexOf .collection children))
    ∧ lists (textOf (target.indexOf .collection children)) (target.fileName defined.name)
  held : artifacts.Has (target.namesIn directory (target.fileName defined.name)) (textOf module)

variable {artifacts : Artifacts}

section Found

variable (hr : target.Regular) (hapart : target.TypesApart tree)
  (hfiles : List.Forall₂ Planned.BuiltAs (target.plan tree) files)
  (hartifacts : artifacts = Artifacts.ofFiles (files.map (ModuleFile.written textOf)))

include hapart hfiles hartifacts

/-- **WHERE A TYPE IS SHOWN**: the types in a place are shown by the directory of its types, as an
    index lists all of its children. -/
theorem showsType {lists : String → String → Prop}
    (hlists : ∀ children, ∀ child ∈ children,
      lists (textOf (target.indexOf .collection children)) child)
    {place : Option Program} (hplace : tree.HasPlace place) {defined : DefinedType}
    (hmem : defined ∈ tree.typesAt place) :
    ∃ module, target.definedType place defined = .ok module
      ∧ target.ShowsType artifacts textOf lists (target.homeOf tree place ++ ["types"]) defined
          module := by
  subst hartifacts
  have hany : tree.typesAt place ≠ [] := List.ne_nil_of_mem hmem
  have hfilesApart := hapart.at hplace
  have hnotIndex : ∀ other ∈ tree.typesAt place, target.fileName other.name ≠ target.index :=
    fun other hother heq => hfilesApart.notIndex
      (List.mem_map.mpr ⟨other.name, List.mem_map_of_mem hother, heq⟩)
  have hdistinct : ∀ other ∈ tree.typesAt place,
      target.fileName other.name = target.fileName defined.name → other = defined := by
    intro other hother heq
    have hnodup := hfilesApart.distinct
    rw [List.map_map] at hnodup
    exact List.inj_on_of_nodup_map hnodup hother hmem heq
  obtain ⟨module, hmodule, hheld⟩ := has_of_unique textOf hfiles
    (mem_plan_type hplace hmem) fun other hother hnames => by
      rcases (plannedAs_of_mem hother).of_types hapart hplace hany hnames with
        ⟨hindex, -⟩ | ⟨found, hfound, hname, rfl⟩
      · exact absurd hindex (hnotIndex defined hmem)
      · rw [hdistinct found hfound hname.symm]
  obtain ⟨index, hindex, hlisted⟩ := has_of_unique textOf hfiles
    (mem_plan_typesIndex hplace hany) fun other hother hnames => by
      rcases (plannedAs_of_mem hother).of_types hapart hplace hany hnames with
        ⟨-, heq⟩ | ⟨found, hfound, hname, -⟩
      · exact heq
      · exact absurd hname.symm (hnotIndex found hfound)
  rw [← Except.ok.inj hindex] at hlisted
  have hchild : target.fileName defined.name
      ∈ (tree.typesAt place).map (fun defined => target.fileName defined.name) :=
    List.mem_map.mpr ⟨defined, hmem, rfl⟩
  exact ⟨module, hmodule, ⟨place, hmodule⟩, ⟨_, hchild, hlisted, hlists _ _ hchild⟩, hheld⟩

include hr in
/-- The index of a program is found. -/
theorem has_programIndex {program : Program} (hp : program ∈ tree.programs) :
    artifacts.Has (target.namesIn (target.homeOf tree (some program)) target.index)
      (textOf (target.indexOf .program (partsOf tree program))) := by
  subst hartifacts
  obtain ⟨module, hmodule, hhas⟩ := has_of_unique textOf hfiles
    (mem_plan_programIndex hp) fun other hother hnames =>
      (plannedAs_of_mem hother).of_programIndex hapart hr hp hnames
  rw [← Except.ok.inj hmodule] at hhas
  exact hhas

/-- The index at the top of a tree of several programs is found. -/
theorem has_topIndex (hnested : tree.isNested = true) :
    artifacts.Has (target.namesIn [] target.index) (textOf (target.indexOf .programs
      (tree.programs.map (fun program => target.fileName program.name)
        ++ ifAny tree.sharedTypes ["types"]))) := by
  subst hartifacts
  obtain ⟨module, hmodule, hhas⟩ := has_of_unique textOf hfiles
    (mem_plan_topIndex hnested) fun other hother hnames =>
      (plannedAs_of_mem hother).of_topIndex hapart hnested hnames
  rw [← Except.ok.inj hmodule] at hhas
  exact hhas

end Found

end Modules

end Bindery
