import Bindery.Proofs.TypeLinks.Resolved

/-! # Denoted types — links lead to the types that they stand for

    A link of a program stands for a type of the program or, where the program has
    none of that name, for a shared type; a link of a shared type stands for a
    shared type.  Where no type of a program has the name of a shared one, what a
    link stands for is rendered in the place in which generated source looks for it
    (`Tree.denoted?_mem_typesAt`), whatever scope the link is rendered in.

    Links of generated source are those of sites, so all of them lead to the types
    that they stand for: in the crate every path of a declared type, in the package
    every import that is not of the library, of constants or of accounts
    (`links_lead`). -/

namespace Bindery

/-! ## What a link stands for -/

/-- The type that a link stands for: one of the program that owns the link, else a shared one.
    The links of shared types have no program. -/
def Tree.denoted? (tree : Tree) (owner : Option Program) (name : String) : Option DefinedType :=
  (owner.bind (·.definedType? name)).or (tree.sharedType? name)

/-- Who owns the links of a site: its program, or no program if it is a shared type. -/
inductive Tree.OwnsSite (tree : Tree) : Option Program → Site → Prop
  | account (program : Program) (account : Account) :
      tree.OwnsSite (some program) (.account program account)
  | instruction (program : Program) (instruction : Instruction) :
      tree.OwnsSite (some program) (.instruction program instruction)
  | ownType {program : Program} {defined : DefinedType} (h : defined ∈ program.definedTypes) :
      tree.OwnsSite (some program) (.definedType (some program) defined)
  | sharedType {scope : Option Program} {defined : DefinedType} (h : defined ∈ tree.sharedTypes) :
      tree.OwnsSite none (.definedType scope defined)

/-- A site links to a name, and the link stands for a type. -/
structure Tree.Denotes (tree : Tree) (site : Site) (name : String) (defined : DefinedType) :
    Prop where
  linked : name ∈ site.links
  denoted : ∃ owner, tree.OwnsSite owner site ∧ tree.denoted? owner name = some defined

/-- Every link stands for a type: those of programs, those in the types of seeds with them, and
    those of shared types. -/
structure Tree.LinksResolve (tree : Tree) : Prop where
  programs : ∀ program ∈ tree.programs, ∀ name ∈ program.links ++ program.seedLinks,
    (tree.denoted? (some program) name).isSome = true
  sharedTypes : ∀ shared ∈ tree.sharedTypes, ∀ name ∈ shared.type.links,
    (tree.denoted? none name).isSome = true

/-- No type of a program has the name of a shared type. -/
def Tree.Unshadowed (tree : Tree) : Prop :=
  ∀ program ∈ tree.programs, ∀ shared ∈ tree.sharedTypes, program.defines shared.name = false

/-- Programs and types have names of modules as they stand. -/
structure Tree.NamesModules (tree : Tree) : Prop where
  programs : ∀ program ∈ tree.programs, Crate.NamesModule program.name
  definedTypes : ∀ program ∈ tree.programs, ∀ defined ∈ program.definedTypes,
    Crate.NamesModule defined.name
  sharedTypes : ∀ shared ∈ tree.sharedTypes, Crate.NamesModule shared.name

section Denoted

variable {tree : Tree} {scope owner : Option Program} {site : Site} {name : String}
  {defined : DefinedType}

/-- Sites have owners: each its program, or it is a shared type. -/
theorem Tree.Renders.exists_owner (h : tree.Renders site) :
    ∃ owner, tree.OwnsSite owner site ∧ (owner = none ∨ owner = site.scope) := by
  cases site with
  | account program node => exact ⟨_, .account program node, .inr rfl⟩
  | instruction program node => exact ⟨_, .instruction program node, .inr rfl⟩
  | definedType scope defined =>
      cases scope with
      | none => exact ⟨_, .sharedType h.2, .inl rfl⟩
      | some program =>
          have hmem : defined ∈ tree.typesOf program := h.2
          unfold Tree.typesOf at hmem
          split at hmem
          · exact ⟨_, .ownType hmem, .inr rfl⟩
          · rcases List.mem_append.mp hmem with hown | hshared
            · exact ⟨_, .ownType hown, .inr rfl⟩
            · exact ⟨_, .sharedType (List.mem_of_mem_filter hshared), .inl rfl⟩

/-- The links of a site stand for types where all links do. -/
theorem Tree.LinksResolve.denotes (hresolve : tree.LinksResolve) (hsite : tree.Renders site)
    (howner : tree.OwnsSite owner site) (hname : name ∈ site.links) :
    ∃ defined, tree.denoted? owner name = some defined := by
  rw [← Option.isSome_iff_exists]
  cases howner with
  | account program account =>
      refine hresolve.programs program hsite.1 name ?_
      rcases List.mem_append.mp hname with hfield | hseed
      · rw [TypeNode.fieldLinks_eq_flatMap] at hfield
        refine List.mem_append_left _ (List.mem_append_left _ (List.mem_append_left _ ?_))
        exact List.mem_flatMap.mpr ⟨account, hsite.2, hfield⟩
      · exact List.mem_append_right _ (List.mem_flatMap.mpr ⟨account, hsite.2, hseed⟩)
  | instruction program instruction =>
      refine hresolve.programs program hsite.1 name (List.mem_append_left _ ?_)
      refine List.mem_append_left _ (List.mem_append_right _ ?_)
      exact List.mem_flatMap.mpr ⟨instruction, hsite.2, hname⟩
  | @ownType program defined hown =>
      refine hresolve.programs program hsite.1 name (List.mem_append_left _ ?_)
      exact List.mem_append_right _ (List.mem_flatMap.mpr ⟨defined, hown, hname⟩)
  | @sharedType scope defined hshared => exact hresolve.sharedTypes defined hshared name hname

/-- A shared type is in the place where a link of its name is looked for, unless a type of the
    program has that name. -/
theorem Tree.sharedType_mem_typesAt (hshared : defined ∈ tree.sharedTypes)
    (hfree : ∀ program, scope = some program → program.defines defined.name = false) :
    defined ∈ tree.typesAt (tree.placeOf scope defined.name) := by
  cases scope with
  | none => exact hshared
  | some program =>
      have hdefines := hfree program rfl
      by_cases hnested : tree.isNested = true
      · rw [Tree.placeOf, if_pos ⟨hnested, hdefines⟩]
        exact hshared
      · rw [Tree.placeOf, if_neg fun h => hnested h.1]
        show defined ∈ tree.typesOf program
        rw [Tree.typesOf, if_neg hnested]
        refine List.mem_append_right _ (List.mem_filter.mpr ⟨hshared, ?_⟩)
        rw [hdefines]
        rfl

/-- A type of a program is in the place where a link of its name is looked for. -/
theorem Tree.ownType_mem_typesAt {program : Program} (hown : defined ∈ program.definedTypes)
    (hdefines : program.defines defined.name = true) :
    defined ∈ tree.typesAt (tree.placeOf (some program) defined.name) := by
  rw [Tree.placeOf, if_neg fun h => Bool.noConfusion (hdefines.symm.trans h.2)]
  show defined ∈ tree.typesOf program
  unfold Tree.typesOf
  split
  · exact hown
  · exact List.mem_append_left _ hown

/-- **WHAT A LINK STANDS FOR IS WHERE IT IS LOOKED FOR**: what a link of a scope stands for is in
    the place of the link. -/
theorem Tree.denoted?_mem_typesAt (h : tree.denoted? scope name = some defined) :
    defined.name = name ∧ defined ∈ tree.typesAt (tree.placeOf scope name) := by
  rcases Option.or_eq_some_iff.mp h with hlocal | ⟨hnone, hshared⟩
  · obtain ⟨program, rfl, hown⟩ := Option.bind_eq_some_iff.mp hlocal
    obtain rfl : defined.name = name := name_of_find? hown
    exact ⟨rfl, Tree.ownType_mem_typesAt (List.mem_of_find?_eq_some hown)
      (Option.isSome_of_mem hown)⟩
  · obtain rfl : defined.name = name := name_of_find? hshared
    refine ⟨rfl, Tree.sharedType_mem_typesAt (List.mem_of_find?_eq_some hshared) ?_⟩
    rintro program rfl
    exact Option.isSome_eq_false_iff.mpr (Option.isNone_iff_eq_none.mpr hnone)

/-- What a link of a shared type stands for it also stands for in the scope of a program, if no
    type of the program is in the way. -/
theorem Tree.Unshadowed.denoted? (hunshadowed : tree.Unshadowed) (hscope : tree.HasPlace scope)
    (howner : owner = none ∨ owner = scope) (h : tree.denoted? owner name = some defined) :
    tree.denoted? scope name = some defined := by
  rcases howner with rfl | rfl
  · have hshared : tree.sharedType? name = some defined := h
    obtain rfl : defined.name = name := name_of_find? hshared
    cases scope with
    | none => exact h
    | some program =>
        have hdefines :=
          hunshadowed program hscope defined (List.mem_of_find?_eq_some hshared)
        refine Option.or_eq_some_iff.mpr (.inr ⟨?_, hshared⟩)
        exact Option.isNone_iff_eq_none.mp (Option.isSome_eq_false_iff.mp hdefines)
  · exact h

/-- Types in a place have names of modules where all types do. -/
theorem Tree.NamesModules.of_mem (h : tree.NamesModules) (hplace : tree.HasPlace scope)
    (hmem : defined ∈ tree.typesAt scope) : Crate.NamesModule defined.name := by
  cases scope with
  | none => exact h.sharedTypes defined hmem
  | some program =>
      have hmem : defined ∈ tree.typesOf program := hmem
      unfold Tree.typesOf at hmem
      split at hmem
      · exact h.definedTypes program hplace defined hmem
      · rcases List.mem_append.mp hmem with hown | hshared
        · exact h.definedTypes program hplace defined hown
        · exact h.sharedTypes defined (List.mem_of_mem_filter hshared)

end Denoted

/-! ## Links of built modules -/

/-- A module with links is that of a site, if no index, constants or errors have any. -/
theorem Modules.exists_site {M L : Type} {target : Modules M} {tree : Tree}
    {files : List (ModuleFile M)}
    (hfiles : List.Forall₂ Planned.BuiltAs (target.plan tree) files) (linksOf : M → List L)
    (hindex : ∀ kind children, linksOf (target.indexOf kind children) = [])
    (hprograms : ∀ program, linksOf (target.programs program) = [])
    (herrors : ∀ program module, target.errors program = .ok module → linksOf module = [])
    {file : ModuleFile M} (hfile : file ∈ files) (hempty : linksOf file.module ≠ []) :
    ∃ site, tree.Renders site ∧ (target.sitePlan tree site).BuiltAs file := by
  obtain ⟨planned, hplanned, hbuilt⟩ := exists_of_forall₂_right hfiles hfile
  have hmodule := hbuilt.module
  cases plannedAs_of_mem hplanned with
  | @site site hsite => exact ⟨site, hsite, hbuilt⟩
  | typesIndex _ _ | collectionIndex _ _ _ | programIndex _ | topIndex _ | emptyIndex _ =>
      rw [← Except.ok.inj hmodule] at hempty
      exact absurd (hindex _ _) hempty
  | programs _ =>
      rw [← Except.ok.inj hmodule] at hempty
      exact absurd (hprograms _) hempty
  | errors _ => exact absurd (herrors _ _ hmodule) hempty

/-- The links of a site's module in the crate are links of the site. -/
theorem Crate.exists_link_of_site {nested : Bool} {site : Site} {module : Module}
    (h : (modules nested).build site = .ok module) {path : TypePath} (hpath : path ∈ module.links) :
    ∃ name ∈ site.links, path = (Scope.mk nested site.scope).link name := by
  cases site with
  | account program account =>
      obtain ⟨made, hmade, h⟩ := bind_eq_ok.mp h
      rw [← pure_eq_ok.mp h, AccountModule.links_of hmade] at hpath
      obtain ⟨name, hname, rfl⟩ := List.mem_map.mp hpath
      exact ⟨name, List.mem_append_left _ hname, rfl⟩
  | instruction program instruction =>
      obtain ⟨made, hmade, h⟩ := bind_eq_ok.mp h
      rw [← pure_eq_ok.mp h, InstructionModule.links_of hmade] at hpath
      obtain ⟨name, hname, rfl⟩ := List.mem_map.mp hpath
      exact ⟨name, hname, rfl⟩
  | definedType scope defined =>
      obtain ⟨made, hmade, h⟩ := bind_eq_ok.mp h
      rw [← pure_eq_ok.mp h, Declaration.links_of hmade] at hpath
      obtain ⟨name, hname, rfl⟩ := List.mem_map.mp hpath
      exact ⟨name, hname, rfl⟩

/-- The links of a site's module in the package are those of the site. -/
theorem Package.mem_links_of_site {nested : Bool} {site : Site} {module : Module}
    (h : (modules nested).build site = .ok module) {link : TypeLink} :
    link ∈ module.links ↔ ∃ name ∈ site.links, (Scope.mk nested site.scope).link name = link := by
  rw [← List.mem_map]
  cases site with
  | account program account =>
      obtain ⟨made, hmade, h⟩ := bind_eq_ok.mp h
      rw [← pure_eq_ok.mp h]
      exact AccountModule.mem_links hmade
  | instruction program instruction =>
      obtain ⟨made, hmade, h⟩ := bind_eq_ok.mp h
      rw [← pure_eq_ok.mp h]
      exact InstructionModule.mem_links hmade
  | definedType scope defined =>
      obtain ⟨made, hmade, h⟩ := bind_eq_ok.mp h
      rw [← pure_eq_ok.mp h]
      exact Declaration.mem_links hmade

/-- The modules of errors of the crate have no links. -/
theorem Crate.links_errors {nested : Bool} {program : Program} {module : Module}
    (h : (modules nested).errors program = .ok module) : module.links = [] := by
  simp only [modules, Module.ofErrors, ite_eq_ok] at h
  rw [← h.2]
  rfl

/-! ## Links of rendered trees -/

/-- The links of a site's module in a crate lead to what they stand for in the site's scope. -/
theorem Crate.leadsTo_of_site {tree : Tree} {mount : ModulePath} {formatted : Bool}
    {built : List (ModuleFile Module)} {artifacts : Artifacts} (hnames : tree.NamesModules)
    (hapart : (modules tree.isNested).TypesApart tree)
    (hplanned : List.Forall₂ Planned.BuiltAs ((modules tree.isNested).plan tree) built)
    (hartifacts : artifacts
      = Artifacts.ofFiles (built.map (ModuleFile.written (textOf mount formatted))))
    {site : Site} (hsite : tree.Renders site) {file : ModuleFile Module}
    (hfile : ((modules tree.isNested).sitePlan tree site).BuiltAs file) {path : TypePath}
    (hpath : path ∈ file.module.links) :
    ∃ name ∈ site.links, path = (Scope.mk tree.isNested site.scope).link name
      ∧ ∀ defined, tree.denoted? site.scope name = some defined →
          LeadsTo tree.isNested artifacts mount formatted path defined := by
  obtain ⟨name, hname, rfl⟩ := exists_link_of_site hfile.module hpath
  refine ⟨name, hname, rfl, fun defined hdenoted => ?_⟩
  obtain ⟨rfl, hmem⟩ := Tree.denoted?_mem_typesAt hdenoted
  exact leadsTo hapart hnames.programs hplanned hartifacts hsite.hasPlace
    (hnames.of_mem (hsite.hasPlace.placeOf _) hmem) hmem

/-- An import that is not for a link: of the library, of constants of the program, or of its
    accounts. -/
def Package.Import.IsLinkless (i : Import) : Prop :=
  i.source ∈ [kitModule, "../programs", "../accounts"]

/-- Other imports are for a link of the module: for its type or for its codec. -/
theorem Package.Module.exists_link {module : Module} {i : Import}
    (hi : i ∈ module.source.imports) (hlink : ¬ i.IsLinkless) :
    ∃ link ∈ module.links, i.source = link.module
      ∧ (i.name = "type " ++ link.name ∨ i.name = Codec.functionName link.name) := by
  cases module.importsFor.imports i hi with
  | kit name => exact absurd List.mem_cons_self hlink
  | programs name => exact absurd (List.mem_cons_of_mem _ List.mem_cons_self) hlink
  | accounts name =>
      exact absurd (List.mem_cons_of_mem _ (List.mem_cons_of_mem _ List.mem_cons_self)) hlink
  | @type link hmem => exact ⟨link, hmem, rfl, .inl rfl⟩
  | @codec link hmem => exact ⟨link, hmem, rfl, .inr rfl⟩

/-- The imports for links of a site's module in a package lead to what they stand for in the
    site's scope. -/
theorem Package.leadsTo_of_site {tree : Tree} {built : List (ModuleFile Module)}
    {artifacts : Artifacts} (hapart : (modules tree.isNested).TypesApart tree)
    (hplanned : List.Forall₂ Planned.BuiltAs ((modules tree.isNested).plan tree) built)
    (hartifacts : artifacts = Artifacts.ofFiles (built.map (ModuleFile.written textOf)))
    {site : Site} (hsite : tree.Renders site) {file : ModuleFile Module}
    (hfile : ((modules tree.isNested).sitePlan tree site).BuiltAs file) {i : Import}
    (hi : i ∈ file.module.source.imports) (hlink : ¬ i.IsLinkless) :
    ∃ name ∈ site.links, i.source = ((Scope.mk tree.isNested site.scope).link name).module
      ∧ ∀ defined, tree.denoted? site.scope name = some defined →
          LeadsTo tree.isNested artifacts file i defined := by
  obtain ⟨link, hmem, hsource, hspelled⟩ := Module.exists_link hi hlink
  obtain ⟨name, hname, rfl⟩ := (mem_links_of_site hfile.module).mp hmem
  refine ⟨name, hname, hsource, fun defined hdenoted => ?_⟩
  obtain ⟨rfl, hmem⟩ := Tree.denoted?_mem_typesAt hdenoted
  exact leadsTo hapart hplanned hartifacts hsite hfile hmem hsource hspelled

/-- Every link of the modules of a crate leads to the type that it stands for as a link of the
    site that the module is built for. -/
def Crate.LinksLead (tree : Tree) (files : List (ModuleFile Module)) (artifacts : Artifacts)
    (mount : ModulePath) (formatted : Bool) : Prop :=
  ∀ file ∈ files, ∀ path ∈ file.module.links, ∃ site name defined,
    tree.Renders site ∧ ((modules tree.isNested).sitePlan tree site).BuiltAs file
      ∧ tree.Denotes site name defined
      ∧ path = (Scope.mk tree.isNested site.scope).link name
      ∧ LeadsTo tree.isNested artifacts mount formatted path defined

/-- Every import for a link of the modules of a package leads to the type that it stands for as a
    link of the site that the module is built for. -/
def Package.LinksLead (tree : Tree) (files : List (ModuleFile Module)) (artifacts : Artifacts) :
    Prop :=
  ∀ file ∈ files, ∀ i ∈ file.module.source.imports, ¬ i.IsLinkless → ∃ site name defined,
    tree.Renders site ∧ ((modules tree.isNested).sitePlan tree site).BuiltAs file
      ∧ tree.Denotes site name defined
      ∧ i.source = ((Scope.mk tree.isNested site.scope).link name).module
      ∧ LeadsTo tree.isNested artifacts file i defined

section Rendered

variable {tree : Tree} {options : RenderOptions} (hresolve : tree.LinksResolve)
  (hunshadowed : tree.Unshadowed)

include hresolve hunshadowed

/-- A link of a site denotes a type, and stands for it in the scope of the site too. -/
theorem exists_denoted {site : Site} (hsite : tree.Renders site) {name : String}
    (hname : name ∈ site.links) :
    ∃ defined, tree.Denotes site name defined
      ∧ tree.denoted? site.scope name = some defined := by
  obtain ⟨owner, howns, howner⟩ := hsite.exists_owner
  obtain ⟨defined, hdenoted⟩ := hresolve.denotes hsite howns hname
  exact ⟨defined, ⟨hname, owner, howns, hdenoted⟩,
    hunshadowed.denoted? hsite.hasPlace howner hdenoted⟩

/-- The links of a rendered crate lead to the types that they stand for. -/
theorem Crate.linksLead (hnames : tree.NamesModules)
    (hapart : (modules tree.isNested).TypesApart tree) {artifacts : Artifacts}
    (h : render tree options = .ok artifacts) :
    ∃ mount built, mountOf options = .ok mount ∧ files tree = .ok built
      ∧ artifacts = Artifacts.ofFiles
          (built.map (ModuleFile.written (textOf mount options.formatCode)))
      ∧ LinksLead tree built artifacts mount options.formatCode := by
  obtain ⟨mount, built, hmount, hbuilt, hartifacts⟩ := render_eq_ok h
  have hplanned := Modules.files_builtAs (modules_regular _) hbuilt
  refine ⟨mount, built, hmount, hbuilt, hartifacts, fun file hfile path hpath => ?_⟩
  obtain ⟨site, hsite, hfileBuilt⟩ := Modules.exists_site hplanned Module.links
    (fun _ _ => rfl) (fun _ => rfl) (fun _ _ => links_errors) hfile (List.ne_nil_of_mem hpath)
  obtain ⟨name, hname, hpath, hleads⟩ :=
    leadsTo_of_site hnames hapart hplanned hartifacts hsite hfileBuilt hpath
  obtain ⟨defined, hdenotes, hdenoted⟩ := exists_denoted hresolve hunshadowed hsite hname
  exact ⟨site, name, defined, hsite, hfileBuilt, hdenotes, hpath, hleads defined hdenoted⟩

/-- The links of a rendered package lead to the types that they stand for. -/
theorem Package.linksLead (hapart : (modules tree.isNested).TypesApart tree)
    {artifacts : Artifacts} (h : render tree options = .ok artifacts) :
    ∃ built, files tree = .ok built
      ∧ artifacts = Artifacts.ofFiles (built.map (ModuleFile.written textOf))
      ∧ LinksLead tree built artifacts := by
  obtain ⟨built, hbuilt, hartifacts⟩ := render_eq_ok h
  have hplanned := Modules.files_builtAs (modules_regular _) hbuilt
  refine ⟨built, hbuilt, hartifacts, fun file hfile i hi => ?_⟩
  intro hlink
  obtain ⟨link, hmem, -⟩ := Module.exists_link hi hlink
  obtain ⟨site, hsite, hfileBuilt⟩ := Modules.exists_site hplanned Module.links
    (fun _ _ => rfl) (fun _ => rfl) (fun _ _ herrors => by rw [← Except.ok.inj herrors]; rfl)
    hfile (List.ne_nil_of_mem hmem)
  obtain ⟨name, hname, hsource, hleads⟩ :=
    leadsTo_of_site hapart hplanned hartifacts hsite hfileBuilt hi hlink
  obtain ⟨defined, hdenotes, hdenoted⟩ := exists_denoted hresolve hunshadowed hsite hname
  exact ⟨site, name, defined, hsite, hfileBuilt, hdenotes, hsource, hleads defined hdenoted⟩

end Rendered

/-- **EVERY LINK LEADS TO ITS TYPE**: in a tree whose links all stand for types, none of them
    shadowed, and whose programs and types have names of modules, every link that is rendered
    leads to the module of the type that it stands for, in the crate and in the package, if the
    files of types and the directories are apart there. -/
theorem links_lead (tree : Tree) (options : RenderOptions) (hresolve : tree.LinksResolve)
    (hunshadowed : tree.Unshadowed) (hnames : tree.NamesModules) :
    (∀ inCrate, (Crate.modules tree.isNested).TypesApart tree →
        Crate.render tree options = .ok inCrate → ∃ mount built,
          Crate.mountOf options = .ok mount ∧ Crate.files tree = .ok built
            ∧ inCrate = Artifacts.ofFiles
                (built.map (ModuleFile.written (Crate.textOf mount options.formatCode)))
            ∧ Crate.LinksLead tree built inCrate mount options.formatCode)
      ∧ ∀ inPackage, (Package.modules tree.isNested).TypesApart tree →
        Package.render tree options = .ok inPackage → ∃ built,
          Package.files tree = .ok built
            ∧ inPackage = Artifacts.ofFiles (built.map (ModuleFile.written Package.textOf))
            ∧ Package.LinksLead tree built inPackage :=
  ⟨fun _ hapart h => Crate.linksLead hresolve hunshadowed hnames hapart h,
    fun _ hapart h => Package.linksLead hresolve hunshadowed hapart h⟩

/-- A tree of two programs with links to their own types and to shared ones, in fields,
    arguments and between shared types. -/
def exchange : Tree where
  programs := [
    { name := "bank", publicKey := "B", version := "", docs := []
      accounts := [⟨"Vault", [], [⟨"config", .link "Config", []⟩, ⟨"limit", .link "Limit", []⟩],
        none, some [.variable ⟨"bump", .number .u8, []⟩]⟩]
      instructions := [⟨"open", [], [], [⟨"config", .link "Config", [], none⟩], none⟩]
      definedTypes := [⟨"Limit", .struct [⟨"side", .link "Side", []⟩], []⟩]
      errors := [] },
    { name := "mint_2", publicKey := "M", version := "", docs := []
      accounts := [⟨"Coin", [], [⟨"config", .option (.link "Config"), []⟩], none, none⟩]
      instructions := [], definedTypes := [], errors := [] }]
  sharedTypes := [⟨"Config", .struct [⟨"side", .link "Side", []⟩], []⟩,
    ⟨"Side", .enum [⟨"Open", none, none⟩, ⟨"Close", none, none⟩], []⟩]

theorem links_lead_exchange : ∃ mount built inCrate built' inPackage,
    exchange.LinksResolve ∧ exchange.Unshadowed ∧ exchange.NamesModules
      ∧ (Crate.modules true).TypesApart exchange
      ∧ Crate.render exchange ⟨false, SortedMap.empty⟩ = .ok inCrate
      ∧ Crate.LinksLead exchange built inCrate mount false
      ∧ (built.flatMap (·.module.links)).length = 6
      ∧ (Package.modules true).TypesApart exchange
      ∧ Package.render exchange ⟨false, SortedMap.empty⟩ = .ok inPackage
      ∧ Package.LinksLead exchange built' inPackage
      ∧ (built'.flatMap (·.module.links)).length = 12 := by
  have hresolve : exchange.LinksResolve := ⟨by decide +kernel, by decide +kernel⟩
  have hunshadowed : exchange.Unshadowed := by unfold Tree.Unshadowed; decide +kernel
  have hnames : exchange.NamesModules :=
    ⟨by decide +kernel, by decide +kernel, by decide +kernel⟩
  have hapart : (Crate.modules true).TypesApart exchange :=
    ⟨by decide +kernel, by decide +kernel, by decide +kernel⟩
  have hapart' : (Package.modules true).TypesApart exchange :=
    ⟨by decide +kernel, by decide +kernel, by decide +kernel⟩
  obtain ⟨inCrate, hcrate⟩ : ∃ inCrate,
      Crate.render exchange ⟨false, SortedMap.empty⟩ = .ok inCrate :=
    exists_ok_of_isSome (by decide +kernel)
  obtain ⟨inPackage, hpackage⟩ : ∃ inPackage,
      Package.render exchange ⟨false, SortedMap.empty⟩ = .ok inPackage :=
    exists_ok_of_isSome (by decide +kernel)
  obtain ⟨modules, hmodules, hcount⟩ : ∃ built, Crate.files exchange = .ok built
      ∧ decide ((built.flatMap (·.module.links)).length = 6) = true :=
    exists_ok_of_any (by decide +kernel)
  obtain ⟨modules', hmodules', hcount'⟩ : ∃ built, Package.files exchange = .ok built
      ∧ decide ((built.flatMap (·.module.links)).length = 12) = true :=
    exists_ok_of_any (by decide +kernel)
  obtain ⟨hlead, hlead'⟩ :=
    links_lead exchange ⟨false, SortedMap.empty⟩ hresolve hunshadowed hnames
  obtain ⟨mount, built, -, hbuilt, -, hcrateLinks⟩ := hlead inCrate hapart hcrate
  obtain ⟨built', hbuilt', -, hpackageLinks⟩ := hlead' inPackage hapart' hpackage
  obtain rfl := Except.ok.inj (hmodules.symm.trans hbuilt)
  obtain rfl := Except.ok.inj (hmodules'.symm.trans hbuilt')
  exact ⟨mount, modules, inCrate, modules', inPackage, hresolve, hunshadowed, hnames, hapart,
    hcrate, hcrateLinks, of_decide_eq_true hcount, hapart', hpackage, hpackageLinks,
    of_decide_eq_true hcount'⟩

end Bindery
