import Bindery.Proofs.TypeLinks.Denoted

/-! # Shadowed types — where links of shared types lead

    A link of a shared type names a shared type.  In a tree of several programs the
    shared types have a directory of their own, and their links lead there.  In a
    tree of one program they are rendered among the types of the program, and its
    types hide those of the same name: a link of a shared type leads to the shared
    type that it names if no type of the program has that name, and to the type of
    the program otherwise (`sharedLinks_lead`).

    So a type of the program takes links that are not its own, which no tree of
    several programs lets it do (`exists_shadowed_link`). -/

namespace Bindery

/-- Where the link of a shared type leads if that is rendered in a place: to a type of the place's
    program that has the name, else to the shared type. -/
structure Tree.SharedLink (tree : Tree) (place : Option Program) (name : String)
    (leads : DefinedType → Prop) : Prop where
  shared : ∀ shared, tree.sharedType? name = some shared →
    (∀ program, place = some program → program.defines name = false) → leads shared
  shadowed : ∀ program own, place = some program → program.definedType? name = some own →
    leads own

/-- A link that leads to whatever it stands for in its place is such a link. -/
theorem Tree.SharedLink.of_denoted {tree : Tree} {place : Option Program} {name : String}
    {leads : DefinedType → Prop}
    (h : ∀ defined, tree.denoted? place name = some defined → leads defined) :
    tree.SharedLink place name leads where
  shared := by
    intro shared hshared hfree
    refine h shared (Option.or_eq_some_iff.mpr (.inr ⟨?_, hshared⟩))
    cases place with
    | none => rfl
    | some program =>
        exact Option.isNone_iff_eq_none.mp (Option.isSome_eq_false_iff.mp (hfree program rfl))
  shadowed := by
    rintro program own rfl hown
    exact h own (Option.or_eq_some_iff.mpr (.inl hown))

/-- The links of the shared types of a crate lead where those of shared types lead. -/
def Crate.SharedLinksLead (tree : Tree) (built : List (ModuleFile Module)) (artifacts : Artifacts)
    (mount : ModulePath) (formatted : Bool) : Prop :=
  ∀ place, ∀ shared ∈ tree.sharedTypes, tree.Renders (.definedType place shared) →
    ∃ file ∈ built, ((modules tree.isNested).sitePlan tree (.definedType place shared)).BuiltAs file
      ∧ ∀ path ∈ file.module.links, ∃ name ∈ shared.type.links,
          path = (Scope.mk tree.isNested place).link name
            ∧ tree.SharedLink place name (LeadsTo tree.isNested artifacts mount formatted path)

/-- The imports for links of the shared types of a package lead where links of shared types do. -/
def Package.SharedLinksLead (tree : Tree) (built : List (ModuleFile Module))
    (artifacts : Artifacts) : Prop :=
  ∀ place, ∀ shared ∈ tree.sharedTypes, tree.Renders (.definedType place shared) →
    ∃ file ∈ built, ((modules tree.isNested).sitePlan tree (.definedType place shared)).BuiltAs file
      ∧ ∀ i ∈ file.module.source.imports, ¬ i.IsLinkless → ∃ name ∈ shared.type.links,
          i.source = ((Scope.mk tree.isNested place).link name).module
            ∧ tree.SharedLink place name (LeadsTo tree.isNested artifacts file i)

/-- **LINKS OF SHARED TYPES**: wherever a shared type is rendered, in a crate or in a package, each
    of its links leads to the shared type that it names, unless the type is rendered among those
    of a program with a type of that name, and to that one then. -/
theorem sharedLinks_lead (tree : Tree) (options : RenderOptions) (hnames : tree.NamesModules) :
    (∀ inCrate, (Crate.modules tree.isNested).TypesApart tree →
        Crate.render tree options = .ok inCrate → ∃ mount built,
          Crate.mountOf options = .ok mount ∧ Crate.files tree = .ok built
            ∧ Crate.SharedLinksLead tree built inCrate mount options.formatCode)
      ∧ ∀ inPackage, (Package.modules tree.isNested).TypesApart tree →
        Package.render tree options = .ok inPackage → ∃ built,
          Package.files tree = .ok built ∧ Package.SharedLinksLead tree built inPackage := by
  constructor
  · intro inCrate hapart h
    obtain ⟨mount, built, hmount, hbuilt, hartifacts⟩ := Crate.render_eq_ok h
    have hplanned := Modules.files_builtAs (Crate.modules_regular _) hbuilt
    refine ⟨mount, built, hmount, hbuilt, fun place shared _ hsite => ?_⟩
    obtain ⟨file, hfile, hfileBuilt⟩ := Modules.exists_file_of_site hplanned hsite
    refine ⟨file, hfile, hfileBuilt, fun path hpath => ?_⟩
    obtain ⟨name, hname, hlink, hleads⟩ :=
      Crate.leadsTo_of_site hnames hapart hplanned hartifacts hsite hfileBuilt hpath
    exact ⟨name, hname, hlink, .of_denoted hleads⟩
  · intro inPackage hapart h
    obtain ⟨built, hbuilt, hartifacts⟩ := Package.render_eq_ok h
    have hplanned := Modules.files_builtAs (Package.modules_regular _) hbuilt
    refine ⟨built, hbuilt, fun place shared _ hsite => ?_⟩
    obtain ⟨file, hfile, hfileBuilt⟩ := Modules.exists_file_of_site hplanned hsite
    refine ⟨file, hfile, hfileBuilt, fun i hi hlink => ?_⟩
    obtain ⟨name, hname, hsource, hleads⟩ :=
      Package.leadsTo_of_site hapart hplanned hartifacts hsite hfileBuilt hi hlink
    exact ⟨name, hname, hsource, .of_denoted hleads⟩

/-! ## A link that is taken -/

/-- A program with a type `Mode` of its own. -/
def shadowingBank : Program where
  name := "bank"
  publicKey := "B"
  version := ""
  docs := []
  accounts := []
  instructions := []
  definedTypes := [⟨"Mode", .boolean, []⟩]
  errors := []

/-- A shared type that links to another one, `Mode`. -/
def sharedConfig : DefinedType := ⟨"Config", .struct [⟨"mode", .link "Mode", []⟩], []⟩

/-- The other one, which is a number. -/
def sharedMode : DefinedType := ⟨"Mode", .number .u8, []⟩

/-- The tree of the program and the shared types. -/
def shadowingTree : Tree := ⟨[shadowingBank], [sharedConfig, sharedMode]⟩

theorem namesModules_shadowingTree : shadowingTree.NamesModules :=
  ⟨by decide, by decide, by decide⟩

theorem Crate.typesApart_shadowingTree : (modules false).TypesApart shadowingTree :=
  ⟨by decide, by decide, by decide⟩

theorem Package.typesApart_shadowingTree : (modules false).TypesApart shadowingTree :=
  ⟨by decide, by decide, by decide⟩

theorem sharedLinks_lead_bank : ∃ mount built inCrate built' inPackage,
    shadowingTree.NamesModules ∧ (Crate.modules false).TypesApart shadowingTree
      ∧ Crate.render shadowingTree ⟨false, SortedMap.empty⟩ = .ok inCrate
      ∧ Crate.SharedLinksLead shadowingTree built inCrate mount false
      ∧ (Package.modules false).TypesApart shadowingTree
      ∧ Package.render shadowingTree ⟨false, SortedMap.empty⟩ = .ok inPackage
      ∧ Package.SharedLinksLead shadowingTree built' inPackage := by
  obtain ⟨inCrate, hcrate⟩ : ∃ inCrate,
      Crate.render shadowingTree ⟨false, SortedMap.empty⟩ = .ok inCrate :=
    exists_ok_of_isSome (by decide)
  obtain ⟨inPackage, hpackage⟩ : ∃ inPackage,
      Package.render shadowingTree ⟨false, SortedMap.empty⟩ = .ok inPackage :=
    exists_ok_of_isSome (by decide)
  obtain ⟨hlead, hlead'⟩ :=
    sharedLinks_lead shadowingTree ⟨false, SortedMap.empty⟩ namesModules_shadowingTree
  obtain ⟨mount, built, -, -, hcrateLinks⟩ := hlead inCrate Crate.typesApart_shadowingTree hcrate
  obtain ⟨built', -, hpackageLinks⟩ :=
    hlead' inPackage Package.typesApart_shadowingTree hpackage
  exact ⟨mount, built, inCrate, built', inPackage, namesModules_shadowingTree,
    Crate.typesApart_shadowingTree, hcrate, hcrateLinks, Package.typesApart_shadowingTree,
    hpackage, hpackageLinks⟩

/-- Contents that are there under some names are those of a file. -/
theorem Artifacts.Has.exists_mem {artifacts : Artifacts} {names : List String} {contents : String}
    (h : artifacts.Has names contents) :
    contents ∈ artifacts.files.map (·.contents) := by
  obtain ⟨path, hfound⟩ := h
  exact List.mem_map.mpr ⟨_, List.mem_map.mpr ⟨_, SortedMap.get?_eq_some_iff.mp hfound, rfl⟩, rfl⟩

/-- No path of a crate leads to a type whose module no file holds, -/
theorem Crate.not_leadsTo {nested : Bool} {artifacts : Artifacts} {mount : ModulePath}
    {formatted : Bool} {defined : DefinedType}
    (h : ∀ place module, (modules nested).definedType place defined = .ok module →
      textOf mount formatted module ∉ artifacts.files.map (·.contents)) (path : TypePath) :
    ¬ LeadsTo nested artifacts mount formatted path defined := by
  rintro ⟨_, _, _, _, _, hshows, _⟩
  obtain ⟨place, hmodule⟩ := hshows.built
  exact h place _ hmodule hshows.held.exists_mem

/-- and no import of a package. -/
theorem Package.not_leadsTo {nested : Bool} {artifacts : Artifacts} {defined : DefinedType}
    (h : ∀ place module, (modules nested).definedType place defined = .ok module →
      textOf module ∉ artifacts.files.map (·.contents)) (file : ModuleFile Module) (i : Import) :
    ¬ LeadsTo nested artifacts file i defined := by
  rintro ⟨_, _, _, _, _, _, hshows, _⟩
  obtain ⟨place, hmodule⟩ := hshows.built
  exact h place _ hmodule hshows.held.exists_mem

/-- The shared type that links to the other one, among the types of the program. -/
def configSite : Site := .definedType (some shadowingBank) sharedConfig

/-- It is rendered there. -/
theorem renders_configSite : shadowingTree.Renders configSite :=
  ⟨List.mem_singleton.mpr rfl, by decide⟩

/-- The crate names the type `Mode` there, which leads to the type of the program.  The shared
    type `Mode` is in no file of the crate. -/
theorem Crate.exists_taken_link : ∃ mount built inCrate file path,
    Crate.files shadowingTree = .ok built
      ∧ Crate.render shadowingTree ⟨false, SortedMap.empty⟩ = .ok inCrate
      ∧ file ∈ built ∧ ((modules false).sitePlan shadowingTree configSite).BuiltAs file
      ∧ path ∈ file.module.links
      ∧ LeadsTo false inCrate mount false path ⟨"Mode", .boolean, []⟩
      ∧ ¬ LeadsTo false inCrate mount false path sharedMode := by
  obtain ⟨inCrate, hcrate, hnone⟩ : ∃ inCrate,
      Crate.render shadowingTree ⟨false, SortedMap.empty⟩ = .ok inCrate
        ∧ decide (textOf .standard false (.type ⟨[], Name.type "Mode", .alias (.number .u8)⟩)
          ∉ inCrate.files.map (·.contents)) = true := exists_ok_of_any (by decide +kernel)
  obtain ⟨mount, built, hmount, hbuilt, hartifacts⟩ := Crate.render_eq_ok hcrate
  obtain rfl : ModulePath.standard = mount := Except.ok.inj hmount
  have hplanned := Modules.files_builtAs (modules_regular _) hbuilt
  obtain ⟨file, hfile, hfileBuilt⟩ := Modules.exists_file_of_site hplanned renders_configSite
  have hlink : ∀ module, (modules false).build configSite = .ok module →
      ⟨none, Name.type "Mode"⟩ ∈ module.links := by
    intro module hmodule
    rw [← Except.ok.inj hmodule]
    exact List.mem_cons_self
  obtain ⟨name, hname, hpath, hleads⟩ := leadsTo_of_site namesModules_shadowingTree
    typesApart_shadowingTree hplanned hartifacts renders_configSite hfileBuilt
    (hlink _ hfileBuilt.module)
  obtain rfl : name = "Mode" := List.mem_singleton.mp hname
  refine ⟨_, built, inCrate, file, _, hbuilt, hcrate, hfile, hfileBuilt,
    hlink _ hfileBuilt.module, hleads _ rfl, not_leadsTo ?_ _⟩
  intro place module hmodule
  rw [← Except.ok.inj hmodule]
  exact of_decide_eq_true hnone

/-- The package imports the type `Mode` there, from where the type of the program is. -/
theorem Package.exists_taken_link : ∃ built inPackage file i,
    Package.files shadowingTree = .ok built
      ∧ Package.render shadowingTree ⟨false, SortedMap.empty⟩ = .ok inPackage
      ∧ file ∈ built ∧ ((modules false).sitePlan shadowingTree configSite).BuiltAs file
      ∧ i ∈ file.module.source.imports ∧ ¬ i.IsLinkless
      ∧ LeadsTo false inPackage file i ⟨"Mode", .boolean, []⟩
      ∧ ¬ LeadsTo false inPackage file i sharedMode := by
  obtain ⟨inPackage, hpackage, hnone⟩ : ∃ inPackage,
      Package.render shadowingTree ⟨false, SortedMap.empty⟩ = .ok inPackage
        ∧ decide (textOf (.type ⟨[], "Mode", .alias .number (.number .u8)⟩)
          ∉ inPackage.files.map (·.contents)) = true := exists_ok_of_any (by decide +kernel)
  obtain ⟨built, hbuilt, hartifacts⟩ := Package.render_eq_ok hpackage
  have hplanned := Modules.files_builtAs (modules_regular _) hbuilt
  obtain ⟨file, hfile, hfileBuilt⟩ := Modules.exists_file_of_site hplanned renders_configSite
  have himport : ∀ module, (modules false).build configSite = .ok module →
      ⟨"../types", "type Mode"⟩ ∈ module.source.imports := by
    intro module hmodule
    rw [← Except.ok.inj hmodule]
    decide
  have hlink : ¬ (Import.mk "../types" "type Mode").IsLinkless := by
    unfold Import.IsLinkless
    decide
  have hapart : (modules shadowingTree.isNested).TypesApart shadowingTree :=
    typesApart_shadowingTree
  obtain ⟨name, hname, hsource, hleads⟩ := leadsTo_of_site hapart hplanned hartifacts
    renders_configSite hfileBuilt (himport _ hfileBuilt.module) hlink
  obtain rfl : name = "Mode" := List.mem_singleton.mp hname
  refine ⟨built, inPackage, file, _, hbuilt, hpackage, hfile, hfileBuilt,
    himport _ hfileBuilt.module, hlink, hleads _ rfl, not_leadsTo ?_ _ _⟩
  intro place module hmodule
  rw [← Except.ok.inj hmodule]
  exact of_decide_eq_true hnone

/-- **A LINK THAT IS TAKEN**: a shared type links to the shared type `Mode`, and is rendered
    beside a program that has a type `Mode`.  The link leads to the type of the program, and to
    the shared type it does not lead, in the crate and in the package. -/
theorem exists_shadowed_link :
    shadowingTree.denoted? none "Mode" = some sharedMode
      ∧ (∃ mount built inCrate file path,
        Crate.files shadowingTree = .ok built
          ∧ Crate.render shadowingTree ⟨false, SortedMap.empty⟩ = .ok inCrate
          ∧ file ∈ built ∧ ((Crate.modules false).sitePlan shadowingTree configSite).BuiltAs file
          ∧ path ∈ file.module.links
          ∧ Crate.LeadsTo false inCrate mount false path ⟨"Mode", .boolean, []⟩
          ∧ ¬ Crate.LeadsTo false inCrate mount false path sharedMode)
      ∧ ∃ built inPackage file i,
        Package.files shadowingTree = .ok built
          ∧ Package.render shadowingTree ⟨false, SortedMap.empty⟩ = .ok inPackage
          ∧ file ∈ built ∧ ((Package.modules false).sitePlan shadowingTree configSite).BuiltAs file
          ∧ i ∈ file.module.source.imports ∧ ¬ i.IsLinkless
          ∧ Package.LeadsTo false inPackage file i ⟨"Mode", .boolean, []⟩
          ∧ ¬ Package.LeadsTo false inPackage file i sharedMode :=
  ⟨by decide, Crate.exists_taken_link, Package.exists_taken_link⟩

end Bindery
