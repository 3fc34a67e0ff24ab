import Bindery.Proofs.TypeLinks.Imports
import Bindery.Proofs.TypeLinks.Places
import Bindery.Proofs.Words

/-! # Resolved links — where a link of generated source leads

    A link is looked for in the place of its scope, or in that of the shared types
    where a program of several has no type of its name (`Tree.placeOf`).  In the
    package it is imported from a directory that is found by walking from that of
    the importing file; in the crate it is a path of modules, each declared by the
    index of the one before, which has a line for it (`Crate.declares_textOf`); and
    an index of types has the lines that re-export them
    (`Package.exportsFrom_textOf`, `Crate.exportsFrom_textOf`).  Both lead to the directory of types of that place, so a
    link leads to the module of whatever type there has its name
    (`Package.leadsTo`, `Crate.leadsTo`). -/

namespace Bindery

/-- The directory that some steps lead to from another, unless they leave the top. -/
def FilePath.walk : List String → List Step → Option (List String)
  | directory, [] => some directory
  | directory, .here :: rest => walk directory rest
  | directory, .above :: rest => if directory = [] then none else walk directory.dropLast rest
  | directory, .name name :: rest => walk (directory ++ [name]) rest
  | _, .root :: _ => none

/-- The place in which a link of a scope is looked for: that of its program, but for a name that
    one of several programs does not define. -/
def Tree.placeOf (tree : Tree) : Option Program → String → Option Program
  | some program, name =>
    if tree.isNested = true ∧ program.defines name = false then none else some program
  | none, _ => none

/-- The place of a link is there. -/
theorem Tree.HasPlace.placeOf {tree : Tree} {scope : Option Program} (h : tree.HasPlace scope)
    (name : String) : tree.HasPlace (tree.placeOf scope name) := by
  cases scope with
  | none => exact h
  | some program =>
      by_cases hshared : tree.isNested = true ∧ program.defines name = false
      · rw [Tree.placeOf, if_pos hshared]
        exact hshared.1
      · rw [Tree.placeOf, if_neg hshared]
        exact h

/-! ## Imports of the package -/

/-- A text has a line, behind other lines. -/
def Text.HasLine (text line : String) : Prop :=
  ∃ front back, text = front ++ "\n" ++ line ++ "\n" ++ back

namespace Package

open FilePath (walk steps)

variable {tree : Tree} {scope : Option Program} {name : String}

/-- The text of an index has the line that re-exports what a file beside it declares. -/
def ExportsFrom (index file : String) : Prop :=
  Text.HasLine index ("export * from './" ++ file ++ "';")

/-- **LINES OF AN INDEX**: the printed index of a collection re-exports every child. -/
theorem exportsFrom_textOf {children : List String} {child : String} (h : child ∈ children) :
    ExportsFrom (textOf (.index children false)) child := by
  have hline : ∀ child, childLine false child = "export * from './" ++ child ++ "';" ++ "\n" :=
    fun child => by
      rw [childLine, if_neg (by simp), String.append_assoc, String.append_assoc]
      rfl
  obtain ⟨before, after, rfl⟩ := List.append_of_mem h
  -- the lines in front end with a line break, or there is the one behind the header
  obtain ⟨front, hfront⟩ : ∃ front,
      header "//" ++ "\n" ++ String.join (before.map (childLine false)) = front ++ "\n" := by
    rcases List.eq_nil_or_concat before with rfl | ⟨lines, last, rfl⟩
    · exact ⟨_, String.append_empty⟩
    · rw [List.concat_eq_append, List.map_append, List.map_singleton, String.join_append,
        String.join_cons, String.join_nil, String.append_empty, hline, ← String.append_assoc,
        ← String.append_assoc]
      exact ⟨_, rfl⟩
  refine ⟨front, String.join (after.map (childLine false)), ?_⟩
  have htext : textOf (.index (before ++ child :: after) false)
      = header "//" ++ "\n" ++ String.join ((before ++ child :: after).map (childLine false)) :=
    rfl
  rw [htext, List.map_append, List.map_cons, String.join_append, String.join_cons, hline,
    ← hfront]
  simp only [String.append_assoc]

/-- The steps to a directory of types next to that of a module, -/
theorem steps_near {link : TypeLink} (h : link.up = 1) :
    steps link.module = [.above, .name "types"] := by
  have hmodule : link.module = TypeLink.module ⟨1, ""⟩ := by
    unfold TypeLink.module
    rw [h]
  rw [hmodule]
  decide +kernel

/-- and to one next to the directory above. -/
theorem steps_far {link : TypeLink} (h : link.up = 2) :
    steps link.module = [.above, .above, .name "types"] := by
  have hmodule : link.module = TypeLink.module ⟨2, ""⟩ := by
    unfold TypeLink.module
    rw [h]
  rw [hmodule]
  decide +kernel

/-- A walk up from a part leads out of it, and then to the types. -/
theorem walk_near {directory : List String} {part : String} :
    walk (directory ++ [part]) [.above, .name "types"] = some (directory ++ ["types"]) := by
  have hne : directory ++ [part] ≠ [] :=
    List.append_ne_nil_of_right_ne_nil _ (List.cons_ne_nil _ _)
  rw [walk, if_neg hne, List.dropLast_concat]
  rfl

/-- **THE WAY OF AN IMPORT**: from the directory of a part of a scope, a link of the scope leads to
    the types of its place. -/
theorem walk_link (hapart : (modules tree.isNested).TypesApart tree)
    (hscope : tree.HasPlace scope) (part : String) :
    walk ((modules tree.isNested).homeOf tree scope ++ [part])
        (steps ((Scope.mk tree.isNested scope).link name).module)
      = some ((modules tree.isNested).homeOf tree (tree.placeOf scope name) ++ ["types"]) := by
  cases scope with
  | none =>
      have hup : ((Scope.mk tree.isNested none).link name).up = 1 := by
        show Scope.depth ⟨tree.isNested, none⟩ = 1
        rw [Scope.depth, Option.isSome_none, Bool.and_false]
        rfl
      rw [steps_near hup]
      exact walk_near
  | some program =>
      by_cases hshared : tree.isNested = true ∧ program.defines name = false
      · have hup : ((Scope.mk tree.isNested (some program)).link name).up = 2 := by
          simp only [Scope.link, Scope.depth, hshared.1, hshared.2]
          rfl
        rw [steps_far hup, Modules.homeOf_nested hapart hshared.1 hscope, Tree.placeOf,
          if_pos hshared]
        rfl
      · have hup : ((Scope.mk tree.isNested (some program)).link name).up = 1 := by
          have hlocal : (!tree.isNested || program.defines name) = true := by
            cases hnested : tree.isNested with
            | false => rfl
            | true => exact Bool.eq_true_of_not_eq_false fun hnone => hshared ⟨hnested, hnone⟩
          simp only [Scope.link, hlocal, if_true]
        rw [steps_near hup, Tree.placeOf, if_neg hshared]
        exact walk_near

/-- An import of a file leads to a defined type: walking from the directory of the file ends in a
    directory of types whose index re-exports the module of the type, and what is imported is the
    type or the codec that this module declares. -/
def LeadsTo (nested : Bool) (artifacts : Artifacts) (file : ModuleFile Module) (i : Import)
    (defined : DefinedType) : Prop :=
  ∃ importer fileName directory declaration,
    steps file.path = (importer ++ [fileName]).map .name
      ∧ walk importer (steps i.source) = some (directory ++ ["types"])
      ∧ (modules nested).ShowsType artifacts textOf ExportsFrom (directory ++ ["types"]) defined
          (.type declaration)
      ∧ (i.name = "type " ++ declaration.name ∨ i.name = Codec.functionName declaration.name)

variable {files : List (ModuleFile Module)} {artifacts : Artifacts}

/-- **WHERE AN IMPORT LEADS**: an import for a link of a site leads to any type of the link's name
    in the place of the link. -/
theorem leadsTo (hapart : (modules tree.isNested).TypesApart tree)
    (hfiles : List.Forall₂ Planned.BuiltAs ((modules tree.isNested).plan tree) files)
    (hartifacts : artifacts = Artifacts.ofFiles (files.map (ModuleFile.written textOf)))
    {site : Site} (hsite : tree.Renders site) {file : ModuleFile Module}
    (hbuilt : ((modules tree.isNested).sitePlan tree site).BuiltAs file) {defined : DefinedType}
    (hmem : defined ∈ tree.typesAt (tree.placeOf site.scope defined.name)) {i : Import}
    (hsource : i.source = ((Scope.mk tree.isNested site.scope).link defined.name).module)
    (hname : i.name = "type " ++ Text.upperCamelCase defined.name
      ∨ i.name = Codec.functionName (Text.upperCamelCase defined.name)) :
    LeadsTo tree.isNested artifacts file i defined := by
  obtain ⟨module, hmodule, hshows⟩ := Modules.showsType hapart hfiles hartifacts
    (fun _ _ => exportsFrom_textOf) (hsite.hasPlace.placeOf defined.name) hmem
  obtain ⟨declaration, hdeclaration, hmodule⟩ := bind_eq_ok.mp hmodule
  obtain rfl := pure_eq_ok.mp hmodule
  obtain ⟨shape, -, hdeclaration⟩ := bind_eq_ok.mp hdeclaration
  obtain rfl := pure_eq_ok.mp hdeclaration
  refine ⟨_, _, _, _, hbuilt.path.steps, ?_, hshows, hname⟩
  rw [hsource]
  exact walk_link hapart hsite.hasPlace site.part

end Package

/-! ## Paths of the crate -/

namespace Crate

/-- The contents of a file are words, laid out if it is `formatted`, and have a line of words. -/
def HasLine (formatted : Bool) (contents : String) (line : Code) : Prop :=
  ∃ words : Code, contents
      = header "//" ++ "\n" ++ (if formatted then words.laidOut else words.text ++ "\n")
    ∧ line <:+: words

/-- An index declares the module of a file beside it. -/
def Declares (formatted : Bool) (index file : String) : Prop :=
  HasLine formatted index ["pub", "mod", (Name.of file).text, ";"]

/-- An index declares the module of a file beside it, and re-exports what that declares. -/
def ExportsFrom (formatted : Bool) (index file : String) : Prop :=
  HasLine formatted index (["pub", "mod", (Name.of file).text, ";"]
    ++ ["pub", "use", "self", "::", (Name.of file).text, "::", "*", ";"])

section Index

variable {mount : ModulePath} {formatted : Bool} {children : List String} {child : String}

/-- The printed index has the words of every child. -/
theorem hasLine_textOf {reexported : Bool} (h : child ∈ children) :
    HasLine formatted (textOf mount formatted (.index children reexported))
      (childWords reexported child) := by
  obtain ⟨before, after, rfl⟩ := List.append_of_mem h
  refine ⟨_, rfl, before.flatMap (childWords reexported), after.flatMap (childWords reexported), ?_⟩
  rw [Module.words, List.flatMap_append, List.flatMap_cons, List.append_assoc]

/-- **LINES OF AN INDEX**: the printed index declares every child, -/
theorem declares_textOf {reexported : Bool} (h : child ∈ children) :
    Declares formatted (textOf mount formatted (.index children reexported)) child := by
  obtain ⟨words, hwords, hline⟩ := @hasLine_textOf mount formatted _ _ reexported h
  exact ⟨words, hwords, (List.prefix_append _ _).isInfix.trans hline⟩

/-- and that of a collection re-exports it. -/
theorem exportsFrom_textOf (h : child ∈ children) :
    ExportsFrom formatted (textOf mount formatted (.index children true)) child :=
  hasLine_textOf h

end Index

/-- The directory that a path of modules leads to from another: an index declares each module, and
    its files are where it is declared. -/
inductive ModuleAt (artifacts : Artifacts) (mount : ModulePath) (formatted : Bool) :
    List String → List Name → List String → Prop
  | top (directory : List String) : ModuleAt artifacts mount formatted directory [] directory
  | declared {directory found : List String} {child : String} {rest : List Name}
      {children : List String} {reexported : Bool}
      (hindex : artifacts.Has (directory ++ ["mod.rs"])
        (textOf mount formatted (.index children reexported)))
      (hchild : child ∈ children)
      (hline : Declares formatted (textOf mount formatted (.index children reexported)) child)
      (hword : (Name.of child).word = child)
      (hrest : ModuleAt artifacts mount formatted (directory ++ [child]) rest found) :
      ModuleAt artifacts mount formatted directory (Name.of child :: rest) found

/-- The children of a printed index are declared by it. -/
theorem ModuleAt.of_child {artifacts : Artifacts} {mount : ModulePath} {formatted reexported : Bool}
    {directory found children : List String} {child : String} {rest : List Name}
    (hindex : artifacts.Has (directory ++ ["mod.rs"])
      (textOf mount formatted (.index children reexported)))
    (hchild : child ∈ children) (hword : (Name.of child).word = child)
    (hrest : ModuleAt artifacts mount formatted (directory ++ [child]) rest found) :
    ModuleAt artifacts mount formatted directory (Name.of child :: rest) found :=
  .declared hindex hchild (declares_textOf hchild) hword hrest

/-- A name that is a name of a module as it stands: simple, and in snake case no word that the
    language keeps for itself. -/
structure NamesModule (name : String) : Prop where
  simple : Text.Simple name
  notKeyword : Text.snakeCase name ∉ keywords
  notRestricted : Text.snakeCase name ∉ restrictedWords

/-- Whether a name is a name of a module can be computed. -/
instance decidableNamesModule (name : String) : Decidable (NamesModule name) :=
  decidable_of_iff (Text.Simple name ∧ Text.snakeCase name ∉ keywords
      ∧ Text.snakeCase name ∉ restrictedWords)
    ⟨fun ⟨hsimple, hkeyword, hrestricted⟩ => ⟨hsimple, hkeyword, hrestricted⟩,
      fun h => ⟨h.simple, h.notKeyword, h.notRestricted⟩⟩

/-- A simple text is kept as it is. -/
theorem sanitized_of_simple {text : String} (h : Text.Simple text) : sanitized text = text := by
  have hkept : (text.toList.map fun c =>
      if Text.isAsciiAlphanumeric c || c = '_' then c else '_') = text.toList := by
    refine (List.map_congr_left fun c hc => ?_).trans (List.map_id _)
    rcases h.characters c hc with hascii | rfl
    · rw [hascii]; rfl
    · rfl
  have hdigit : ∀ c, Text.isAsciiLetter c = true → Text.isAsciiDigit c = false := by
    intro c hc
    simp only [Text.isAsciiLetter, Text.isAsciiLower, Text.isAsciiUpper, Text.isAsciiDigit,
      Bool.or_eq_true, Bool.and_eq_true, decide_eq_true_eq, Bool.and_eq_false_imp,
      decide_eq_false_iff_not] at hc ⊢
    omega
  obtain ⟨c, hhead, hletter⟩ := (Option.any_eq_true _ _).mp h.starts
  obtain ⟨cs, htext⟩ := List.head?_eq_some_iff.mp hhead
  unfold sanitized
  simp only [hkept]
  rw [htext]
  simp only [hdigit c hletter, Bool.false_eq_true, if_false]
  rw [← htext, String.ofList_toList]

/-- The module of such a name has the name of its file. -/
theorem NamesModule.of_snakeCase {name : String} (h : NamesModule name) :
    Name.of (Text.snakeCase name) = ⟨Text.snakeCase name, false⟩ := by
  rw [Name.of, sanitized_of_simple (Text.simple_snakeCase h.simple)]
  simp only [h.notRestricted, h.notKeyword, if_false, decide_false]

/-- A path leads to a defined type: its words name modules below the mounted tree, one in another,
    the last of them a directory of types whose index declares and re-exports the module of the
    type, and then the type that this module declares. -/
def LeadsTo (nested : Bool) (artifacts : Artifacts) (mount : ModulePath) (formatted : Bool)
    (path : TypePath) (defined : DefinedType) : Prop :=
  ∃ above directory declaration,
    (CrateType.link path).words mount
        = mount.words ++ (above ++ [Name.of "types"]).flatMap (fun name => ["::", name.text])
          ++ ["::", declaration.name.text]
      ∧ ModuleAt artifacts mount formatted [] (above ++ [Name.of "types"]) (directory ++ ["types"])
      ∧ (modules nested).ShowsType artifacts (textOf mount formatted) (ExportsFrom formatted)
          (directory ++ ["types"]) defined (.type declaration)
      ∧ (Name.of (Text.snakeCase defined.name)).word = Text.snakeCase defined.name

variable {tree : Tree} {scope place : Option Program} {files : List (ModuleFile Module)}
  {artifacts : Artifacts} {mount : ModulePath} {formatted : Bool}

/-- A link names the type of its name, -/
theorem Scope.link_name {scope : Scope} {name : String} :
    (scope.link name).name = Name.type name := by
  obtain ⟨nested, program⟩ := scope
  cases program with
  | none => simp only [Scope.link]
  | some program => simp only [Scope.link, apply_ite TypePath.name, ite_self]

/-- and the module of its place. -/
theorem program_link {name : String} : ((Scope.mk tree.isNested scope).link name).program
    = (tree.placeOf scope name).bind (programModule tree.isNested) := by
  cases scope with
  | none => rfl
  | some program =>
      by_cases hshared : tree.isNested = true ∧ program.defines name = false
      · rw [Tree.placeOf, if_pos hshared]
        simp only [Scope.link, hshared.1, hshared.2]
        rfl
      · have hlocal : (!tree.isNested || program.defines name) = true := by
          cases hnested : tree.isNested with
          | false => rfl
          | true => exact Bool.eq_true_of_not_eq_false fun hnone => hshared ⟨hnested, hnone⟩
        rw [Tree.placeOf, if_neg hshared]
        simp only [Scope.link, hlocal, if_true]
        rfl

/-- The part of the types is listed by the index of a program that has any. -/
theorem types_mem_partsOf {program : Program} (hany : tree.typesOf program ≠ []) :
    "types" ∈ Modules.partsOf tree program :=
  List.mem_append_right _ (Modules.mem_ifAny.mpr ⟨hany, List.mem_cons_self⟩)

/-- **THE WAY OF A PATH**: from the mounted tree, the modules of a place lead to its types. -/
theorem moduleAt_types (hapart : (modules tree.isNested).TypesApart tree)
    (hnames : ∀ program ∈ tree.programs, NamesModule program.name)
    (hfiles : List.Forall₂ Planned.BuiltAs ((modules tree.isNested).plan tree) files)
    (hartifacts : artifacts
      = Artifacts.ofFiles (files.map (ModuleFile.written (textOf mount formatted))))
    (hplace : tree.HasPlace place) (hany : tree.typesAt place ≠ []) :
    ModuleAt artifacts mount formatted []
      ((place.bind (programModule tree.isNested)).toList ++ [Name.of "types"])
      ((modules tree.isNested).homeOf tree place ++ ["types"]) := by
  have htypes : (Name.of "types").word = "types" := by decide +kernel
  cases place with
  | none =>
      have hnested : tree.isNested = true := hplace
      have hindex := Modules.has_topIndex hapart hfiles hartifacts hnested
      refine .of_child hindex ?_ htypes (.top _)
      exact List.mem_append_right _ (Modules.mem_ifAny.mpr ⟨hany, List.mem_cons_self⟩)
  | some program =>
      have hindex := Modules.has_programIndex (modules_regular _) hapart hfiles hartifacts hplace
      have hparts := types_mem_partsOf hany
      by_cases hnested : tree.isNested = true
      · -- the index at the top declares the module of the program, whose index that of its types
        have htop := Modules.has_topIndex hapart hfiles hartifacts hnested
        have hword : (Name.of (Text.snakeCase program.name)).word
            = Text.snakeCase program.name := by
          rw [(hnames program hplace).of_snakeCase]
        have hmodule : programModule tree.isNested program
            = some (Name.of (Text.snakeCase program.name)) := if_pos hnested
        rw [Modules.homeOf_nested hapart hnested hplace] at hindex ⊢
        show ModuleAt _ _ _ _ ((programModule tree.isNested program).toList ++ _) _
        rw [hmodule]
        refine .of_child htop ?_ hword (.of_child hindex hparts htypes (.top _))
        exact List.mem_append_left _ (List.mem_map.mpr ⟨program, hplace, rfl⟩)
      · have hhome : (modules tree.isNested).homeOf tree (some program) = [] := if_neg hnested
        have hmodule : programModule tree.isNested program = none := if_neg hnested
        rw [hhome] at hindex ⊢
        show ModuleAt _ _ _ _ ((programModule tree.isNested program).toList ++ _) _
        rw [hmodule]
        exact .of_child hindex hparts htypes (.top _)

/-- **WHERE A PATH LEADS**: the path of a link leads to any type of the link's name in the place
    of the link. -/
theorem leadsTo (hapart : (modules tree.isNested).TypesApart tree)
    (hnames : ∀ program ∈ tree.programs, NamesModule program.name)
    (hfiles : List.Forall₂ Planned.BuiltAs ((modules tree.isNested).plan tree) files)
    (hartifacts : artifacts
      = Artifacts.ofFiles (files.map (ModuleFile.written (textOf mount formatted))))
    (hscope : tree.HasPlace scope) {defined : DefinedType} (hname : NamesModule defined.name)
    (hmem : defined ∈ tree.typesAt (tree.placeOf scope defined.name)) :
    LeadsTo tree.isNested artifacts mount formatted
      ((Scope.mk tree.isNested scope).link defined.name) defined := by
  have hplace := hscope.placeOf defined.name
  obtain ⟨module, hmodule, hshows⟩ := Modules.showsType hapart hfiles hartifacts
    (fun _ _ => exportsFrom_textOf) hplace hmem
  obtain ⟨declaration, hdeclaration, hmodule⟩ := bind_eq_ok.mp hmodule
  obtain rfl := pure_eq_ok.mp hmodule
  obtain ⟨shape, -, hdeclaration⟩ := bind_eq_ok.mp hdeclaration
  obtain rfl := pure_eq_ok.mp hdeclaration
  refine ⟨_, _, _, ?_, moduleAt_types hapart hnames hfiles hartifacts hplace
    (List.ne_nil_of_mem hmem), hshows, ?_⟩
  · have htypes : (Name.of "types").text = "types" := by decide +kernel
    have hlink : ((Scope.mk tree.isNested scope).link defined.name).name
        = Name.type defined.name := Scope.link_name
    show CrateType.pathWords mount _ = _
    rw [CrateType.pathWords, program_link, hlink, List.flatMap_append, List.flatMap_singleton,
      htypes]
    cases (tree.placeOf scope defined.name).bind (programModule tree.isNested) <;>
      simp only [Option.toList, List.flatMap_nil, List.flatMap_singleton, List.append_assoc,
        List.cons_append, List.nil_append]
  · rw [hname.of_snakeCase]

end Crate

end Bindery
