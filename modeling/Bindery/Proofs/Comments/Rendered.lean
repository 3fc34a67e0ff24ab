import Bindery.Proofs.Comments.Printed
import Bindery.Proofs.Reachable
import Bindery.Proofs.TypeLinks.Places

/-! # Rendered comments — no text of a tree gets out of a comment or a literal

    Names that come from nodes are inert once they are cased, and no node of a
    well-formed tree has a slash in its name.  So whatever a module is built from, its
    source has the comments that belong to it (`legible_planned`), and so has
    the text of its file, with import lines and the header in front
    (`reads_textOf`).  Each of these comments ends where it should and nowhere else
    (`Package.render_contained`). -/

namespace Bindery

namespace Package

open Source

/-! ## Texts of files -/

section Files

variable {source : Source} {comments : List String} {imports : List Import}

/-- An entry of a table can be an import line. -/
structure LegibleEntry (entry : String × SortedMap String Unit) : Prop where
  source : entry.1.toList.all isQuoted = true
  names : ∀ name ∈ entry.2.keys, name.toList.all isQuiet = true

/-- A table stays one of such entries with one import more, -/
theorem legible_insert {table : SortedMap String (SortedMap String Unit)} {i : Import}
    (htable : ∀ entry ∈ table.entries, LegibleEntry entry) (hi : i.Legible) :
    ∀ entry ∈ (table.insert i.source
      (((table.get? i.source).getD .empty).insert i.name ())).entries, LegibleEntry entry := by
  intro entry hentry
  rcases SortedMap.mem_insertEntry hentry with rfl | hentry
  · refine ⟨hi.source, fun name hname => ?_⟩
    obtain ⟨⟨name, value⟩, hmem, rfl⟩ := List.mem_map.mp hname
    rcases SortedMap.mem_insertEntry hmem with hnew | hold
    · obtain ⟨rfl, -⟩ := Prod.mk.inj hnew
      exact hi.name
    · cases hfound : table.get? i.source with
      | none =>
          rw [hfound] at hold
          exact nomatch hold
      | some names =>
          rw [hfound] at hold
          exact (htable _ (SortedMap.get?_eq_some_iff.mp hfound)).names _
            (List.mem_map_of_mem hold)
  · exact htable entry hentry

/-- so that the table of some imports is one. -/
theorem legible_importTable : (∀ i ∈ imports, i.Legible) →
    ∀ entry ∈ (importTable imports).entries, LegibleEntry entry := by
  suffices hfold : ∀ table : SortedMap String (SortedMap String Unit),
      (∀ entry ∈ table.entries, LegibleEntry entry) → (∀ i ∈ imports, i.Legible) →
        ∀ entry ∈ (imports.foldl (fun table i => table.insert i.source
          (((table.get? i.source).getD .empty).insert i.name ())) table).entries,
          LegibleEntry entry from hfold .empty fun _ hentry => nomatch hentry
  induction imports with
  | nil => exact fun _ htable _ => htable
  | cons i imports ih =>
      intro table htable h
      obtain ⟨hi, himports⟩ := List.forall_mem_cons.mp h
      exact ih _ (legible_insert htable hi) himports

/-- An import line is read without comments. -/
theorem reads_importLine {entry : String × SortedMap String Unit} (h : LegibleEntry entry) :
    Reads (importLine entry) [] := by
  have hcomma : Phrase ", " := .spelled (by decide)
  have hnames : Reads (", ".intercalate entry.2.keys) [] := by
    rw [mk_intercalate]
    refine reads_intercalate hcomma (List.forall_mem_map.mpr fun name hname => ?_)
    exact .of_run (run_quiet (h.names name hname)) blocksOf_map_code
  have hopening : Opening " \x7d from '" := .spelled (by decide)
  have hclosing : Closing "';\n" := .spelled (by decide)
  have hsource := reads_quoted hopening h.source hclosing
  unfold importLine
  simp (disch := (constructor; decide)) only [mk_append, append_assoc, reads_phrase_append,
    reads_behind hnames, hsource]

/-- Import lines in front of source add no comments, -/
theorem reads_module (h : source.Reads comments) : Reads source.module comments := by
  have hlines : Reads (String.join ((importTable source.imports).entries.map importLine)) [] := by
    rw [mk_join, List.map_map]
    exact reads_join_nil fun entry hentry =>
      reads_importLine (legible_importTable h.imports entry hentry)
  have htext : Reads source.text comments := ⟨h.text, fun _ hi => nomatch hi⟩
  unfold Source.module
  dsimp only
  simp only [mk_append, append_assoc, reads_behind hlines]
  split <;> simp (disch := (constructor; decide)) only [reads_phrase_append, htext]

/-- and neither does the header of a file. -/
theorem reads_header : Reads (header "//") [] := by
  have hlines : ∀ line ∈ [generatedMarker,
      "Please DO NOT EDIT THIS FILE, instead use update operations",
      "to add features, then rerun idlforge to update it."],
      line.toList.any isLineEnd = false := by
    unfold generatedMarker
    decide
  unfold header
  rw [mk_join, List.map_map]
  refine reads_join_nil fun line hline => ?_
  have hslashes : mk "//" [] ++ mk " " [] = mk "// " [] := rfl
  show (mk "//" [] ++ mk " " [] ++ mk line [] ++ mk "\n" []).Reads []
  rw [hslashes, append_assoc]
  exact reads_line fun c hc => Bool.eq_false_iff.mpr (List.any_eq_false.mp (hlines line hline) c hc)

/-- The text of a file has the comments of its module. -/
theorem reads_textOf {module : Module} (h : module.source.Reads module.comments) :
    Reads (textOf module) module.comments := by
  have htext : Reads module.text module.comments := reads_module h
  unfold textOf
  simp (disch := (constructor; decide)) only [mk_append, append_assoc, reads_behind reads_header,
    reads_phrase_append, htext]

end Files

/-! ## Names of modules -/

section Built

variable {scope : Scope} {context typeContext codecContext : String} {links : List String}
  {link : TypeLink} {nested : Bool} {program : Program}

/-- Links have inert names, -/
theorem inert_link (h : link ∈ links.map scope.link) : Inert link.name := by
  obtain ⟨name, -, rfl⟩ := List.mem_map.mp h
  exact inferInstanceAs (Inert (Text.upperCamelCase name))

/-- and so have members, -/
theorem inert_field {docs : List String} {name : String} {type : TypeNode} {field : Field}
    (h : Field.of scope typeContext codecContext docs name type = .ok field) :
    AllInert field.names := by
  refine allInert_cons.mpr ⟨?_, allInert_map.mpr fun link hlink => ?_⟩
  · obtain ⟨found, -, h⟩ := bind_eq_ok.mp h
    obtain ⟨codec, -, h⟩ := bind_eq_ok.mp h
    rw [← pure_eq_ok.mp h]
    exact inferInstanceAs (Inert (Text.camelCase name))
  · exact inert_link ((Field.mem_links h).mp hlink)

/-- those for the fields of a node, -/
theorem inert_fields {fields : List StructField} {found : List Field}
    (h : fieldsOf scope typeContext codecContext fields = .ok found) :
    ∀ field ∈ found, AllInert field.names := by
  intro field hfield
  obtain ⟨node, -, hnode⟩ := exists_of_forall₂_right (forall₂_of_mapM_eq_ok h) hfield
  exact inert_field hnode

/-- seeds, -/
theorem inert_seed {seed : Seed} {part : SeedPart} (h : SeedPart.of scope context seed = .ok part) :
    AllInert part.names := by
  refine allInert_append.mpr ⟨allInert_map.mpr fun link hlink => ?_, ?_⟩
  · exact inert_link ((SeedPart.mem_links h).mp hlink)
  · cases seed with
    | constant value => cases value <;> (rw [← Except.ok.inj h]; exact allInert_nil)
    | «variable» seed =>
        obtain ⟨type, -, h⟩ := bind_eq_ok.mp h
        obtain ⟨encoding, -, h⟩ := bind_eq_ok.mp h
        rw [← pure_eq_ok.mp h]
        exact allInert_cons.mpr ⟨Inert.camelCase, allInert_nil⟩

/-- The constant of the address of a program is inert. -/
instance inert_addressConstant {name : String} : Inert (addressConstant name) := by
  have hending : Inert "_PROGRAM_ADDRESS" := .spelled (by decide)
  exact inferInstanceAs (Inert (Text.shoutyCase name ++ "_PROGRAM_ADDRESS"))

/-- and accounts, which have their own names in comments. -/
theorem inert_account {account : Account} {module : AccountModule}
    (h : AccountModule.of nested program account = .ok module) :
    AllInert (Module.account module).names ∧ (Module.account module).titles = [account.name] := by
  obtain ⟨fields, hfields, h⟩ := bind_eq_ok.mp h
  obtain ⟨seeds, hseeds, h⟩ := bind_eq_ok.mp h
  have hparts : ∀ part ∈ seeds.getD [], AllInert part.names := by
    cases hrecipe : account.seeds with
    | none =>
        rw [hrecipe] at hseeds
        rw [← pure_eq_ok.mp hseeds]
        exact fun _ hmem => nomatch hmem
    | some recipe =>
        rw [hrecipe] at hseeds
        obtain ⟨parts, hparts, hseeds⟩ := bind_eq_ok.mp hseeds
        rw [← pure_eq_ok.mp hseeds]
        intro part hpart
        obtain ⟨seed, -, hseed⟩ := exists_of_forall₂_right (forall₂_of_mapM_eq_ok hparts) hpart
        exact inert_seed hseed
  have htags : ∀ tag ∈ (account.discriminator.map (TagConstant.of account.name)).toList,
      Inert tag.name := by
    intro tag htag
    obtain ⟨discriminator, -, rfl⟩ := Option.map_eq_some_iff.mp (Option.mem_toList.mp htag)
    exact inert_tag
  rw [← pure_eq_ok.mp h]
  refine ⟨?_, rfl⟩
  simp only [Module.names, allInert_append, allInert_cons, allInert_flatMap, allInert_map]
  exact ⟨⟨⟨Inert.upperCamelCase, inert_addressConstant, htags⟩, inert_fields hfields⟩, hparts⟩

/-- Instructions have inert names, -/
theorem inert_instruction {instruction : Instruction} {module : InstructionModule}
    (h : InstructionModule.of nested program instruction = .ok module) :
    AllInert (Module.instruction module).names := by
  obtain ⟨fields, hfields, h⟩ := bind_eq_ok.mp h
  obtain ⟨bound, -, h⟩ := bind_eq_ok.mp h
  rw [← pure_eq_ok.mp h]
  refine allInert_cons.mpr ⟨inert_addressConstant, allInert_flatMap.mpr fun field hfield => ?_⟩
  obtain ⟨argument, -, hargument⟩ := exists_of_forall₂_right (forall₂_of_mapM_eq_ok hfields) hfield
  exact inert_field hargument

/-- and so have variants -/
theorem inert_variant {variant : EnumVariant} {built : Variant}
    (h : (do
      let fields ← variant.fields.mapM fun fields =>
        fieldsOf scope typeContext codecContext fields
      return Variant.mk (Text.upperCamelCase variant.name) fields) = .ok built) :
    AllInert built.names := by
  obtain ⟨found, hfound, h⟩ := bind_eq_ok.mp h
  rw [← pure_eq_ok.mp h]
  refine allInert_cons.mpr ⟨Inert.upperCamelCase, allInert_flatMap.mpr ?_⟩
  cases hfields : variant.fields with
  | none =>
      rw [hfields] at hfound
      rw [← pure_eq_ok.mp hfound]
      exact fun _ hmem => nomatch hmem
  | some fields =>
      rw [hfields] at hfound
      obtain ⟨made, hmade, hfound⟩ := bind_eq_ok.mp hfound
      rw [← pure_eq_ok.mp hfound]
      exact inert_fields hmade

/-- and shapes, -/
theorem inert_shape {type : TypeNode} {shape : Shape} (h : Shape.of scope context type = .ok shape) :
    AllInert shape.names := by
  cases type with
  | struct fields =>
      obtain ⟨made, hmade, h⟩ := bind_eq_ok.mp h
      rw [← pure_eq_ok.mp h]
      exact allInert_flatMap.mpr (inert_fields hmade)
  | enum variants =>
      change Shape.ofVariants scope context variants = .ok shape at h
      unfold Shape.ofVariants at h
      split at h
      · rw [← pure_eq_ok.mp h]
        refine allInert_map.mpr (List.forall_mem_map.mpr fun variant _ => ?_)
        exact Inert.upperCamelCase
      · have h := (unless_eq_ok.mp h).2
        obtain ⟨made, hmade, h⟩ := bind_eq_ok.mp h
        rw [← pure_eq_ok.mp h]
        refine allInert_flatMap.mpr fun built hbuilt => ?_
        obtain ⟨variant, -, hvariant⟩ :=
          exists_of_forall₂_right (forall₂_of_mapM_eq_ok hmade) hbuilt
        exact inert_variant hvariant
  | _ =>
      obtain ⟨found, hfound, h⟩ := bind_eq_ok.mp h
      obtain ⟨codec, hcodec, h⟩ := bind_eq_ok.mp h
      rw [← pure_eq_ok.mp h, Shape.names, PackageType.links_of hfound, Codec.links_of hcodec,
        allInert_map]
      exact List.forall_mem_append.mpr ⟨fun _ => inert_link, fun _ => inert_link⟩

/-- those of declared types. -/
theorem inert_declaration {defined : DefinedType} {declaration : Declaration}
    (h : Declaration.of scope defined = .ok declaration) : AllInert declaration.names := by
  obtain ⟨shape, hshape, h⟩ := bind_eq_ok.mp h
  rw [← pure_eq_ok.mp h]
  exact allInert_cons.mpr ⟨Inert.upperCamelCase, inert_shape hshape⟩

/-- So have errors. -/
theorem inert_errors : AllInert (Module.errors (ErrorsModule.of program)).names := by
  have hstem : Inert "_ERROR__" := .spelled (by decide)
  have htype : Inert "Error" := .spelled (by decide)
  have hmessages : Inert "ErrorMessages" := .spelled (by decide)
  simp only [Module.names, ErrorsModule.of, allInert_cons, allInert_map]
  exact ⟨inferInstance, inferInstance, fun error _ => inferInstance⟩

end Built

/-! ## Modules of a tree -/

variable {tree : Tree}

/-- No node of a well-formed tree has a slash in its name. -/
theorem slashless {names : List String} (h : ProperNames names) :
    ∀ name ∈ names, '/' ∉ name.toList := fun name hname => (h.valid name hname).2

/-- The module of a site is legible. -/
theorem legible_site (hw : tree.WellFormed) {site : Site} (hsite : tree.Renders site)
    {module : Module} (h : (modules tree.isNested).build site = .ok module) :
    module.source.Reads module.comments := by
  cases site with
  | account program account =>
      obtain ⟨built, hbuilt, h⟩ := bind_eq_ok.mp h
      rw [← pure_eq_ok.mp h]
      obtain ⟨hnames, htitles⟩ := inert_account hbuilt
      refine Module.reads_source hnames ?_
      rw [htitles]
      have hproper := (hw.declared program hsite.1).accounts
      exact List.forall_mem_singleton.mpr (slashless hproper _ (List.mem_map_of_mem hsite.2))
  | instruction program instruction =>
      obtain ⟨built, hbuilt, h⟩ := bind_eq_ok.mp h
      rw [← pure_eq_ok.mp h]
      exact Module.reads_source (inert_instruction hbuilt) fun _ hmem => nomatch hmem
  | definedType scope defined =>
      obtain ⟨built, hbuilt, h⟩ := bind_eq_ok.mp h
      rw [← pure_eq_ok.mp h]
      exact Module.reads_source (inert_declaration hbuilt) fun _ hmem => nomatch hmem

/-- The index of some modules is legible. -/
theorem legible_index {children : List String} {namespaced : Bool} (h : AllInert children) :
    (Module.index children namespaced).source.Reads (Module.index children namespaced).comments :=
  Module.reads_source h fun _ hmem => nomatch hmem

/-- The parts of a program have inert names. -/
theorem inert_partsOf : AllInert (Modules.partsOf tree program) := by
  have hany : ∀ {α : Type} {nodes : List α} {names : List String}, AllInert names →
      AllInert (Modules.ifAny nodes names) := fun h name hname => h name (Modules.mem_ifAny.mp hname).2
  have hname : ∀ {name : String}, Inert name → AllInert [name] := List.forall_mem_singleton.mpr
  simp only [Modules.partsOf, allInert_append, allInert_cons]
  exact ⟨⟨⟨⟨.spelled (by decide), hany (hname (.spelled (by decide)))⟩,
    hany (hname (.spelled (by decide)))⟩, hany (hname (.spelled (by decide)))⟩,
    hany (hname (.spelled (by decide)))⟩

/-- Whatever is planned for a well-formed tree is legible. -/
theorem legible_planned (hw : tree.WellFormed) {planned : Planned Module}
    (hplanned : planned ∈ (modules tree.isNested).plan tree) {module : Module}
    (h : planned.build = .ok module) : module.source.Reads module.comments := by
  cases Modules.plannedAs_of_mem hplanned with
  | site hsite => exact legible_site hw hsite h
  | typesIndex _ _ =>
      rw [← Except.ok.inj h]
      exact legible_index (allInert_map.mpr fun _ _ => Inert.camelCase)
  | collectionIndex _ _ names =>
      rw [← Except.ok.inj h]
      exact legible_index (allInert_map.mpr fun _ _ => Inert.camelCase)
  | programIndex _ =>
      rw [← Except.ok.inj h]
      exact legible_index inert_partsOf
  | topIndex _ =>
      rw [← Except.ok.inj h]
      refine legible_index (allInert_append.mpr ⟨allInert_map.mpr fun _ _ => Inert.camelCase, ?_⟩)
      intro name hname
      rw [List.mem_singleton.mp (Modules.mem_ifAny.mp hname).2]
      exact .spelled (by decide)
  | emptyIndex _ =>
      rw [← Except.ok.inj h]
      exact legible_index allInert_nil
  | programs _ =>
      rw [← Except.ok.inj h]
      exact Module.reads_source (allInert_cons.mpr ⟨inert_addressConstant, allInert_nil⟩)
        fun _ hmem => nomatch hmem
  | errors hp _ =>
      rw [← Except.ok.inj h]
      exact Module.reads_source inert_errors (slashless (hw.declared _ hp).errors)

/-! ## Rendering -/

/-- A text is read as a whole, its block comments are those of a list, and each of them ends at its
    own end and nowhere before. -/
structure Contains (text : String) (comments : List String) : Prop where
  lexed : ∃ pieces, lex text.toList = some pieces ∧ blocksOf pieces = comments.map String.toList
  once : ∀ comment ∈ comments, EndsOnce comment.toList

/-- Text that is read has its comments contained. -/
theorem contains_of_reads {text : String} {comments : List String} (h : Reads text comments) :
    Contains text comments := by
  obtain ⟨pieces, hrun, hblocks⟩ := h.text
  have hlex : lex text.toList = some pieces := by
    unfold lex
    rw [hrun]
  refine ⟨⟨pieces, hlex, hblocks⟩, fun comment hcomment => ?_⟩
  refine endOnce_of_lex hlex _ ?_
  rw [hblocks]
  exact List.mem_map_of_mem hcomment

/-- **NO TEXT GETS OUT**: every text is written as one literal, whose value it is; and for every
    reachable tree, each generated file is read as a whole, where its block comments are
    those of its module, and each of them has its terminator at its end only. -/
theorem render_contained :
    (∀ text, lex (stringLiteral text).toList = some [.literal (utf16 text.toList)])
      ∧ ∀ tree, tree.Reachable → ∀ options artifacts, render tree options = .ok artifacts →
        ∃ built, files tree = .ok built
          ∧ artifacts = Artifacts.ofFiles (built.map (ModuleFile.written textOf))
          ∧ ∀ file ∈ built, Contains (textOf file.module) file.module.comments := by
  refine ⟨lex_stringLiteral, fun tree hr options artifacts h => ?_⟩
  obtain ⟨built, hbuilt, hartifacts⟩ := render_eq_ok h
  refine ⟨built, hbuilt, hartifacts, fun file hfile => ?_⟩
  obtain ⟨planned, hplanned, hmodule⟩ :=
    exists_of_forall₂_right (Modules.files_builtAs (modules_regular _) hbuilt) hfile
  exact contains_of_reads (reads_textOf (legible_planned hr.wellFormed hplanned hmodule.module))

/-- An interface with ends of comments in its documentation and in an error. -/
def reef : Document where
  label := "reef"
  text := String.join [
    "\x7b\"name\":\"reef\",\"address\":\"R\",",
    "\"errors\":[\x7b\"code\":1,\"name\":\"*\",\"msg\":\"*/ gone\"\x7d],",
    "\"types\":[\x7b\"name\":\"Coral\",\"docs\":[\"a */ b\",\"**/\"],",
    "\"type\":\x7b\"kind\":\"struct\",\"fields\":[]\x7d\x7d],",
    "\"instructions\":[]\x7d"]

/-- The tree of that interface. -/
def reefTree : Tree where
  programs := [
    { name := "reef", publicKey := "R", version := "", docs := []
      accounts := [], instructions := []
      definedTypes := [⟨"Coral", .struct [], ["a */ b", "**/"]⟩]
      errors := [⟨1, "*", "*/ gone", []⟩] }]
  sharedTypes := []

/-- The interface loads. -/
theorem load_reef : Tree.load [reef] = .ok reefTree := by
  refine load_singleton ?_
  rw [documentProgram_eq String.toList_join]
  decide +kernel

theorem render_contained_reef : reefTree.Reachable
    ∧ ∃ artifacts built, render reefTree ⟨false, SortedMap.empty⟩ = .ok artifacts
      ∧ files reefTree = .ok built
      ∧ (∀ file ∈ built, Contains (textOf file.module) file.module.comments)
      ∧ built.flatMap (·.module.comments)
        = ["/** *: *\\/ gone */", "/**\n * a *\\/ b\n * **\\/\n */"] := by
  have hreachable : reefTree.Reachable := .load load_reef
  obtain ⟨artifacts, hrender⟩ : ∃ artifacts,
      render reefTree ⟨false, SortedMap.empty⟩ = .ok artifacts :=
    exists_ok_of_isSome (by decide +kernel)
  obtain ⟨built, hbuilt, -, hall⟩ := render_contained.2 reefTree hreachable _ artifacts hrender
  obtain ⟨built', hbuilt', hcomments⟩ : ∃ built, files reefTree = .ok built
      ∧ decide (built.flatMap (·.module.comments)
        = ["/** *: *\\/ gone */", "/**\n * a *\\/ b\n * **\\/\n */"]) = true :=
    exists_ok_of_any (by decide +kernel)
  obtain rfl := Except.ok.inj (hbuilt.symm.trans hbuilt')
  exact ⟨hreachable, artifacts, built, hrender, hbuilt, hall, of_decide_eq_true hcomments⟩

end Package

end Bindery
