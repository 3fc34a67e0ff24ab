import Bindery.Package.Printer
import Bindery.Proofs.TypeLinks.Emitted

/-! # Imports — what the source of a module needs from others

    A piece of source carries the names it needs from other modules, and pieces
    that are put together need what each of them does.  So the imports of a module
    are read off its pieces: they are names of the library, of the constants of
    the program, of functions that derive addresses, and otherwise types and codecs
    of links (`Module.importsFor`). -/

namespace Bindery.Package

/-! ## Imports of pieces -/

namespace Source

variable {a b : Source} {text : String} {pieces : List Source}

/-- A piece and another behind it need what both do. -/
@[simp] theorem imports_append : (a ++ b).imports = a.imports ++ b.imports := rfl

/-- A piece that needs a name of another module needs it before all else. -/
@[simp] theorem imports_needing {source name : String} :
    (needing source name a).imports = ⟨source, name⟩ :: a.imports := rfl

/-- Pieces one after another need what each of them does, -/
@[simp] theorem imports_join : (join pieces).imports = pieces.flatMap imports := by
  induction pieces with
  | nil => rfl
  | cons piece pieces ih => rw [List.flatMap_cons, ← ih]; rfl

/-- and so do pieces with a text between them. -/
@[simp] theorem imports_intercalate :
    (intercalate text pieces).imports = pieces.flatMap imports := by
  induction pieces with
  | nil => rfl
  | cons piece pieces ih =>
      cases pieces with
      | nil => exact (List.flatMap_singleton _ _).symm
      | cons next rest =>
          show piece.imports ++ [] ++ (intercalate text (next :: rest)).imports = _
          rw [ih, List.append_nil, ← List.flatMap_cons]

end Source

/-! ## Imports for links -/

/-- What a name of another module is imported for: it is one of the library or of another part of
    the program, or the type or the codec of a link. -/
inductive Import.For (links : List TypeLink) : Import → Prop
  | kit (name : String) : For links ⟨kitModule, name⟩
  | programs (name : String) : For links ⟨"../programs", name⟩
  | accounts (name : String) : For links ⟨"../accounts", name⟩
  | type {link : TypeLink} (h : link ∈ links) : For links ⟨link.module, "type " ++ link.name⟩
  | codec {link : TypeLink} (h : link ∈ links) :
      For links ⟨link.module, Codec.functionName link.name⟩

/-- A piece of source that has some links imports nothing but what is needed for them. -/
structure Source.NeedsFor (source : Source) (links : List TypeLink) : Prop where
  imports : ∀ i ∈ source.imports, i.For links

namespace Source

variable {a b : Source} {links links' : List TypeLink} {pieces : List Source}

theorem needsFor_iff : a.NeedsFor links ↔ ∀ i ∈ a.imports, i.For links :=
  ⟨fun h => h.imports, fun h => ⟨h⟩⟩

@[simp] theorem needsFor_append :
    (a ++ b).NeedsFor links ↔ a.NeedsFor links ∧ b.NeedsFor links := by
  simp only [needsFor_iff, imports_append, List.forall_mem_append]

@[simp] theorem needsFor_text {text : String} : (text : Source).NeedsFor links :=
  ⟨fun _ hi => nomatch hi⟩

@[simp] theorem needsFor_empty : empty.NeedsFor links := needsFor_text

@[simp] theorem needsFor_kit {name : String} : (Package.kit name).NeedsFor links :=
  ⟨List.forall_mem_singleton.mpr (.kit name)⟩

@[simp] theorem needsFor_join :
    (join pieces).NeedsFor links ↔ ∀ piece ∈ pieces, piece.NeedsFor links := by
  simp only [needsFor_iff, imports_join, List.forall_mem_flatMap]

@[simp] theorem needsFor_intercalate {text : String} :
    (intercalate text pieces).NeedsFor links ↔ ∀ piece ∈ pieces, piece.NeedsFor links := by
  rw [← needsFor_join, needsFor_iff, needsFor_iff, imports_join, imports_intercalate]

/-- Braces import nothing, -/
@[simp] theorem needsFor_braced : (braced a).NeedsFor links ↔ a.NeedsFor links := by
  unfold braced
  simp only [needsFor_append, needsFor_text, and_true, true_and]

/-- and one name of the library more is nothing for links. -/
@[simp] theorem needsFor_needing {name : String} :
    (needing kitModule name a).NeedsFor links ↔ a.NeedsFor links := by
  simp only [needsFor_iff, imports_needing, List.forall_mem_cons, Import.For.kit, true_and]

end Source

/-! ## Types, codecs and members -/

open Source

variable {links : List TypeLink}

/-- The source of a type imports the types that it links to. -/
theorem needsFor_type {type : PackageType} (h : type.links ⊆ links) :
    type.source.NeedsFor links := by
  induction type with
  | link target =>
      exact ⟨List.forall_mem_singleton.mpr (.type (h List.mem_cons_self))⟩
  | option item ih => simpa [PackageType.source] using ih h
  | array item ih => simpa [PackageType.source] using ih h
  | _ => simp [PackageType.source]

/-- The source of a codec imports the codecs that it links to. -/
theorem needsFor_codec {codec : Codec} (h : codec.links ⊆ links) :
    codec.source.NeedsFor links := by
  induction codec with
  | link target =>
      exact ⟨List.forall_mem_singleton.mpr (.codec (h List.mem_cons_self))⟩
  | option item ih => simpa [Codec.source] using ih h
  | array item count ih =>
      cases count with
      | none => simpa [Codec.source] using ih h
      | some count => simpa [Codec.source] using ih h
  | _ => simp [Codec.source, Codec.prefixed, Codec.fixed]

/-- An object type imports what the types of its members do, -/
theorem needsFor_objectType {name : String} {fields : List Field}
    (h : fields.flatMap Field.links ⊆ links) : (objectType name fields).NeedsFor links := by
  have hfields : ∀ field ∈ fields, field.type.source.NeedsFor links := fun field hfield =>
    needsFor_type fun link hlink =>
      h (List.mem_flatMap.mpr ⟨field, hfield, List.mem_append_left _ hlink⟩)
  unfold objectType memberLines
  simpa only [needsFor_append, needsFor_text, needsFor_join, List.forall_mem_map, and_true,
    true_and] using hfields

/-- and its codec what their codecs do. -/
theorem needsFor_structCodec {fields : List Field} (h : fields.flatMap Field.links ⊆ links) :
    (structCodec fields).NeedsFor links := by
  have hfields : ∀ field ∈ fields, field.codec.source.NeedsFor links := by
    intro field hfield
    refine needsFor_codec fun link hlink => ?_
    exact h (List.mem_flatMap.mpr ⟨field, hfield, List.mem_append_right _ hlink⟩)
  cases fields with
  | nil =>
      show (kit "getStructCodec" ++ "([])").NeedsFor links
      simp only [needsFor_append, needsFor_kit, needsFor_text, and_self]
  | cons first rest =>
      show (kit "getStructCodec" ++ "([\n" ++ join ((first :: rest).map fun field =>
        ("    ['" ++ field.key ++ "', " : String) ++ field.codec.source ++ "],\n")
          ++ "  ])").NeedsFor links
      simp only [needsFor_append, needsFor_kit, needsFor_text, needsFor_join,
        List.forall_mem_map, and_true, true_and]
      exact hfields

@[simp] theorem needsFor_codecFunction {type : String} {codec : Source} :
    (codecFunction type codec).NeedsFor links ↔ codec.NeedsFor links := by
  unfold codecFunction
  simp only [needsFor_append, needsFor_text, and_true, true_and]

/-! ## Modules -/

/-- The type of a variant and its codec import what its members do. -/
theorem needsFor_variant {variant : Variant}
    (h : (variant.fields.getD []).flatMap Field.links ⊆ links) :
    variant.line.NeedsFor links ∧ variant.codec.NeedsFor links := by
  have hfields : ∀ field ∈ variant.fields.getD [], field.type.source.NeedsFor links :=
    fun field hfield => needsFor_type fun link hlink =>
      h (List.mem_flatMap.mpr ⟨field, hfield, List.mem_append_left _ hlink⟩)
  constructor
  · unfold Variant.line
    simpa only [needsFor_append, needsFor_text, needsFor_braced, needsFor_intercalate,
      List.forall_mem_cons, List.forall_mem_map, and_true, true_and] using hfields
  · unfold Variant.codec
    cases hvariant : variant.fields with
    | none => simp only [needsFor_append, needsFor_kit, needsFor_text, and_self]
    | some fields =>
        rw [hvariant] at h
        have hcodec : (structCodec fields).NeedsFor links := needsFor_structCodec h
        simp only [needsFor_append, needsFor_text, hcodec, and_self]

/-- The source of a declared type imports what is needed for its links. -/
theorem needsFor_declaration {declaration : Declaration} (h : declaration.shape.links ⊆ links) :
    declaration.source.NeedsFor links := by
  obtain ⟨docs, name, shape⟩ := declaration
  cases shape with
  | struct fields =>
      simp only [Declaration.source, needsFor_append, needsFor_text, needsFor_objectType h,
        needsFor_codecFunction, needsFor_structCodec h, and_self]
  | enum members =>
      simp only [Declaration.source, needsFor_append, needsFor_kit, needsFor_text,
        needsFor_codecFunction, and_self]
  | union variants =>
      have hvariants : ∀ variant ∈ variants,
          variant.line.NeedsFor links ∧ variant.codec.NeedsFor links :=
        fun variant hvariant => needsFor_variant fun link hlink =>
          h (List.mem_flatMap.mpr ⟨variant, hvariant, hlink⟩)
      simp only [Declaration.source, needsFor_append, needsFor_kit, needsFor_text, needsFor_join,
        needsFor_intercalate, needsFor_codecFunction, List.forall_mem_map, and_true, true_and]
      exact ⟨fun variant hvariant => (hvariants variant hvariant).1,
        fun variant hvariant => (hvariants variant hvariant).2⟩
  | «alias» type codec =>
      obtain ⟨htype, hcodec⟩ := List.append_subset.mp h
      simp only [Declaration.source, needsFor_append, needsFor_text, needsFor_codecFunction,
        needsFor_type htype, needsFor_codec hcodec, and_self]

/-- The source of a seed imports what is needed for its links, and so does its parameter. -/
theorem needsFor_seed {seed : SeedPart} (h : seed.links ⊆ links) :
    seed.source.NeedsFor links ∧ ∀ parameter, seed.parameter? = some parameter →
      parameter.NeedsFor links := by
  cases seed with
  | parameter key type encoding =>
      obtain ⟨htype, hencoding⟩ := List.append_subset.mp h
      constructor
      · cases encoding with
        | raw => exact needsFor_text
        | utf8 =>
            simp only [SeedPart.source, needsFor_append, needsFor_kit, needsFor_text, and_self]
        | codec inner =>
            have hinner : inner.source.NeedsFor links := needsFor_codec hencoding
            simp only [SeedPart.source, needsFor_append, needsFor_text, hinner, and_self]
      · intro parameter hparameter
        rw [← Option.some.inj hparameter]
        exact needsFor_append.mpr ⟨needsFor_text, needsFor_type htype⟩
  | bytes raw => exact ⟨needsFor_text, fun _ hparameter => nomatch hparameter⟩
  | _ =>
      refine ⟨?_, fun _ hparameter => nomatch hparameter⟩
      simp only [SeedPart.source, needsFor_append, needsFor_kit, needsFor_text, and_self]

/-- The address of the program is imported from its constants. -/
theorem needsFor_programParameter {constant : String} :
    (programParameter constant).NeedsFor links := by
  have hconstant : (programConstant constant).NeedsFor links :=
    ⟨List.forall_mem_singleton.mpr (.programs constant)⟩
  unfold programParameter
  simp only [needsFor_append, needsFor_kit, needsFor_text, hconstant, and_self]

/-- The constant of a tag imports nothing. -/
theorem needsFor_tag {tag : TagConstant} : tag.source.NeedsFor links := by
  unfold TagConstant.source
  simp only [needsFor_append, needsFor_text, and_self]

/-- The source of an account imports what is needed for its links. -/
theorem needsFor_account {module : AccountModule} (h : (Module.account module).links ⊆ links) :
    module.source.NeedsFor links := by
  obtain ⟨hfields, hseeds⟩ := List.append_subset.mp h
  have hdecoder : (decoder module.name module.tag).NeedsFor links := by
    unfold decoder
    cases module.tag <;> simp only [needsFor_append, needsFor_kit, needsFor_text, and_self]
  have hfinder : ∀ seeds, module.seeds = some seeds → (finder module seeds).NeedsFor links := by
    intro seeds hrecipe
    have hparts : ∀ seed ∈ seeds, seed.source.NeedsFor links
        ∧ ∀ parameter, seed.parameter? = some parameter → parameter.NeedsFor links := by
      intro seed hmem
      refine needsFor_seed fun link hlink => hseeds (List.mem_flatMap.mpr ⟨seed, ?_, hlink⟩)
      rw [hrecipe]
      exact hmem
    unfold finder
    simp only [needsFor_append, needsFor_kit, needsFor_text, needsFor_join, needsFor_intercalate,
      needsFor_braced, needsFor_programParameter, List.forall_mem_map, List.mem_filterMap,
      and_true, true_and]
    refine ⟨?_, fun seed hmem => (hparts seed hmem).1⟩
    rintro parameter ⟨seed, hmem, hparameter⟩
    exact (hparts seed hmem).2 parameter hparameter
  unfold AccountModule.source
  simp only [needsFor_append, needsFor_text, needsFor_objectType hfields, needsFor_codecFunction,
    needsFor_structCodec hfields, hdecoder, and_true]
  constructor
  · cases module.tag with
    | none => exact needsFor_empty
    | some tag => exact needsFor_tag
  · cases hrecipe : module.seeds with
    | none => exact needsFor_empty
    | some seeds => exact needsFor_append.mpr ⟨needsFor_text, hfinder seeds hrecipe⟩

/-! ## Call builders -/

namespace InstructionModule

variable {module : InstructionModule} {input : Input}

/-- A literal imports nothing but names of the library. -/
theorem needsFor_literal {type : TypeNode} {value : Literal} :
    (literalSource type value).NeedsFor links := by
  unfold literalSource
  split
  · split <;> simp only [needsFor_append, needsFor_text, and_self]
  · split <;> exact needsFor_text
  · exact needsFor_text
  · simp only [needsFor_append, needsFor_kit, needsFor_text, and_self]
  · exact needsFor_text

/-- A default imports functions that derive addresses, and names of the library. -/
theorem needsFor_expression {expression : Expression} :
    (module.expressionSource input expression).NeedsFor links := by
  cases expression with
  | derived owner seeds =>
      have hfinder : (imported "../accounts" (finderName owner)).NeedsFor links :=
        ⟨List.forall_mem_singleton.mpr (.accounts _)⟩
      unfold expressionSource
      simp only [needsFor_append, needsFor_text, needsFor_intercalate, needsFor_braced, hfinder,
        List.forall_mem_map, implies_true, and_self]
  | literal value => exact needsFor_literal
  | _ => exact needsFor_text

/-- A local imports nothing for links. -/
theorem needsFor_binding {bound : Binding} : (module.bindingSource bound).NeedsFor links := by
  have horigin : (module.originSource bound.input bound.origin).NeedsFor links := by
    unfold originSource
    split
    · exact needsFor_text
    · exact needsFor_text
    · split <;> simp only [needsFor_append, needsFor_kit, needsFor_text, and_self]
    · split <;> simp only [needsFor_append, needsFor_kit, needsFor_text, needsFor_expression,
        and_self]
  unfold bindingSource
  simp only [needsFor_append, needsFor_text, horigin, and_self]

/-- The type of an input imports what is needed for the links of the arguments. -/
theorem needsFor_inputType (h : module.fields.flatMap Field.links ⊆ links) :
    (module.inputType input).NeedsFor links := by
  cases input with
  | account name => exact needsFor_kit
  | argument name =>
      simp only [inputType]
      split
      · next field hfound =>
          have hmem := List.mem_reverse.mp (List.mem_of_find?_eq_some hfound)
          exact needsFor_type fun link hlink => h (List.mem_flatMap.mpr
            ⟨field, (List.of_mem_zip hmem).2, List.mem_append_left _ hlink⟩)
      · exact needsFor_empty

/-- The entry of an account imports nothing for links. -/
theorem needsFor_accountSource {account : InstructionAccount} :
    (accountSource account).NeedsFor links := by
  unfold accountSource accountMeta
  split <;> simp only [needsFor_append, needsFor_kit, needsFor_text, needsFor_braced, and_self]

end InstructionModule

/-- The source of an instruction imports what is needed for its links. -/
theorem needsFor_instruction {module : InstructionModule}
    (h : (Module.instruction module).links ⊆ links) : module.source.NeedsFor links := by
  have hobject : module.inputObject.NeedsFor links := by
    unfold InstructionModule.inputObject
    simp only [needsFor_append, needsFor_text, needsFor_join, List.forall_mem_map,
      InstructionModule.needsFor_inputType h, implies_true, and_self]
  have hbuilder : module.builder.NeedsFor links := by
    unfold InstructionModule.builder
    simp only [needsFor_append, needsFor_kit, needsFor_text, needsFor_join, needsFor_braced,
      needsFor_programParameter, List.forall_mem_map, InstructionModule.needsFor_binding,
      InstructionModule.needsFor_accountSource, implies_true, and_self]
  unfold InstructionModule.source
  simp only [needsFor_needing, needsFor_append, needsFor_text, needsFor_objectType h,
    needsFor_codecFunction, needsFor_structCodec h, hobject, hbuilder, and_true]
  cases module.instruction.discriminator with
  | none => exact needsFor_empty
  | some tag => exact needsFor_tag

/-- **WHAT IS IMPORTED**: a module imports names of the library, of the constants of its program
    and of functions that derive addresses, and for each of its links the type or the codec. -/
theorem Module.importsFor (module : Module) : module.source.NeedsFor module.links := by
  have hself : module.links ⊆ module.links := List.Subset.refl _
  cases module with
  | account module => exact needsFor_account hself
  | instruction module => exact needsFor_instruction hself
  | type declaration => exact needsFor_declaration hself
  | programs constant address =>
      show (programSource constant address).NeedsFor _
      unfold programSource
      simp only [needsFor_append, needsFor_kit, needsFor_text, and_self]
  | errors module =>
      show module.source.NeedsFor _
      unfold ErrorsModule.source
      simp only [needsFor_append, needsFor_text, and_self]
  | index children namespaced => exact needsFor_text

end Bindery.Package
