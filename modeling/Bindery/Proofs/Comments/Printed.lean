import Bindery.Proofs.Comments.Sources
import Bindery.Proofs.TypeLinks.Emitted

/-! # Printed comments — the block comments in the source of a module

    A module has a comment for its documentation and for that of each member, one
    over the function that derives an address, and one for each error
    (`Module.comments`).  If the names that the printer puts into code are inert, and
    those that it puts into comments have no slash, then these are the comments that
    are read in the source of the module, whatever stands in them
    (`Module.reads_source`). -/

namespace Bindery.Package

open Source

/-! ## Names and comments of modules -/

/-- The names in a member: its key, and those of its links. -/
def Field.names (field : Field) : List String := field.key :: field.links.map (·.name)

/-- The names in a variant. -/
def Variant.names (variant : Variant) : List String :=
  variant.name :: (variant.fields.getD []).flatMap Field.names

/-- The names in the shape of a declared type. -/
def Shape.names : Shape → List String
  | .struct fields => fields.flatMap Field.names
  | .enum members => members.map (·.1)
  | .union variants => variants.flatMap Variant.names
  | .alias type codec => (type.links ++ codec.links).map (·.name)

/-- The names in a declared type. -/
def Declaration.names (declaration : Declaration) : List String :=
  declaration.name :: declaration.shape.names

/-- The names in a seed. -/
def SeedPart.names (part : SeedPart) : List String :=
  part.links.map (·.name) ++ match part with
    | .parameter key _ _ => [key]
    | .text _ | .bytes _ | .programId => []

/-- The names that a module is built with and has in its code. -/
def Module.names : Module → List String
  | .account module =>
    module.name :: module.programAddress :: module.tag.toList.map (·.name)
      ++ module.fields.flatMap Field.names ++ (module.seeds.getD []).flatMap SeedPart.names
  | .instruction module => module.programAddress :: module.fields.flatMap Field.names
  | .errors module => module.type :: module.messages :: module.constants
  | .type declaration => declaration.names
  | .programs constant _ => [constant]
  | .index children _ => children

/-- The names that a module has in its comments as they are. -/
def Module.titles : Module → List String
  | .account module => [module.title]
  | .errors module => module.errors.map (·.name)
  | .instruction _ | .type _ | .programs _ _ | .index _ _ => []

/-- The comments of members. -/
def fieldComments (fields : List Field) : List String :=
  fields.flatMap fun field => docComment "  " field.docs

/-- The comment over the function that derives the address of an account. -/
def finderComment (title : String) : String :=
  "/** Derive the address of a `" ++ title ++ "` account. */"

/-- The comment of an error. -/
def errorComment (error : ProgramError) : String :=
  "/** " ++ error.name ++ ": " ++ commentLine error.message ++ " */"

/-- The comments of a declared type: those of a struct's members are in its type. -/
def Declaration.comments (declaration : Declaration) : List String :=
  docComment "" declaration.docs ++ match declaration.shape with
    | .struct fields => fieldComments fields
    | .enum _ | .union _ | .alias _ _ => []

/-- The block comments of a module, in order. -/
def Module.comments : Module → List String
  | .account module =>
    docComment "" module.docs ++ fieldComments module.fields
      ++ module.seeds.toList.map fun _ => finderComment module.title
  | .instruction module => fieldComments module.fields ++ docComment "" module.instruction.docs
  | .errors module => (module.constants.zip module.errors).map fun (_, error) => errorComment error
  | .type declaration => declaration.comments
  | .programs _ _ | .index _ _ => []

/-- All of some names are inert. -/
def AllInert (names : List String) : Prop := ∀ name ∈ names, Inert name

section Inert

variable {names rest : List String} {name : String}

@[simp] theorem allInert_nil : AllInert [] := fun _ h => nomatch h

@[simp] theorem allInert_cons : AllInert (name :: names) ↔ Inert name ∧ AllInert names :=
  List.forall_mem_cons

@[simp] theorem allInert_append : AllInert (names ++ rest) ↔ AllInert names ∧ AllInert rest :=
  List.forall_mem_append

@[simp] theorem allInert_flatMap {α : Type} {items : List α} {f : α → List String} :
    AllInert (items.flatMap f) ↔ ∀ item ∈ items, AllInert (f item) :=
  List.forall_mem_flatMap

@[simp] theorem allInert_map {α : Type} {items : List α} {f : α → String} :
    AllInert (items.map f) ↔ ∀ item ∈ items, Inert (f item) :=
  List.forall_mem_map

end Inert

/-! ## Types and codecs -/

section Types

variable {fields : List Field} {name : String} {codec : Source} {target : TypeLink}

/-- The directory of types can be quoted. -/
theorem TypeLink.quoted_module : target.module.toList.all isQuoted = true := by
  have hup : ∀ n, (String.join (List.replicate n "../")).toList.all isQuoted = true := by
    intro n
    rw [String.toList_join, List.all_flatMap]
    refine List.all_eq_true.mpr fun part hpart => ?_
    rw [List.eq_of_mem_replicate hpart, String.toList_ofList]
    decide
  unfold TypeLink.module
  rw [String.toList_append, List.all_append, hup, String.toList_ofList]
  decide

/-- Types are read with inert links, -/
theorem reads_type {type : PackageType} (h : AllInert (type.links.map (·.name))) :
    type.source.Reads [] := by
  induction type with
  | link target =>
      have hname : Inert target.name := h _ List.mem_cons_self
      have hword : Inert "type " := .spelled (by decide)
      have hentry : Inert ("type " ++ target.name) := inferInstance
      exact reads_needing reads_inert ⟨TypeLink.quoted_module, hentry.quiet⟩
  | option item ih | array item ih =>
      simp (disch := (constructor; decide)) [PackageType.source, reads_behind (ih h)]
  | _ => simp (disch := (constructor; decide)) [PackageType.source]

/-- and so are codecs. -/
theorem reads_codec {codec : Codec} (h : AllInert (codec.links.map (·.name))) :
    codec.source.Reads [] := by
  induction codec with
  | link target =>
      have hname : Inert target.name := h _ List.mem_cons_self
      have himported : (imported target.module (Codec.functionName target.name)).Reads [] :=
        reads_imported TypeLink.quoted_module
      simp (disch := (constructor; decide)) [Codec.source, reads_behind himported]
  | number format =>
      have hkit : (kit (Codec.functionName (Text.upperCamelCase format.name))).Reads [] :=
        reads_imported quoted_kitModule
      simp (disch := (constructor; decide)) [Codec.source, reads_behind hkit]
  | option item ih => simp (disch := (constructor; decide)) [Codec.source, reads_behind (ih h)]
  | array item count ih =>
      cases count <;> simp (disch := (constructor; decide)) [Codec.source, reads_behind (ih h)]
  | _ => simp (disch := (constructor; decide)) [Codec.source, Codec.prefixed, Codec.fixed]

/-- A function that returns a codec is read with it. -/
theorem reads_codecFunction [Inert name] (h : codec.Reads []) :
    (codecFunction name codec).Reads [] := by
  unfold codecFunction
  simp (disch := (constructor; decide)) [reads_behind h]

/-! ## Members -/

/-- The names of members are inert where their keys and their links are. -/
theorem allInert_field {field : Field} (h : AllInert field.names) :
    Inert field.key ∧ field.type.source.Reads [] ∧ field.codec.source.Reads [] := by
  obtain ⟨hkey, hlinks⟩ := allInert_cons.mp h
  rw [Field.links, List.map_append, allInert_append] at hlinks
  exact ⟨hkey, reads_type hlinks.1, reads_codec hlinks.2⟩

/-- The documentation of a member is indented, -/
theorem blank_member : Blank "  " := by
  unfold Blank
  rw [String.toList_ofList]
  simp only [List.forall_mem_cons, List.not_mem_nil, false_implies, implies_true, and_self]

/-- and that of a module is not. -/
theorem blank_module : Blank "" := by
  unfold Blank
  rw [String.toList_ofList]
  exact fun _ h => nomatch h

/-- An object type is read with the documentation of its members, -/
theorem reads_objectType [Inert name] (h : ∀ field ∈ fields, AllInert field.names) :
    (objectType name fields).Reads (fieldComments fields) := by
  have hmembers : (memberLines fields).Reads (fieldComments fields) := by
    refine reads_join fun field hfield => ?_
    obtain ⟨hkey, htype, -⟩ := allInert_field (h field hfield)
    simp only [mk_append, append_assoc]
    refine (reads_docBlock blank_member).before ?_
    simp (disch := (constructor; decide)) [reads_behind htype]
  have hend : Reads "\x7d;\n\n" [] := by simp (disch := (constructor; decide))
  unfold objectType
  simp (disch := (constructor; decide)) only [append_assoc, reads_phrase_append,
    reads_inert_append]
  exact hmembers.before hend

/-- and its codec with none. -/
theorem reads_structCodec (h : ∀ field ∈ fields, AllInert field.names) :
    (structCodec fields).Reads [] := by
  have hmember : ∀ field ∈ fields,
      (("    ['" ++ field.key ++ "', " : String) ++ field.codec.source ++ "],\n" : Source).Reads
        [] := by
    intro field hfield
    obtain ⟨hkey, -, hcodec⟩ := allInert_field (h field hfield)
    simp (disch := (constructor; decide)) [reads_behind hcodec]
  cases fields with
  | nil => simp (disch := (constructor; decide)) [structCodec]
  | cons first rest =>
      have hmembers := reads_join_nil hmember
      simp only [mk_append, append_assoc] at hmembers
      show (kit "getStructCodec" ++ "([\n" ++ join ((first :: rest).map fun field =>
        ("    ['" ++ field.key ++ "', " : String) ++ field.codec.source ++ "],\n")
          ++ "  ])").Reads []
      simp (disch := (constructor; decide)) only [mk_append, append_assoc, reads_kit_append,
        reads_phrase_append, reads_behind hmembers, reads_phrase]

/-! ## Declared types -/

/-- The type of a variant is read without comments, -/
theorem reads_variant {variant : Variant} (h : AllInert variant.names) :
    variant.line.Reads [] ∧ variant.codec.Reads [] := by
  obtain ⟨hname, hfields⟩ := allInert_cons.mp h
  have hmembers := allInert_flatMap.mp hfields
  constructor
  · have hparts : ∀ part ∈ ("__kind: '" ++ (variant.name ++ "'") : Source)
        :: (variant.fields.getD []).map fun field => (field.key ++ (": " ++ field.type.source) : Source),
        Source.Reads part [] := by
      refine List.forall_mem_cons.mpr ⟨?_, List.forall_mem_map.mpr fun field hfield => ?_⟩
      · simp (disch := (constructor; decide))
      · obtain ⟨hkey, htype, -⟩ := allInert_field (hmembers field hfield)
        simp (disch := (constructor; decide)) [htype]
    have hsemicolon : Phrase "; " := .spelled (by decide)
    have hobject := reads_braced (reads_intercalate hsemicolon hparts)
    unfold Variant.line
    simp (disch := (constructor; decide)) [reads_behind hobject]
  · unfold Variant.codec
    cases hvariant : variant.fields with
    | none => simp (disch := (constructor; decide))
    | some fields =>
        rw [hvariant] at hmembers
        have hcodec : (structCodec fields).Reads [] := reads_structCodec hmembers
        simp (disch := (constructor; decide)) [reads_behind hcodec]

/-- A declared type is read with its documentation. -/
theorem reads_declaration {declaration : Declaration} (h : AllInert declaration.names) :
    declaration.source.Reads declaration.comments := by
  obtain ⟨docs, name, shape⟩ := declaration
  obtain ⟨hname, hshape⟩ := allInert_cons.mp h
  refine (reads_docBlock blank_module).append ?_
  cases shape with
  | struct fields =>
      have hfields := allInert_flatMap.mp hshape
      exact (reads_objectType hfields).before (reads_codecFunction (reads_structCodec hfields))
  | enum members =>
      have hcodec : (codecFunction name (kit "getEnumCodec" ++ ("(" ++ (name ++ ")")))).Reads [] :=
        reads_codecFunction (by simp (disch := (constructor; decide)))
      have hmembers : Reads (String.join (members.map memberLine)) [] := by
        rw [mk_join, List.map_map]
        refine reads_join_nil fun member hmember => ?_
        have hkey : Inert member.1 := hshape _ (List.mem_map_of_mem hmember)
        obtain ⟨key, value⟩ := member
        cases value <;> simp (disch := (constructor; decide)) [memberLine]
      simp (disch := (constructor; decide)) [reads_behind hmembers, hcodec]
  | union variants =>
      have hvariants := allInert_flatMap.mp hshape
      have hlines : (join (variants.map (·.line))).Reads [] :=
        reads_join_nil fun variant hvariant => (reads_variant (hvariants variant hvariant)).1
      have hfeed : Phrase "\n" := .spelled (by decide)
      have hcodecs : (intercalate "\n" (variants.map (·.codec))).Reads [] :=
        reads_intercalate hfeed (List.forall_mem_map.mpr fun variant hvariant =>
          (reads_variant (hvariants variant hvariant)).2)
      have hcodec : (codecFunction name (kit "getDiscriminatedUnionCodec" ++ ("([\n"
          ++ (intercalate "\n" (variants.map (·.codec)) ++ "\n  ])")))).Reads [] :=
        reads_codecFunction (by simp (disch := (constructor; decide)) [reads_behind hcodecs])
      simp (disch := (constructor; decide)) [reads_behind hlines, hcodec]
  | «alias» type codec =>
      have hshape := List.forall_mem_append.mp (allInert_map.mp hshape)
      have htype : type.source.Reads [] := reads_type (allInert_map.mpr hshape.1)
      have hcodec : (codecFunction name codec.source).Reads [] :=
        reads_codecFunction (reads_codec (allInert_map.mpr hshape.2))
      simp (disch := (constructor; decide)) [reads_behind htype, hcodec]

/-! ## Accounts -/

/-- Bytes are read without comments. -/
@[simp] theorem reads_byteArray {bytes : List UInt8} : Reads (byteArray bytes) [] := by
  have hcomma : Phrase ", " := .spelled (by decide)
  have hbytes : Reads (", ".intercalate (bytes.map fun byte => toString byte.toNat)) [] := by
    rw [mk_intercalate, List.map_map]
    exact reads_intercalate hcomma (List.forall_mem_map.mpr fun byte _ => reads_inert)
  unfold byteArray
  simp (disch := (constructor; decide)) only [mk_append, append_assoc, reads_phrase_append,
    reads_behind hbytes, reads_phrase]

/-- The constant of a tag has an inert name. -/
instance inert_tag {node : String} {tag : Discriminator} : Inert (TagConstant.of node tag).name := by
  have hending : Inert "_DISCRIMINATOR" := .spelled (by decide)
  exact inferInstanceAs (Inert (Text.shoutyCase node ++ "_DISCRIMINATOR"))

/-- So are the constant of a tag, -/
theorem reads_tag {tag : TagConstant} (h : Inert tag.name) : tag.source.Reads [] := by
  unfold TagConstant.source
  simp (disch := (constructor; decide)) [reads_behind reads_byteArray]

/-- the function that reads an account, -/
theorem reads_decoder {tag : Option TagConstant} (hname : Inert name)
    (h : ∀ constant, tag = some constant → Inert constant.name) : (decoder name tag).Reads [] := by
  unfold decoder
  cases tag with
  | none => simp (disch := (constructor; decide))
  | some tag =>
      have htag := h tag rfl
      simp (disch := (constructor; decide))

/-- and seeds. -/
theorem reads_seed {part : SeedPart} (h : AllInert part.names) :
    part.source.Reads [] ∧ ∀ parameter, part.parameter? = some parameter → parameter.Reads [] := by
  cases part with
  | text value =>
      refine ⟨?_, nofun⟩
      simp (disch := (constructor; decide)) [SeedPart.source]
  | bytes raw => exact ⟨reads_byteArray, nofun⟩
  | programId =>
      refine ⟨?_, nofun⟩
      simp (disch := (constructor; decide)) [SeedPart.source]
  | parameter key type encoding =>
      obtain ⟨hlinks, hkey⟩ := allInert_append.mp h
      have hkey := hkey key List.mem_cons_self
      rw [SeedPart.links, List.map_append, allInert_append] at hlinks
      have htype := reads_type hlinks.1
      constructor
      · cases encoding with
        | codec codec =>
            have hcodec : codec.source.Reads [] := reads_codec hlinks.2
            simp (disch := (constructor; decide)) [SeedPart.source, reads_behind hcodec]
        | raw | utf8 => simp (disch := (constructor; decide)) [SeedPart.source]
      · intro parameter hparameter
        rw [← Option.some.inj hparameter]
        simp (disch := (constructor; decide)) [htype]

/-- The parameter for the address of a program is read with its constant. -/
theorem reads_programParameter {constant : String} [Inert constant] :
    (programParameter constant).Reads [] := by
  have hprograms : "../programs".toList.all isQuoted = true := by
    rw [String.toList_ofList]
    decide
  have hconstant : (programConstant constant).Reads [] := reads_imported hprograms
  unfold programParameter
  simp (disch := (constructor; decide)) [reads_behind hconstant]

/-- The comment over the function that derives an address is one if the name of the account has no
    slash. -/
theorem comment_finder {title : String} (h : '/' ∉ title.toList) :
    Comment (finderComment title) := by
  have hbefore : Contained "* Derive the address of a `".toList := by
    rw [String.toList_ofList]
    exact contained_phrase (by decide) (by decide)
  have htitle : Contained (title.toList ++ ['\x60']) :=
    contained_concat (endless_of_not_mem h) (by decide) (by decide)
  have hbehind : Contained " account. ".toList := by
    rw [String.toList_ofList]
    exact contained_phrase (by decide) (by decide)
  refine .enclosed ((hbefore.append htitle).append hbehind) ?_
  unfold finderComment
  simp [String.toList_append]

/-- The function that derives an address is read with the name of the account, -/
theorem reads_finder {module : AccountModule} {seeds : List SeedPart}
    (htitle : '/' ∉ module.title.toList) (haddress : Inert module.programAddress)
    (h : ∀ part ∈ seeds, AllInert part.names) :
    (finder module seeds).Reads [finderComment module.title] := by
  have hsemicolon : Phrase "; " := .spelled (by decide)
  have hparameter : ∀ parameter ∈ seeds.filterMap SeedPart.parameter?, parameter.Reads [] := by
    intro parameter hmem
    obtain ⟨part, hpart, hparameter⟩ := List.mem_filterMap.mp hmem
    exact (reads_seed (h part hpart)).2 parameter hparameter
  have hparameters := reads_braced (reads_intercalate hsemicolon hparameter)
  have hseeds : (join (seeds.map fun part => ("      " ++ (part.source ++ ",\n") : Source))).Reads [] := by
    refine reads_join_nil fun part hpart => ?_
    simp (disch := (constructor; decide)) [reads_behind (reads_seed (h part hpart)).1]
  have hhead : ("/** Derive the address of a `" ++ module.title ++ "` account. */\n" : Source)
      = finderComment module.title ++ "\n" := by
    have htext : "/** Derive the address of a `" ++ module.title ++ "` account. */\n"
        = finderComment module.title ++ "\n" := by
      unfold finderComment
      simp only [String.append_assoc]
      rfl
    rw [← mk_append, ← mk_append, ← mk_append, htext]
  have hbehind : (programParameter module.programAddress).Reads [] := reads_programParameter
  unfold finder
  rw [hhead]
  simp (disch := (constructor; decide)) only [append_assoc]
  refine (reads_comment (comment_finder htitle)).before ?_
  simp (disch := (constructor; decide)) [reads_behind hparameters, reads_behind hbehind, reads_behind hseeds]

/-- and an account with its documentation. -/
theorem reads_account {module : AccountModule} (h : AllInert (Module.account module).names)
    (htitle : '/' ∉ module.title.toList) :
    module.source.Reads (Module.account module).comments := by
  simp only [Module.names, allInert_append, allInert_cons, allInert_flatMap, allInert_map] at h
  obtain ⟨⟨⟨hname, haddress, htags⟩, hfields⟩, hseeds⟩ := h
  have hcodec : (codecFunction module.name (structCodec module.fields)).Reads [] :=
    reads_codecFunction (reads_structCodec hfields)
  have hfeed : Reads "\n" [] := reads_phrase (.spelled (by decide))
  have hdecoder : (decoder module.name module.tag).Reads [] :=
    reads_decoder hname fun tag htag => htags tag (Option.mem_toList.mpr htag)
  have hobject : (objectType module.name module.fields).Reads (fieldComments module.fields) :=
    reads_objectType hfields
  have hdocs : Reads (docBlock "" module.docs) (docComment "" module.docs) :=
    reads_docBlock blank_module
  show module.source.Reads ([] ++ docComment "" module.docs ++ fieldComments module.fields ++
    module.seeds.toList.map fun _ => finderComment module.title)
  unfold AccountModule.source
  refine (((((Reads.append ?tag hdocs).append hobject).before hcodec).before hfeed).before
    hdecoder).append ?derivation
  case tag =>
    cases hmodule : module.tag with
    | none => exact reads_empty
    | some tag => exact reads_tag (htags tag (Option.mem_toList.mpr hmodule))
  case derivation =>
    cases hmodule : module.seeds with
    | none => exact reads_empty
    | some seeds =>
        rw [hmodule] at hseeds
        have hfeed : Phrase "\n" := .spelled (by decide)
        exact (reads_phrase_append hfeed).mpr (reads_finder htitle haddress hseeds)

end Types

/-! ## Instructions -/

namespace InstructionModule

variable {module : InstructionModule} {input : Input}

/-- Inputs have inert keys, -/
instance inert_keyOf : Inert (module.keyOf input) := by
  have hending : Inert "Arg" := .spelled (by decide)
  cases input with
  | account name => exact inferInstanceAs (Inert (Text.camelCase name))
  | argument name =>
      unfold keyOf inputKey argumentKey
      dsimp only
      split <;> infer_instance

/-- and instructions inert names. -/
instance inert_name : Inert module.name := inferInstanceAs (Inert (Text.upperCamelCase _))

instance inert_codecName : Inert module.codecName := by
  have hending : Inert "InstructionData" := .spelled (by decide)
  exact inferInstanceAs (Inert (module.name ++ "InstructionData"))

/-- Literals are read without comments. -/
theorem reads_literal {type : TypeNode} {value : Literal} : (literalSource type value).Reads [] := by
  unfold literalSource
  split
  · split
    · split <;> simp (disch := (constructor; decide))
    · exact reads_inert
  · split <;> simp (disch := (constructor; decide))
  · exact reads_stringLiteral
  · simp (disch := (constructor; decide))
  · exact reads_byteArray

/-- So are defaults, -/
theorem reads_expression {expression : Expression} :
    (module.expressionSource input expression).Reads [] := by
  cases expression with
  | derived owner seeds =>
      have haccounts : "../accounts".toList.all isQuoted = true := by
        rw [String.toList_ofList]
        decide
      have hfinder : (imported "../accounts" (finderName owner)).Reads [] := reads_imported haccounts
      have hcomma : Phrase ", " := .spelled (by decide)
      have hfront : ("(await " ++ imported "../accounts" (finderName owner) ++ "(" : Source).Reads
          [] := by
        simp (disch := (constructor; decide)) [reads_behind hfinder]
      have hend : Reads ", programAddress))[0]" [] := reads_phrase (.spelled (by decide))
      refine (hfront.before (reads_braced (reads_intercalate hcomma ?_))).before hend
      refine List.forall_mem_map.mpr fun ⟨seed, given⟩ _ => ?_
      simp (disch := (constructor; decide))
  | account name | argument name => exact reads_inert
  | absent => exact reads_empty
  | programId => exact reads_phrase (.spelled (by decide))
  | literal value => exact reads_literal

/-- the values of locals, -/
theorem reads_origin {origin : Origin} : (module.originSource input origin).Reads [] := by
  have hexpression : ∀ expression : Expression, (module.expressionSource input expression).Reads [] :=
    fun _ => reads_expression
  unfold originSource
  split
  · simp (disch := (constructor; decide))
  · simp (disch := (constructor; decide))
  · split <;> simp (disch := (constructor; decide))
  · split
    · simp (disch := (constructor; decide)) [reads_behind (hexpression _)]
    · simp (disch := (constructor; decide)) [hexpression]

/-- and the statements that bind them. -/
theorem reads_binding {bound : Binding} : (module.bindingSource bound).Reads [] := by
  unfold bindingSource
  simp (disch := (constructor; decide)) [reads_behind reads_origin]

/-- Roles are inert. -/
instance inert_roleName {account : InstructionAccount} : Inert (roleName account) := by
  unfold roleName
  split <;> exact .spelled (by decide)

/-- An address and its role are read without comments, -/
theorem reads_accountMeta {address role : String} [Inert address] [Inert role] :
    (accountMeta address role).Reads [] := by
  unfold accountMeta
  exact reads_braced (by simp (disch := (constructor; decide)))

/-- and so are the entry of an account in a call, -/
theorem reads_accountSource {account : InstructionAccount} : (accountSource account).Reads [] := by
  have haddress : Inert "programAddress" := .spelled (by decide)
  have hrole : Inert "READONLY" := .spelled (by decide)
  unfold accountSource
  dsimp only
  split <;> simp (disch := (constructor; decide)) [reads_behind reads_accountMeta]

/-- the start of its data, -/
theorem reads_dataStart {instruction : Instruction} : Reads (dataStart instruction) [] := by
  unfold dataStart
  split
  · dsimp only
    split <;> simp (disch := (constructor; decide))
  · exact reads_empty

/-- the members of its arguments, -/
theorem reads_argumentMember {argument : InstructionArgument} :
    Reads (module.argumentMember argument) [] := by
  unfold argumentMember
  dsimp only
  split <;> simp (disch := (constructor; decide))

section Built

variable (h : AllInert (Module.instruction module).names)

include h

/-- the type of an input, -/
theorem reads_inputType : (module.inputType input).Reads [] := by
  obtain ⟨-, hfields⟩ := allInert_cons.mp h
  cases input with
  | account name => simp (disch := (constructor; decide)) [inputType]
  | argument name =>
      simp only [inputType]
      split
      · next field hfound =>
          have hmem := List.mem_reverse.mp (List.mem_of_find?_eq_some hfound)
          have hfield := allInert_flatMap.mp hfields field (List.of_mem_zip hmem).2
          exact (allInert_field hfield).2.1
      · exact reads_empty

/-- the object that a caller supplies, -/
theorem reads_inputObject : module.inputObject.Reads [] := by
  have hline : ∀ (mark : String) (given : BuilderInput), Phrase mark →
      (("  " ++ module.keyOf given.input ++ mark : String) ++ module.inputType given.input ++ ";\n"
        : Source).Reads [] := by
    intro mark given hmark
    simp (disch := first | assumption | (constructor; decide)) [reads_behind (reads_inputType h)]
  have hfront : ("export type " ++ module.name ++ "Input = \x7b\n" : Source).Reads [] := by
    simp (disch := (constructor; decide))
  have hend : Reads "\x7d;\n\n" [] := reads_phrase (.spelled (by decide))
  have hrequired : Phrase ": " := .spelled (by decide)
  have hoptional : Phrase "?: " := .spelled (by decide)
  exact ((hfront.before (reads_join_nil fun given _ => hline _ given hrequired)).before
    (reads_join_nil fun given _ => hline _ given hoptional)).before hend

omit h in
/-- the members of an argument object, -/
theorem reads_members : (braced (", ".intercalate
    (module.instruction.arguments.map module.argumentMember))).Reads [] := by
  have hcomma : Phrase ", " := .spelled (by decide)
  refine reads_braced ?_
  rw [mk_intercalate, List.map_map]
  exact reads_intercalate hcomma (List.forall_mem_map.mpr fun argument _ => reads_argumentMember)

/-- and the call builder. -/
theorem reads_builder : module.builder.Reads [] := by
  have haddress : Inert module.programAddress := (allInert_cons.mp h).1
  have hparameter : (programParameter module.programAddress).Reads [] := reads_programParameter
  have hbindings : (join (module.bindings.map module.bindingSource)).Reads [] :=
    reads_join_nil fun _ _ => reads_binding
  have haccounts : (join (module.instruction.accounts.map accountSource)).Reads [] :=
    reads_join_nil fun _ _ => reads_accountSource
  unfold builder
  simp (disch := (constructor; decide)) [reads_behind hparameter, reads_behind hbindings,
    reads_behind haccounts, reads_behind reads_dataStart, reads_behind reads_members]

/-- An instruction is read with the documentation of its arguments and its own. -/
theorem reads_instruction : module.source.Reads (Module.instruction module).comments := by
  obtain ⟨-, hfields⟩ := allInert_cons.mp h
  have hfields := allInert_flatMap.mp hfields
  have hobject : (objectType module.codecName module.fields).Reads (fieldComments module.fields) :=
    reads_objectType hfields
  have hcodec : (codecFunction module.codecName (structCodec module.fields)).Reads [] :=
    reads_codecFunction (reads_structCodec hfields)
  have hfeed : Reads "\n" [] := reads_phrase (.spelled (by decide))
  have hdocs : Reads (docBlock "" module.instruction.docs)
      (docComment "" module.instruction.docs) := reads_docBlock blank_module
  have hrole : Inert "AccountRole" := .spelled (by decide)
  refine reads_needing ?_ ⟨quoted_kitModule, hrole.quiet⟩
  show Reads _ ([] ++ fieldComments module.fields ++ docComment "" module.instruction.docs)
  refine (((((Reads.append ?tag hobject).before hcodec).before hfeed).before
    (reads_inputObject h)).append hdocs).before (reads_builder h)
  cases module.instruction.discriminator with
  | none => exact reads_empty
  | some tag => exact reads_tag inert_tag

end Built

end InstructionModule

/-! ## Programs, errors and indexes -/

/-- The constant of a program is read without comments. -/
theorem reads_program {constant address : String} (h : Inert constant) :
    (programSource constant address).Reads [] := by
  unfold programSource
  simp (disch := (constructor; decide))

/-- The comment of an error is one if the name of the error has no slash. -/
theorem comment_error {error : ProgramError} (h : '/' ∉ error.name.toList) :
    Comment (errorComment error) := by
  have hbefore : Contained ['*', ' '] := contained_phrase (by decide) (by decide)
  have hname : Contained (error.name.toList ++ [':']) :=
    contained_concat (endless_of_not_mem h) (by decide) (by decide)
  have hblank : Contained [' '] := contained_phrase (by decide) (by decide)
  have hmessage : Contained ((commentLine error.message).toList ++ [' ']) :=
    contained_commentLine error.message (by decide) (by decide)
  refine .enclosed (((hbefore.append hname).append hblank).append hmessage) ?_
  unfold errorComment
  simp [String.toList_append]

/-- The constant of an error is read with its comment, -/
theorem reads_error {constant : String} {error : ProgramError} (hconstant : Inert constant)
    (h : '/' ∉ error.name.toList) :
    Reads ("/** " ++ error.name ++ ": " ++ commentLine error.message ++ " */\n"
      ++ "export const " ++ constant ++ " = 0x" ++ String.ofList (Nat.toDigits 16 error.code.toNat)
      ++ "; // " ++ toString error.code ++ "\n" : String) [errorComment error] := by
  have hhead : "/** " ++ error.name ++ ": " ++ commentLine error.message ++ " */\n"
      = errorComment error ++ "\n" := by
    unfold errorComment
    simp only [String.append_assoc]
    rfl
  rw [hhead]
  simp only [mk_append, append_assoc]
  refine (reads_comment (comment_error h)).before ?_
  simp (disch := (constructor; decide)) only [reads_phrase_append, reads_inert_append,
    reads_remark]

/-- and its message as a literal. -/
theorem reads_message {constant : String} {error : ProgramError} (hconstant : Inert constant) :
    Reads ("  [" ++ constant ++ "]: " ++ stringLiteral error.message ++ ",\n" : String) [] := by
  simp (disch := (constructor; decide))

/-- Errors are read with their names and messages. -/
theorem reads_errors {module : ErrorsModule} (h : AllInert (Module.errors module).names)
    (htitles : ∀ error ∈ module.errors, '/' ∉ error.name.toList) :
    module.source.Reads (Module.errors module).comments := by
  obtain ⟨htype, h⟩ := allInert_cons.mp h
  obtain ⟨hmessages, hnames⟩ := allInert_cons.mp h
  have hconstants : Reads (String.join ((module.constants.zip module.errors).map
      fun (constant, error) => "/** " ++ error.name ++ ": " ++ commentLine error.message ++ " */\n"
        ++ "export const " ++ constant ++ " = 0x"
        ++ String.ofList (Nat.toDigits 16 error.code.toNat) ++ "; // " ++ toString error.code
        ++ "\n")) (Module.errors module).comments := by
    have hcomments : (Module.errors module).comments = (module.constants.zip module.errors).flatMap
        fun pair => [errorComment pair.2] := List.map_eq_flatMap
    rw [mk_join, List.map_map, hcomments]
    refine reads_join fun ⟨constant, error⟩ hpair => ?_
    obtain ⟨hconstant, herror⟩ := List.of_mem_zip hpair
    exact reads_error (hnames constant hconstant) (htitles error herror)
  have htexts : Reads (String.join ((module.constants.zip module.errors).map
      fun (constant, error) => "  [" ++ constant ++ "]: " ++ stringLiteral error.message ++ ",\n"))
      [] := by
    rw [mk_join, List.map_map]
    refine reads_join_nil fun ⟨constant, error⟩ hpair => ?_
    exact reads_message (hnames constant (List.of_mem_zip hpair).1)
  have hbar : Phrase " | " := .spelled (by decide)
  have htypes : Reads (" | ".intercalate (module.constants.map fun constant =>
      "typeof " ++ constant)) [] := by
    rw [mk_intercalate, List.map_map]
    refine reads_intercalate hbar (List.forall_mem_map.mpr fun constant hconstant => ?_)
    have hname := hnames constant hconstant
    simp (disch := (constructor; decide))
  unfold ErrorsModule.source
  simp only [append_assoc]
  refine hconstants.before ?_
  simp (disch := (constructor; decide)) [reads_behind htypes, reads_behind htexts]

/-- An index is read without comments. -/
theorem reads_index {children : List String} {namespaced : Bool} (h : AllInert children) :
    Reads (String.join (children.map (childLine namespaced))) [] := by
  rw [mk_join, List.map_map]
  refine reads_join_nil fun child hchild => ?_
  have hname := h child hchild
  simp only [Function.comp_apply, childLine]
  split <;> simp (disch := (constructor; decide))

/-- **THE COMMENTS OF A MODULE** are those that are read in its source. -/
theorem Module.reads_source {module : Module} (h : AllInert module.names)
    (htitles : ∀ title ∈ module.titles, '/' ∉ title.toList) :
    module.source.Reads module.comments := by
  cases module with
  | programs constant address => exact reads_program (h _ List.mem_cons_self)
  | account module => exact reads_account h (htitles _ List.mem_cons_self)
  | instruction module => exact InstructionModule.reads_instruction h
  | errors module => exact reads_errors h fun error herror => htitles _ (List.mem_map_of_mem herror)
  | type declaration => exact reads_declaration h
  | index children namespaced => exact reads_index h

end Bindery.Package
