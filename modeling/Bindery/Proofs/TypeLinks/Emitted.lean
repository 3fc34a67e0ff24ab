import Bindery.Crate.Module
import Bindery.Package.Module
import Bindery.Proofs.Except
import Bindery.Proofs.Links
import Bindery.Proofs.Rename.Simultaneous

/-! # Emitted links — which links a module has

    A link of a node becomes a link of generated source in the scope that the node
    is rendered in.  A module of the crate has links in the types of its
    declarations, a module of the package in types and in codecs, and both have
    the links of the node they are built from and no others
    (`Crate.AccountModule.links_of`, `Package.AccountModule.mem_links` and so on
    for each kind of node). -/

namespace Bindery

variable {α β γ : Type}

/-- Lists whose items have the same one by one have the same. -/
theorem flatMap_eq_of_forall₂ {f : α → List γ} {g : β → List γ} {as : List α} {bs : List β}
    (h : List.Forall₂ (fun a b => f a = g b) as bs) : as.flatMap f = bs.flatMap g := by
  rw [List.flatMap_def, List.flatMap_def, map_eq_map_iff_forall₂.mpr h]

/-- Lists that are related item by item, each item having what its partner has, have the same. -/
theorem mem_flatMap_of_forall₂ {f : α → List γ} {g : β → List γ} {as : List α} {bs : List β}
    (h : List.Forall₂ (fun a b => ∀ x, x ∈ f a ↔ x ∈ g b) as bs) (x : γ) :
    x ∈ as.flatMap f ↔ x ∈ bs.flatMap g := by
  induction h with
  | nil => exact .rfl
  | cons hab _ ih => rw [List.flatMap_cons, List.flatMap_cons, List.mem_append, List.mem_append,
      hab x, ih]

/-! ## Links of nodes -/

/-- The links of an account: those of its fields, and those in the types of its seeds. -/
def Account.links (account : Account) : List String :=
  TypeNode.fieldLinks account.fields ++ account.seedInputs.flatMap (·.type.links)

/-- The links in the type of a seed, if it is a variable one. -/
def Seed.links : Seed → List String
  | .variable input => input.type.links
  | .constant _ => []

/-- The links in the types of an account's seeds are those of the seeds of its recipe. -/
theorem Account.links_seedInputs (account : Account) :
    account.seedInputs.flatMap (·.type.links) = (account.seeds.getD []).flatMap Seed.links := by
  rw [Account.seedInputs, List.filterMap_eq_flatMap_toList, List.flatMap_assoc]
  refine List.flatMap_congr fun seed _ => ?_
  cases seed with
  | constant value => rfl
  | «variable» input => exact List.flatMap_singleton _ _

/-- The links of an instruction: those of its arguments. -/
def Instruction.links (instruction : Instruction) : List String :=
  instruction.arguments.flatMap (·.type.links)

/-! ## Links of the crate -/

/-- The links of a type of the crate. -/
def CrateType.links : CrateType → List Crate.TypePath
  | .link path => [path]
  | .option item | .array item _ | .list item => item.links
  | .number _ | .boolean | .address | .string | .bytes | .byteArray _ => []

/-- The links of a module of the crate. -/
def Crate.Module.links (module : Crate.Module) : List Crate.TypePath :=
  module.types.flatMap CrateType.links

/-- The links of a type are those of the node it is made from. -/
theorem CrateType.links_of {scope : Crate.Scope} {context : String} : ∀ {type : TypeNode}
    {found : CrateType}, CrateType.of scope context type = .ok found →
      found.links = type.links.map scope.link
  | .link _, _, h => by rw [← Except.ok.inj h]; rfl
  | .option item, _, h | .array item none, _, h | .array item (some _), _, h => by
      obtain ⟨inner, hinner, h⟩ := bind_eq_ok.mp h
      rw [← pure_eq_ok.mp h]
      show inner.links = item.links.map scope.link
      exact links_of hinner
  | .fixedSize .bytes _, _, h | .fixedSize .string _, _, h => by rw [← Except.ok.inj h]; rfl
  | .number _, _, h | .boolean, _, h | .publicKey, _, h | .string, _, h | .bytes, _, h => by
      rw [← Except.ok.inj h]; rfl

namespace Crate

variable {scope : Scope} {context : String}

/-- The links of fields are those of the fields they are made from. -/
theorem links_fieldsOf {fields : List StructField} {found : List Field}
    (h : fieldsOf scope context fields = .ok found) :
    found.flatMap (·.type.links) = (TypeNode.fieldLinks fields).map scope.link := by
  rw [TypeNode.fieldLinks_eq_flatMap, List.map_flatMap]
  refine (flatMap_eq_of_forall₂ ((forall₂_of_mapM_eq_ok h).imp fun field made hmade => ?_)).symm
  obtain ⟨type, htype, hmade⟩ := bind_eq_ok.mp hmade
  rw [← pure_eq_ok.mp hmade]
  exact (CrateType.links_of htype).symm

/-- The links of an account are those of its fields: no parameter of a seed is a declared type. -/
theorem AccountModule.links_of {account : Account} {module : AccountModule}
    (h : AccountModule.of scope account = .ok module) :
    (Module.account module).links = (TypeNode.fieldLinks account.fields).map scope.link := by
  obtain ⟨fields, hfields, h⟩ := bind_eq_ok.mp h
  obtain ⟨seeds, -, h⟩ := bind_eq_ok.mp h
  rw [← pure_eq_ok.mp h]
  show (fields.map (·.type)).flatMap CrateType.links = _
  rw [List.flatMap_map]
  exact links_fieldsOf hfields

/-- The links of an instruction are those of its arguments. -/
theorem InstructionModule.links_of {nested : Bool} {program : Program} {instruction : Instruction}
    {module : InstructionModule}
    (h : InstructionModule.of nested program instruction = .ok module) :
    (Module.instruction module).links
      = instruction.links.map (Scope.mk nested (some program)).link := by
  obtain ⟨types, htypes, h⟩ := bind_eq_ok.mp h
  obtain ⟨bindings, -, h⟩ := bind_eq_ok.mp h
  rw [← pure_eq_ok.mp h, Instruction.links, List.map_flatMap]
  refine (flatMap_eq_of_forall₂
    ((forall₂_of_mapM_eq_ok htypes).imp fun argument type htype => ?_)).symm
  exact (CrateType.links_of htype).symm

/-- The types of what a variant carries. -/
def VariantBody.types : VariantBody → List CrateType
  | .data fields => fields.map (·.type)
  | .unit | .discriminant _ => []

/-- The links of what a variant carries are those of its fields. -/
theorem VariantBody.links_of {explicit : Bool} {position : Nat} {variant : EnumVariant}
    {body : VariantBody} (h : VariantBody.of scope context explicit position variant = .ok body) :
    body.types.flatMap CrateType.links
      = (TypeNode.fieldLinks (variant.fields.getD [])).map scope.link := by
  unfold VariantBody.of at h
  cases hfields : variant.fields with
  | some fields =>
      rw [hfields] at h
      obtain ⟨made, hmade, h⟩ := bind_eq_ok.mp h
      rw [← pure_eq_ok.mp h]
      show (made.map (·.type)).flatMap CrateType.links = _
      rw [List.flatMap_map]
      exact links_fieldsOf hmade
  | none =>
      rw [hfields] at h
      simp only at h
      split at h
      · rw [← (ite_eq_ok.mp h).2]
        rfl
      · rw [← Except.ok.inj h]
        rfl

/-- The links of a shape are those of the type it is made from. -/
theorem Shape.links_of {type : TypeNode} {shape : Shape}
    (h : Shape.of scope context type = .ok shape) :
    shape.types.flatMap CrateType.links = type.links.map scope.link := by
  cases type with
  | struct fields =>
      obtain ⟨made, hmade, h⟩ := bind_eq_ok.mp h
      rw [← pure_eq_ok.mp h]
      show (made.map (·.type)).flatMap CrateType.links = _
      rw [List.flatMap_map]
      exact links_fieldsOf hmade
  | enum variants =>
      obtain ⟨-, h⟩ := unless_eq_ok.mp h
      obtain ⟨bodies, hbodies, h⟩ := bind_eq_ok.mp h
      rw [← pure_eq_ok.mp h]
      have hvariants : variants = variants.zipIdx.map (·.1) := (List.zipIdx_map_fst 0 variants).symm
      show (bodies.flatMap (·.body.types)).flatMap CrateType.links
        = (TypeNode.variantLinks variants).map scope.link
      rw [List.flatMap_assoc, TypeNode.variantLinks_eq_flatMap, List.map_flatMap, hvariants,
        List.flatMap_map]
      refine (flatMap_eq_of_forall₂ ((forall₂_of_mapM_eq_ok hbodies).imp ?_)).symm
      rintro ⟨variant, position⟩ made hmade
      obtain ⟨body, hbody, hmade⟩ := bind_eq_ok.mp hmade
      rw [← pure_eq_ok.mp hmade]
      exact (VariantBody.links_of hbody).symm
  | _ =>
      obtain ⟨found, hfound, h⟩ := bind_eq_ok.mp h
      rw [← pure_eq_ok.mp h]
      show [found].flatMap CrateType.links = _
      rw [List.flatMap_singleton]
      exact CrateType.links_of hfound

/-- The links of a declaration are those of the type that is defined. -/
theorem Declaration.links_of {defined : DefinedType} {declaration : Declaration}
    (h : Declaration.of scope defined = .ok declaration) :
    (Module.type declaration).links = defined.type.links.map scope.link := by
  obtain ⟨shape, hshape, h⟩ := bind_eq_ok.mp h
  rw [← pure_eq_ok.mp h]
  exact Shape.links_of hshape

end Crate

/-! ## Links of the package -/

/-- The links of a type of the package. -/
def PackageType.links : PackageType → List Package.TypeLink
  | .link target => [target]
  | .option item | .array item => item.links
  | .bigint | .number | .boolean | .address | .string | .bytes => []

/-- The links of a codec. -/
def Codec.links : Codec → List Package.TypeLink
  | .link target => [target]
  | .option item | .array item _ => item.links
  | .number _ | .boolean | .address | .string | .bytes | .fixedString _ | .fixedBytes _ => []

/-- The links of a type are those of the node it is made from. -/
theorem PackageType.links_of {scope : Package.Scope} {context : String} : ∀ {type : TypeNode}
    {found : PackageType}, PackageType.of scope context type = .ok found →
      found.links = type.links.map scope.link
  | .link _, _, h => by rw [← Except.ok.inj h]; rfl
  | .option item, _, h | .array item _, _, h => by
      obtain ⟨inner, hinner, h⟩ := bind_eq_ok.mp h
      rw [← pure_eq_ok.mp h]
      show inner.links = item.links.map scope.link
      exact links_of hinner
  | .number format, _, h => by
      rw [← Except.ok.inj h]
      cases format.isWide <;> rfl
  | .fixedSize .bytes _, _, h | .fixedSize .string _, _, h => by rw [← Except.ok.inj h]; rfl
  | .boolean, _, h | .publicKey, _, h | .string, _, h | .bytes, _, h => by
      rw [← Except.ok.inj h]; rfl

/-- The links of a codec are those of the node it is made from. -/
theorem Codec.links_of {scope : Package.Scope} {context : String} : ∀ {type : TypeNode}
    {found : Codec}, Codec.of scope context type = .ok found →
      found.links = type.links.map scope.link
  | .link _, _, h => by rw [← Except.ok.inj h]; rfl
  | .option item, _, h | .array item _, _, h => by
      obtain ⟨inner, hinner, h⟩ := bind_eq_ok.mp h
      rw [← pure_eq_ok.mp h]
      show inner.links = item.links.map scope.link
      exact links_of hinner
  | .fixedSize .bytes _, _, h | .fixedSize .string _, _, h => by rw [← Except.ok.inj h]; rfl
  | .number _, _, h | .boolean, _, h | .publicKey, _, h | .string, _, h | .bytes, _, h => by
      rw [← Except.ok.inj h]; rfl

namespace Package

/-- The links of a member: those of its type, and those of its codec. -/
def Field.links (field : Field) : List TypeLink := field.type.links ++ field.codec.links

/-- The links of a shape. -/
def Shape.links : Shape → List TypeLink
  | .struct fields => fields.flatMap Field.links
  | .enum _ => []
  | .union variants => variants.flatMap fun v => (v.fields.getD []).flatMap Field.links
  | .alias type codec => type.links ++ codec.links

/-- The links of an encoding. -/
def SeedEncoding.links : SeedEncoding → List TypeLink
  | .raw | .utf8 => []
  | .codec inner => inner.links

/-- The links of a seed. -/
def SeedPart.links : SeedPart → List TypeLink
  | .parameter _ type encoding => type.links ++ encoding.links
  | .text _ | .bytes _ | .programId => []

/-- The links of a module of the package. -/
def Module.links : Module → List TypeLink
  | .account module =>
    module.fields.flatMap Field.links ++ (module.seeds.getD []).flatMap SeedPart.links
  | .instruction module => module.fields.flatMap Field.links
  | .type declaration => declaration.shape.links
  | .programs _ _ | .errors _ | .index _ _ => []

variable {scope : Scope} {context typeContext codecContext : String} {link : TypeLink}

/-- The links of a member are those of the type it is made for. -/
theorem Field.mem_links {docs : List String} {name : String} {type : TypeNode} {field : Field}
    (h : Field.of scope typeContext codecContext docs name type = .ok field) :
    link ∈ field.links ↔ link ∈ type.links.map scope.link := by
  obtain ⟨found, hfound, h⟩ := bind_eq_ok.mp h
  obtain ⟨codec, hcodec, h⟩ := bind_eq_ok.mp h
  rw [← pure_eq_ok.mp h, Field.links, PackageType.links_of hfound, Codec.links_of hcodec,
    List.mem_append, or_self]

/-- The links of members are those of the fields they are made for. -/
theorem mem_links_fieldsOf {fields : List StructField} {found : List Field}
    (h : fieldsOf scope typeContext codecContext fields = .ok found) :
    link ∈ found.flatMap Field.links ↔ link ∈ (TypeNode.fieldLinks fields).map scope.link := by
  rw [TypeNode.fieldLinks_eq_flatMap, List.map_flatMap]
  refine (mem_flatMap_of_forall₂
    ((forall₂_of_mapM_eq_ok h).imp fun field made hmade => ?_) link).symm
  exact fun _ => (Field.mem_links hmade).symm

/-- The links of an encoding are links of the type that is encoded. -/
theorem SeedEncoding.links_subset {type : TypeNode} {encoding : SeedEncoding}
    (h : SeedEncoding.of scope context type = .ok encoding) :
    encoding.links ⊆ type.links.map scope.link := by
  unfold SeedEncoding.of at h
  split at h
  case h_4 =>
    obtain ⟨codec, hcodec, h⟩ := bind_eq_ok.mp h
    rw [← pure_eq_ok.mp h, ← Codec.links_of hcodec]
    exact fun _ hmem => hmem
  all_goals
    rw [← Except.ok.inj h]
    exact fun _ hmem => nomatch hmem

/-- The links of a seed are those in the type of its parameter. -/
theorem SeedPart.mem_links : ∀ {seed : Seed} {part : SeedPart},
    SeedPart.of scope context seed = .ok part →
      (link ∈ part.links ↔ link ∈ seed.links.map scope.link)
  | .constant (.utf8 _), _, h | .constant (.bytes _), _, h | .constant .programId, _, h => by
      rw [← Except.ok.inj h]
      exact .rfl
  | .variable seed, _, h => by
      obtain ⟨type, htype, h⟩ := bind_eq_ok.mp h
      obtain ⟨encoding, hencoding, h⟩ := bind_eq_ok.mp h
      rw [← pure_eq_ok.mp h, SeedPart.links, PackageType.links_of htype, List.mem_append,
        Seed.links]
      exact or_iff_left_of_imp fun hmem => SeedEncoding.links_subset hencoding hmem

/-- The links of an account are those of its fields and of its seeds. -/
theorem AccountModule.mem_links {nested : Bool} {program : Program} {account : Account}
    {module : AccountModule} (h : AccountModule.of nested program account = .ok module) :
    link ∈ (Module.account module).links
      ↔ link ∈ account.links.map (Scope.mk nested (some program)).link := by
  obtain ⟨fields, hfields, h⟩ := bind_eq_ok.mp h
  obtain ⟨seeds, hseeds, h⟩ := bind_eq_ok.mp h
  rw [← pure_eq_ok.mp h, Account.links, Account.links_seedInputs]
  rw [Module.links, List.map_append, List.mem_append, List.mem_append, mem_links_fieldsOf hfields]
  refine or_congr_right ?_
  cases hrecipe : account.seeds with
  | none =>
      rw [hrecipe] at hseeds
      rw [← pure_eq_ok.mp hseeds]
      exact .rfl
  | some recipe =>
      rw [hrecipe] at hseeds
      obtain ⟨parts, hparts, hseeds⟩ := bind_eq_ok.mp hseeds
      rw [← pure_eq_ok.mp hseeds, List.map_flatMap]
      exact (mem_flatMap_of_forall₂ ((forall₂_of_mapM_eq_ok hparts).imp
        fun seed part hpart _ => (SeedPart.mem_links hpart).symm) link).symm

/-- The links of an instruction are those of its arguments. -/
theorem InstructionModule.mem_links {nested : Bool} {program : Program}
    {instruction : Instruction} {module : InstructionModule}
    (h : InstructionModule.of nested program instruction = .ok module) :
    link ∈ (Module.instruction module).links
      ↔ link ∈ instruction.links.map (Scope.mk nested (some program)).link := by
  obtain ⟨fields, hfields, h⟩ := bind_eq_ok.mp h
  obtain ⟨bindings, -, h⟩ := bind_eq_ok.mp h
  rw [← pure_eq_ok.mp h, Instruction.links, List.map_flatMap]
  refine (mem_flatMap_of_forall₂ ((forall₂_of_mapM_eq_ok hfields).imp
    fun argument made hmade => ?_) link).symm
  exact fun _ => (Field.mem_links hmade).symm

/-- The links of a variant are those of its fields. -/
theorem Variant.mem_links {variant : EnumVariant} {built : Variant}
    (h : (do
      let fields ← variant.fields.mapM fun fields =>
        fieldsOf scope typeContext codecContext fields
      return Variant.mk (Text.upperCamelCase variant.name) fields) = .ok built) :
    link ∈ (built.fields.getD []).flatMap Field.links
      ↔ link ∈ (TypeNode.fieldLinks (variant.fields.getD [])).map scope.link := by
  obtain ⟨found, hfound, h⟩ := bind_eq_ok.mp h
  rw [← pure_eq_ok.mp h]
  cases hfields : variant.fields with
  | none =>
      rw [hfields] at hfound
      rw [← pure_eq_ok.mp hfound]
      exact .rfl
  | some fields =>
      rw [hfields] at hfound
      obtain ⟨made, hmade, hfound⟩ := bind_eq_ok.mp hfound
      rw [← pure_eq_ok.mp hfound]
      exact mem_links_fieldsOf hmade

/-- The links of a shape are those of the type it is made from. -/
theorem Shape.mem_links {type : TypeNode} {shape : Shape}
    (h : Shape.of scope context type = .ok shape) :
    link ∈ shape.links ↔ link ∈ type.links.map scope.link := by
  cases type with
  | struct fields =>
      obtain ⟨made, hmade, h⟩ := bind_eq_ok.mp h
      rw [← pure_eq_ok.mp h]
      exact mem_links_fieldsOf hmade
  | enum variants =>
      change Shape.ofVariants scope context variants = .ok shape at h
      unfold ofVariants at h
      split at h
      · next hplain =>
          rw [← pure_eq_ok.mp h]
          have hnone : TypeNode.variantLinks variants = [] := by
            rw [TypeNode.variantLinks_eq_flatMap, List.flatMap_eq_nil_iff]
            intro variant hmem
            rw [Option.isNone_iff_eq_none.mp (List.all_eq_true.mp hplain variant hmem)]
            rfl
          show _ ↔ link ∈ (TypeNode.variantLinks variants).map scope.link
          rw [hnone]
          exact .rfl
      · have h := (unless_eq_ok.mp h).2
        obtain ⟨made, hmade, h⟩ := bind_eq_ok.mp h
        rw [← pure_eq_ok.mp h]
        show _ ↔ link ∈ (TypeNode.variantLinks variants).map scope.link
        rw [TypeNode.variantLinks_eq_flatMap, List.map_flatMap]
        refine (mem_flatMap_of_forall₂ ((forall₂_of_mapM_eq_ok hmade).imp
          fun variant built hbuilt _ => ?_) link).symm
        exact (Variant.mem_links hbuilt).symm
  | _ =>
      obtain ⟨found, hfound, h⟩ := bind_eq_ok.mp h
      obtain ⟨codec, hcodec, h⟩ := bind_eq_ok.mp h
      rw [← pure_eq_ok.mp h, Shape.links, PackageType.links_of hfound, Codec.links_of hcodec,
        List.mem_append, or_self]

/-- The links of a declaration are those of the type that is defined. -/
theorem Declaration.mem_links {defined : DefinedType} {declaration : Declaration}
    (h : Declaration.of scope defined = .ok declaration) :
    link ∈ (Module.type declaration).links ↔ link ∈ defined.type.links.map scope.link := by
  obtain ⟨shape, hshape, h⟩ := bind_eq_ok.mp h
  rw [← pure_eq_ok.mp h]
  exact Shape.mem_links hshape

end Package

end Bindery
