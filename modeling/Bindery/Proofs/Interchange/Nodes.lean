import Bindery.Interchange.Render
import Bindery.Proofs.TypeLinks.Emitted

/-! # Nodes of a document — what they name, and what they are made from

    In the JSON form of a document a node is an object with a `kind`; many have a
    `name` too.  Some of these say what a name stands for, and some refer to a name:
    a link to a type, a link to a recipe, a value that is taken from an input.  The
    named nodes of a value are read off its JSON form, wherever they are
    (`Json.namedNodes`), so that no place is forgotten in which a link may stand.

    Each form has one equation, from its own name and the named nodes of its parts
    (`ProgramNode.namedNodes_encode` and so on).  A type has links and the names of
    fields and variants only (`NodeType.mem_namedNodes_encode`).

    The nodes of a document stand in the order of what they are made from, one for
    each account, instruction and type, and one recipe for each account that has
    seeds (`ProgramNode.Lowers`).  The first program is lowered together with the
    shared types that it does not define itself, the others alone
    (`Document.of_eq_ok`).  Links keep their order, in plain camel case
    (`NodeType.links_of`). -/

namespace Bindery

/-! ## Named nodes of a JSON value -/

namespace Json

/-- The kind and the name of an object that has both. -/
def kindAndName? (members : List (String × Json)) : Option (String × String) :=
  match members.lookup "kind", members.lookup "name" with
  | some (.string kind), some (.string name) => some (kind, name)
  | _, _ => none

mutual

/-- The kinds and names of the named nodes of a value, at any depth, in order. -/
def namedNodes : Json → List (String × String)
  | .object members => (kindAndName? members).toList ++ memberNodes members
  | .array items => itemNodes items
  | .null | .bool _ | .number _ | .string _ => []

/-- The named nodes of the members of an object. -/
def memberNodes : List (String × Json) → List (String × String)
  | [] => []
  | (_, value) :: members => value.namedNodes ++ memberNodes members

/-- The named nodes of the items of an array. -/
def itemNodes : List Json → List (String × String)
  | [] => []
  | item :: items => item.namedNodes ++ itemNodes items

end

/-- Every node of one kind has a name that a node of the other kind has. -/
def Leads (json : Json) (link target : String) : Prop :=
  ∀ name, (link, name) ∈ json.namedNodes → (target, name) ∈ json.namedNodes

/-- Whether names of one kind are names of another can be computed. -/
instance decidableLeads (json : Json) (link target : String) : Decidable (json.Leads link target) :=
  decidable_of_iff
    (∀ node ∈ json.namedNodes, node.1 = link → (target, node.2) ∈ json.namedNodes)
    ⟨fun h _ hmem => h _ hmem rfl, fun h node hmem hkind => h node.2 (hkind ▸ hmem)⟩

/-- The named nodes of members are those of their values. -/
theorem memberNodes_eq_flatMap (members : List (String × Json)) :
    memberNodes members = members.flatMap fun member => member.2.namedNodes := by
  induction members with
  | nil => rfl
  | cons member members ih => rw [memberNodes, List.flatMap_cons, ih]

@[simp] theorem namedNodes_array (items : List Json) :
    (Json.array items).namedNodes = items.flatMap namedNodes := by
  show itemNodes items = _
  induction items with
  | nil => rfl
  | cons item items ih => rw [itemNodes, List.flatMap_cons, ih]

@[simp] theorem namedNodes_string (text : String) : (Json.string text).namedNodes = [] := rfl

@[simp] theorem namedNodes_bool (value : Bool) : (Json.bool value).namedNodes = [] := rfl

@[simp] theorem namedNodes_number (value : Json.Number) : (Json.number value).namedNodes = [] := rfl

@[simp] theorem namedNodes_word (value : UInt64) : (word value).namedNodes = [] := rfl

@[simp] theorem namedNodes_nat (value : Nat) : (nat value).namedNodes = [] := rfl

@[simp] theorem namedNodes_docsMember (docs : List String) :
    (docsMember docs).flatMap (fun member => member.2.namedNodes) = [] := by
  cases docs with
  | nil => rfl
  | cons doc docs =>
      rw [docsMember, List.flatMap_singleton, strings, namedNodes_array, List.flatMap_map]
      · exact List.flatMap_eq_nil_iff.mpr fun _ _ => rfl
      · nofun

@[simp] theorem namedNodes_optionalMember {α : Type} (key : String) (encode : α → Json)
    (value : Option α) :
    (optionalMember key encode value).flatMap (fun member => member.2.namedNodes)
      = value.toList.flatMap fun a => (encode a).namedNodes := by
  cases value <;> rfl

end Json

namespace Interchange

open Json (namedNodes docsMember optionalMember)

/-- A node whose first member is its name. -/
@[simp] theorem namedNodes_named (kind name : String) (members : List (String × Json)) :
    (node kind (("name", .string name) :: members)).namedNodes
      = (kind, name) :: members.flatMap fun member => member.2.namedNodes := by
  show (Json.kindAndName? _).toList ++ Json.memberNodes _ = _
  rw [Json.memberNodes_eq_flatMap]
  rfl

/-- A node without a name has the named nodes of its members. -/
theorem namedNodes_nameless {kind : String} {members : List (String × Json)}
    (h : members.lookup "name" = none) :
    (node kind members).namedNodes = members.flatMap fun member => member.2.namedNodes := by
  have hnone : Json.kindAndName? (("kind", .string kind) :: members) = none := by
    have hlookup : (("kind", Json.string kind) :: members).lookup "name" = none := h
    rw [Json.kindAndName?, hlookup]
    rfl
  show (Json.kindAndName? _).toList ++ Json.memberNodes _ = _
  rw [hnone, Json.memberNodes_eq_flatMap]
  rfl

/-! ## Types -/

/-- The kinds of the named nodes of types that are no links. -/
def memberKinds : List String :=
  ["structFieldTypeNode", "enumEmptyVariantTypeNode", "enumStructVariantTypeNode"]

@[simp] theorem namedNodes_numberNode (format : NumberFormat) :
    (numberNode format).namedNodes = [] := rfl

@[simp] theorem namedNodes_structNode (fields : List Json) :
    (structNode fields).namedNodes = fields.flatMap namedNodes := by
  rw [structNode, namedNodes_nameless (by rfl), List.flatMap_singleton, Json.namedNodes_array]

namespace NodeType

mutual

/-- The names of the links of a type, in reading order. -/
def links : NodeType → List String
  | .link name => [name]
  | .option item | .array item _ => item.links
  | .struct fields => fieldLinks fields
  | .enum variants => variantLinks variants
  | .number _ | .boolean | .publicKey | .string | .bytes | .fixedString _ | .fixedBytes _ => []

/-- The names of the links of some fields. -/
def fieldLinks : List NodeField → List String
  | [] => []
  | ⟨_, _, type⟩ :: fields => type.links ++ fieldLinks fields

/-- The names of the links of some variants. -/
def variantLinks : List NodeVariant → List String
  | [] => []
  | ⟨_, _, none⟩ :: variants => variantLinks variants
  | ⟨_, _, some fields⟩ :: variants => fieldLinks fields ++ variantLinks variants

end

variable {kind name : String}

mutual

/-- **NAMED NODES OF A TYPE**: apart from fields and variants they are its links. -/
theorem mem_namedNodes_encode (hkind : kind ∉ memberKinds) : (type : NodeType) →
    ((kind, name) ∈ type.encode.namedNodes ↔ kind = "definedTypeLinkNode" ∧ name ∈ type.links)
  | .link target => by
      simp only [encode, links, namedNodes_named, List.flatMap_nil, List.mem_singleton,
        Prod.mk.injEq]
  | .option item => by
      rw [encode, namedNodes_nameless (by rfl), links, ← mem_namedNodes_encode hkind item]
      simp
  | .array item count => by
      have hcount : (countNode count).namedNodes = [] := by cases count <;> rfl
      rw [encode, namedNodes_nameless (by rfl), links, ← mem_namedNodes_encode hkind item]
      simp [hcount]
  | .struct fields => by
      rw [encode, namedNodes_structNode, links, mem_namedNodes_encodeFields hkind fields]
  | .enum variants => by
      rw [encode, namedNodes_nameless (by rfl), links,
        ← mem_namedNodes_encodeVariants hkind variants]
      simp
  | .number _ | .boolean | .publicKey | .string | .bytes | .fixedString _ | .fixedBytes _ => by
      rw [links]
      exact ⟨fun h => absurd h List.not_mem_nil, fun h => absurd h.2 List.not_mem_nil⟩

/-- Named nodes of fields are, apart from fields and variants, the links of their types. -/
theorem mem_namedNodes_encodeFields (hkind : kind ∉ memberKinds) : (fields : List NodeField) →
    ((kind, name) ∈ (encodeFields fields).flatMap namedNodes
      ↔ kind = "definedTypeLinkNode" ∧ name ∈ fieldLinks fields)
  | [] => by simp [encodeFields, fieldLinks]
  | ⟨own, docs, type⟩ :: fields => by
      have hown : kind ≠ "structFieldTypeNode" := fun h => hkind (h ▸ by decide)
      rw [encodeFields, fieldLinks, List.flatMap_cons, List.mem_append, List.mem_append,
        mem_namedNodes_encodeFields hkind fields, and_or_left,
        ← mem_namedNodes_encode hkind type]
      simp [hown]

/-- Named nodes of variants are, apart from fields and variants, the links of their fields. -/
theorem mem_namedNodes_encodeVariants (hkind : kind ∉ memberKinds) :
    (variants : List NodeVariant) →
      ((kind, name) ∈ (encodeVariants variants).flatMap namedNodes
        ↔ kind = "definedTypeLinkNode" ∧ name ∈ variantLinks variants)
  | [] => by simp [encodeVariants, variantLinks]
  | ⟨own, discriminator, none⟩ :: variants => by
      have hown : kind ≠ "enumEmptyVariantTypeNode" := fun h => hkind (h ▸ by decide)
      rw [encodeVariants, variantLinks, List.flatMap_cons, List.mem_append,
        mem_namedNodes_encodeVariants hkind variants]
      simp [hown]
  | ⟨own, discriminator, some fields⟩ :: variants => by
      have hown : kind ≠ "enumStructVariantTypeNode" := fun h => hkind (h ▸ by decide)
      rw [encodeVariants, variantLinks, List.flatMap_cons, List.mem_append, List.mem_append,
        mem_namedNodes_encodeVariants hkind variants, and_or_left,
        ← mem_namedNodes_encodeFields hkind fields]
      simp [hown]

end

/-- The kinds of the named nodes of types. -/
def kinds : List String := "definedTypeLinkNode" :: memberKinds

/-- No node of another kind is in a type, -/
theorem not_mem_encode (hkind : kind ∉ kinds) (type : NodeType) :
    (kind, name) ∉ type.encode.namedNodes := by
  have hmember := List.not_mem_of_not_mem_cons hkind
  exact fun hmem => List.ne_of_not_mem_cons hkind ((mem_namedNodes_encode hmember type).mp hmem).1

/-- or in fields. -/
theorem not_mem_encodeFields (hkind : kind ∉ kinds) (fields : List NodeField) :
    (kind, name) ∉ (encodeFields fields).flatMap namedNodes := by
  have hmember := List.not_mem_of_not_mem_cons hkind
  exact fun hmem =>
    List.ne_of_not_mem_cons hkind ((mem_namedNodes_encodeFields hmember fields).mp hmem).1

end NodeType

/-! ## Values -/

@[simp] theorem namedNodes_literalNode (literal : Literal) :
    (literalNode literal).namedNodes = [] := by
  cases literal <;> rfl

@[simp] theorem namedNodes_discriminatorNode (tag : Discriminator) :
    (discriminatorNode tag).namedNodes = [] := by
  obtain ⟨value, offset⟩ := tag
  cases value <;> rfl

@[simp] theorem namedNodes_discriminatorsMember (tag : Option Discriminator) :
    (discriminatorsMember tag).flatMap (fun member => member.2.namedNodes) = [] := by
  rw [discriminatorsMember, Json.namedNodes_optionalMember]
  simp

/-- The named node that a link to an input is. -/
def InputLink.named : InputLink → String × String
  | .account name => ("accountValueNode", name)
  | .argument name => ("argumentValueNode", name)

@[simp] theorem InputLink.namedNodes_encode (link : InputLink) :
    link.encode.namedNodes = [link.named] := by
  cases link <;> rfl

/-- A derived value names its recipe and its seeds, each with its link. -/
theorem InputValue.namedNodes_derived (recipe : String) (seeds : List (String × InputLink)) :
    (InputValue.derived recipe seeds).encode.namedNodes
      = ("pdaLinkNode", recipe)
        :: seeds.flatMap fun (name, link) => [("pdaSeedValueNode", name), link.named] := by
  rw [encode, namedNodes_nameless (by rfl)]
  simp [List.flatMap_map]

/-- The kinds of the named nodes of values. -/
def InputValue.kinds : List String :=
  ["pdaLinkNode", "pdaSeedValueNode", "accountValueNode", "argumentValueNode"]

/-- A link to an input is a named node of a value. -/
theorem InputLink.kind_mem (link : InputLink) : link.named.1 ∈ InputValue.kinds := by
  cases link <;> simp [named, InputValue.kinds]

/-- No node of another kind is in a value. -/
theorem InputValue.not_mem_encode {kind name : String} (hkind : kind ∉ kinds) (value : InputValue) :
    (kind, name) ∉ value.encode.namedNodes := by
  have hmem : ∀ node ∈ value.encode.namedNodes, node.1 ∈ kinds := by
    cases value with
    | derived recipe seeds =>
        rw [namedNodes_derived]
        refine List.forall_mem_cons.mpr ⟨by simp [kinds], fun node hnode => ?_⟩
        obtain ⟨⟨seed, link⟩, -, hnode⟩ := List.mem_flatMap.mp hnode
        rcases List.mem_cons.mp hnode with rfl | hnode
        · simp [kinds]
        · rw [List.mem_singleton.mp hnode]
          exact link.kind_mem
    | input link =>
        rw [encode, InputLink.namedNodes_encode]
        exact List.forall_mem_singleton.mpr link.kind_mem
    | literal literal =>
        rw [encode, namedNodes_literalNode]
        exact List.forall_mem_nil _
    | some literal =>
        rw [encode, namedNodes_nameless (by rfl), List.flatMap_singleton, namedNodes_literalNode]
        exact List.forall_mem_nil _
    | none | programId => exact List.forall_mem_nil _
  exact fun h => hkind (hmem _ h)

/-! ## Nodes of a program -/

theorem AccountNode.namedNodes_encode (account : AccountNode) :
    account.encode.namedNodes = ("accountNode", account.name)
      :: (NodeType.encodeFields account.fields).flatMap namedNodes := by
  simp [encode]

/-- The named nodes of a seed: its own name, and the links in its type. -/
theorem SeedNode.namedNodes_variable (name : String) (type : NodeType) :
    (SeedNode.variable name type).encode.namedNodes
      = ("variablePdaSeedNode", name) :: type.encode.namedNodes := by
  simp [encode]

/-- Seeds name themselves and what their types name. -/
theorem SeedNode.not_mem_encode {kind name : String}
    (hkind : kind ∉ "variablePdaSeedNode" :: NodeType.kinds) (seed : SeedNode) :
    (kind, name) ∉ seed.encode.namedNodes := by
  cases seed with
  | «variable» own type =>
      rw [namedNodes_variable]
      refine List.not_mem_cons_of_ne_of_not_mem ?_
        (type.not_mem_encode (List.not_mem_of_not_mem_cons hkind))
      exact fun h => List.ne_of_not_mem_cons hkind (congrArg Prod.fst h)
  | text | bytes => exact List.not_mem_nil

/-- Accounts name themselves and what their fields name. -/
theorem AccountNode.not_mem_encode {kind name : String}
    (hkind : kind ∉ "accountNode" :: NodeType.kinds) (account : AccountNode) :
    (kind, name) ∉ account.encode.namedNodes := by
  rw [namedNodes_encode]
  refine List.not_mem_cons_of_ne_of_not_mem ?_
    (NodeType.not_mem_encodeFields (List.not_mem_of_not_mem_cons hkind) _)
  exact fun h => List.ne_of_not_mem_cons hkind (congrArg Prod.fst h)

theorem RecipeNode.namedNodes_encode (recipe : RecipeNode) :
    recipe.encode.namedNodes = ("pdaNode", recipe.name)
      :: recipe.seeds.flatMap fun seed => seed.encode.namedNodes := by
  simp [encode, List.flatMap_map]

theorem InstructionAccountNode.namedNodes_encode (account : InstructionAccountNode) :
    account.encode.namedNodes = ("instructionAccountNode", account.name)
      :: account.defaultValue.toList.flatMap fun value => value.encode.namedNodes := by
  have hoptional : (if account.isOptional then [("isOptional", Json.bool true)] else []).flatMap
      (fun member => member.2.namedNodes) = [] := by
    split <;> rfl
  simp [encode, hoptional]

theorem InstructionArgumentNode.namedNodes_encode (argument : InstructionArgumentNode) :
    argument.encode.namedNodes = ("instructionArgumentNode", argument.name)
      :: (argument.type.encode.namedNodes
        ++ argument.defaultValue.toList.flatMap fun value => value.encode.namedNodes) := by
  simp [encode]

theorem InstructionNode.namedNodes_encode (instruction : InstructionNode) :
    instruction.encode.namedNodes = ("instructionNode", instruction.name)
      :: (instruction.accounts.flatMap (fun account => account.encode.namedNodes)
        ++ instruction.arguments.flatMap fun argument => argument.encode.namedNodes) := by
  simp [encode, List.flatMap_map]

theorem DefinedTypeNode.namedNodes_encode (defined : DefinedTypeNode) :
    defined.encode.namedNodes
      = ("definedTypeNode", defined.name) :: defined.type.encode.namedNodes := by
  simp [encode]

theorem ProgramNode.namedNodes_encode (program : ProgramNode) :
    program.encode.namedNodes = ("programNode", program.name)
      :: (program.accounts.flatMap (fun account => account.encode.namedNodes)
        ++ program.instructions.flatMap (fun instruction => instruction.encode.namedNodes)
        ++ program.definedTypes.flatMap (fun defined => defined.encode.namedNodes)
        ++ program.recipes.flatMap (fun recipe => recipe.encode.namedNodes)
        ++ program.errors.map fun error => ("errorNode", Text.compactCamelCase error.name)) := by
  have herrors : (program.errors.map errorNode).flatMap namedNodes
      = program.errors.map fun error => ("errorNode", Text.compactCamelCase error.name) := by
    rw [List.flatMap_map, List.map_eq_flatMap]
    simp [errorNode]
  simp [encode, List.flatMap_map, herrors]

end Interchange

end Bindery

/-! ## Lowered programs -/

namespace Bindery.Interchange

/-! ## Links of types -/

namespace NodeType

variable {context : String}

mutual

/-- The links of a lowered type are those of the type, in camel case. -/
theorem links_of : {type : TypeNode} → {node : NodeType} → NodeType.of context type = .ok node →
    node.links = type.links.map Text.camelCase
  | .link _, _, h => by rw [← Except.ok.inj h]; rfl
  | .option item, _, h | .array item _, _, h => by
      obtain ⟨found, hfound, h⟩ := bind_eq_ok.mp h
      rw [← pure_eq_ok.mp h]
      show found.links = item.links.map Text.camelCase
      exact links_of hfound
  | .struct fields, _, h => by
      obtain ⟨found, hfound, h⟩ := bind_eq_ok.mp h
      rw [← pure_eq_ok.mp h]
      show fieldLinks found = (TypeNode.fieldLinks fields).map Text.camelCase
      exact fieldLinks_ofFields hfound
  | .enum variants, _, h => by
      obtain ⟨found, hfound, h⟩ := bind_eq_ok.mp h
      rw [← pure_eq_ok.mp h]
      show variantLinks found = (TypeNode.variantLinks variants).map Text.camelCase
      exact variantLinks_ofVariants hfound
  | .fixedSize .bytes _, _, h | .fixedSize .string _, _, h => by rw [← Except.ok.inj h]; rfl
  | .number _, _, h | .boolean, _, h | .publicKey, _, h | .string, _, h | .bytes, _, h => by
      rw [← Except.ok.inj h]; rfl

/-- The links of lowered fields are those of the fields, in camel case. -/
theorem fieldLinks_ofFields : {fields : List StructField} → {found : List NodeField} →
    ofFields context fields = .ok found →
      fieldLinks found = (TypeNode.fieldLinks fields).map Text.camelCase
  | [], _, h => by rw [← Except.ok.inj h]; rfl
  | ⟨_, type, _⟩ :: fields, _, h => by
      obtain ⟨first, hfirst, h⟩ := bind_eq_ok.mp h
      obtain ⟨rest, hrest, h⟩ := bind_eq_ok.mp h
      rw [← pure_eq_ok.mp h, fieldLinks, TypeNode.fieldLinks, List.map_append, links_of hfirst,
        fieldLinks_ofFields hrest]

/-- The links of lowered variants are those of the variants, in camel case. -/
theorem variantLinks_ofVariants : {variants : List EnumVariant} → {found : List NodeVariant} →
    ofVariants context variants = .ok found →
      variantLinks found = (TypeNode.variantLinks variants).map Text.camelCase
  | [], _, h => by rw [← Except.ok.inj h]; rfl
  | ⟨_, _, none⟩ :: variants, _, h => by
      obtain ⟨rest, hrest, h⟩ := bind_eq_ok.mp h
      rw [← pure_eq_ok.mp h, variantLinks, TypeNode.variantLinks, variantLinks_ofVariants hrest]
  | ⟨_, _, some fields⟩ :: variants, _, h => by
      obtain ⟨first, hfirst, h⟩ := bind_eq_ok.mp h
      obtain ⟨rest, hrest, h⟩ := bind_eq_ok.mp h
      rw [← pure_eq_ok.mp h, variantLinks, TypeNode.variantLinks, List.map_append,
        fieldLinks_ofFields hfirst, variantLinks_ofVariants hrest]

end

/-- The links of some fields are those of their types, in order. -/
theorem fieldLinks_eq_flatMap :
    ∀ fields : List NodeField, fieldLinks fields = fields.flatMap (·.type.links)
  | [] => rfl
  | ⟨_, _, type⟩ :: fields => by
      rw [fieldLinks, List.flatMap_cons, fieldLinks_eq_flatMap fields]

end NodeType

/-! ## Nodes of a program -/

/-- A node is made from a program, with the types shared with it behind its own. -/
structure ProgramNode.Lowers (node : ProgramNode) (program : Program) (shared : List DefinedType) :
    Prop where
  accounts : List.Forall₂ (AccountNode.of · = .ok ·) program.accounts node.accounts
  recipes : ∃ found, List.Forall₂ (RecipeNode.of · = .ok ·) program.accounts found
    ∧ node.recipes = found.flatMap Option.toList
  instructions : List.Forall₂ (InstructionNode.of · = .ok ·) program.instructions node.instructions
  definedTypes : List.Forall₂ (DefinedTypeNode.of · = .ok ·) (program.definedTypes ++ shared)
    node.definedTypes

/-- The node of a program is made from the program alone. -/
theorem ProgramNode.lowers_of {program : Program} {node : ProgramNode}
    (h : ProgramNode.of program = .ok node) : node.Lowers program [] := by
  obtain ⟨pairs, hpairs, h⟩ := bind_eq_ok.mp h
  obtain ⟨instructions, hinstructions, h⟩ := bind_eq_ok.mp h
  obtain ⟨types, htypes, h⟩ := bind_eq_ok.mp h
  rw [← pure_eq_ok.mp h]
  have hboth : List.Forall₂ (fun account pair =>
      AccountNode.of account = .ok pair.1 ∧ RecipeNode.of account = .ok pair.2)
      program.accounts pairs := by
    refine (forall₂_of_mapM_eq_ok hpairs).imp fun account pair hpair => ?_
    obtain ⟨made, hmade, hpair⟩ := bind_eq_ok.mp hpair
    obtain ⟨recipe, hrecipe, hpair⟩ := bind_eq_ok.mp hpair
    rw [← pure_eq_ok.mp hpair]
    exact ⟨hmade, hrecipe⟩
  constructor
  · exact List.forall₂_map_right_iff.mpr (hboth.imp fun _ _ => And.left)
  · refine ⟨pairs.map (·.2), List.forall₂_map_right_iff.mpr (hboth.imp fun _ _ => And.right), ?_⟩
    rw [List.flatMap_map]
    exact List.filterMap_eq_flatMap_toList ..
  · exact forall₂_of_mapM_eq_ok hinstructions
  · rw [List.append_nil]
    exact forall₂_of_mapM_eq_ok htypes

/-- **PROGRAM BY PROGRAM**: the first program of a tree becomes the program of the document, with
    the shared types that it does not define; the others become the others, without any. -/
theorem Document.of_eq_ok {tree : Tree} {document : Document}
    (h : Document.of tree = .ok document) :
    ∃ primary others, tree.programs = primary :: others
      ∧ document.program.Lowers primary (tree.sharedTypes.filter fun t => !primary.defines t.name)
      ∧ List.Forall₂ (fun program node => node.Lowers program []) others document.additional := by
  unfold Document.of at h
  split at h
  · exact nomatch h
  · next primary others hprograms =>
      obtain ⟨program, hprogram, h⟩ := bind_eq_ok.mp h
      obtain ⟨shared, hshared, h⟩ := bind_eq_ok.mp h
      obtain ⟨additional, hadditional, h⟩ := bind_eq_ok.mp h
      rw [← pure_eq_ok.mp h]
      have hlowers := ProgramNode.lowers_of hprogram
      refine ⟨primary, others, hprograms, ⟨hlowers.accounts, hlowers.recipes,
        hlowers.instructions, ?_⟩, ?_⟩
      · have hown := hlowers.definedTypes
        rw [List.append_nil] at hown
        exact List.rel_append hown (forall₂_of_mapM_eq_ok hshared)
      · exact (forall₂_of_mapM_eq_ok hadditional).imp fun _ _ => ProgramNode.lowers_of

end Bindery.Interchange
