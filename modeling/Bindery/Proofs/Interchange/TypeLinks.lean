import Bindery.Proofs.Interchange.Nodes
import Bindery.Proofs.TypeLinks.Denoted

/-! # Links of a document — where links to types lead

    A link to a type in a program node names a type of that node.  Links and types
    are cased alike, so links of a program to its own types always lead
    (`ProgramNode.Lowers.leads_iff`).  Shared types are in the node of the first
    program only: there all links lead, also those of the shared types.  In the
    node of another program a link to a shared type leads only where a type of that
    program happens to be cased like it (`Document.typeLinks_lead`); one that does
    not dangles (`exists_dangling_typeLink`). -/

namespace Bindery

namespace Interchange

/-! ## Links of a node -/

section Node

variable {name : String}

/-- The links to types among the named nodes of a type are its links. -/
theorem NodeType.mem_links_iff (type : NodeType) :
    ("definedTypeLinkNode", name) ∈ type.encode.namedNodes ↔ name ∈ type.links := by
  rw [mem_namedNodes_encode (by decide), and_iff_right rfl]

/-- An account has the links of its fields. -/
theorem AccountNode.mem_links_iff (account : AccountNode) :
    ("definedTypeLinkNode", name) ∈ account.encode.namedNodes
      ↔ name ∈ NodeType.fieldLinks account.fields := by
  rw [namedNodes_encode, List.mem_cons, NodeType.mem_namedNodes_encodeFields (by decide),
    and_iff_right rfl]
  simp

/-- An instruction has the links of its arguments. -/
theorem InstructionNode.mem_links_iff (instruction : InstructionNode) :
    ("definedTypeLinkNode", name) ∈ instruction.encode.namedNodes
      ↔ name ∈ instruction.arguments.flatMap (·.type.links) := by
  have hvalue : ∀ value : InputValue, ("definedTypeLinkNode", name) ∉ value.encode.namedNodes :=
    fun value => value.not_mem_encode (by decide)
  simp only [namedNodes_encode, InstructionAccountNode.namedNodes_encode,
    InstructionArgumentNode.namedNodes_encode, List.mem_cons, List.mem_append, List.mem_flatMap,
    NodeType.mem_links_iff, hvalue]
  simp

/-- A defined type has the links of its type. -/
theorem DefinedTypeNode.mem_links_iff (defined : DefinedTypeNode) :
    ("definedTypeLinkNode", name) ∈ defined.encode.namedNodes ↔ name ∈ defined.type.links := by
  rw [namedNodes_encode, List.mem_cons, NodeType.mem_links_iff]
  simp

/-- The links in the type of a seed, if it is a variable one. -/
def SeedNode.links : SeedNode → List String
  | .variable _ type => type.links
  | .text _ | .bytes _ => []

/-- A recipe has the links of its seeds. -/
theorem RecipeNode.mem_links_iff (recipe : RecipeNode) :
    ("definedTypeLinkNode", name) ∈ recipe.encode.namedNodes
      ↔ name ∈ recipe.seeds.flatMap SeedNode.links := by
  have hseed : ∀ seed : SeedNode,
      ("definedTypeLinkNode", name) ∈ seed.encode.namedNodes ↔ name ∈ seed.links := by
    intro seed
    cases seed with
    | «variable» own type =>
        rw [SeedNode.namedNodes_variable, List.mem_cons, NodeType.mem_links_iff]
        simp [SeedNode.links]
    | text | bytes => exact ⟨fun h => absurd h List.not_mem_nil, fun h => absurd h List.not_mem_nil⟩
  simp only [namedNodes_encode, List.mem_cons, List.mem_flatMap, hseed]
  simp

/-- The names of the links to types of a node: in accounts, arguments, types and seeds. -/
def ProgramNode.typeLinks (node : ProgramNode) : List String :=
  node.accounts.flatMap (NodeType.fieldLinks ·.fields)
    ++ node.instructions.flatMap (·.arguments.flatMap (·.type.links))
    ++ node.definedTypes.flatMap (·.type.links)
    ++ node.recipes.flatMap (·.seeds.flatMap SeedNode.links)

/-- **LINKS AT ANY DEPTH**: these are all links to types in the form of a node. -/
theorem ProgramNode.mem_typeLinks_iff (node : ProgramNode) :
    ("definedTypeLinkNode", name) ∈ node.encode.namedNodes ↔ name ∈ node.typeLinks := by
  simp only [namedNodes_encode, typeLinks, List.mem_cons, List.mem_append, List.mem_flatMap,
    List.mem_map, AccountNode.mem_links_iff, InstructionNode.mem_links_iff,
    DefinedTypeNode.mem_links_iff, RecipeNode.mem_links_iff]
  simp

/-- The defined types among the named nodes of a node are its types. -/
theorem ProgramNode.mem_definedTypes_iff (node : ProgramNode) :
    ("definedTypeNode", name) ∈ node.encode.namedNodes ↔ name ∈ node.definedTypes.map (·.name) := by
  have htype : ∀ type : NodeType, ("definedTypeNode", name) ∉ type.encode.namedNodes :=
    NodeType.not_mem_encode (by decide)
  have haccount : ∀ account : AccountNode, ("definedTypeNode", name) ∉ account.encode.namedNodes :=
    AccountNode.not_mem_encode (by decide)
  have hvalue : ∀ value : InputValue, ("definedTypeNode", name) ∉ value.encode.namedNodes :=
    InputValue.not_mem_encode (by decide)
  have hseed : ∀ seed : SeedNode, ("definedTypeNode", name) ∉ seed.encode.namedNodes :=
    SeedNode.not_mem_encode (by decide)
  simp only [namedNodes_encode, InstructionNode.namedNodes_encode,
    InstructionAccountNode.namedNodes_encode, InstructionArgumentNode.namedNodes_encode,
    DefinedTypeNode.namedNodes_encode, RecipeNode.namedNodes_encode, List.mem_cons,
    List.mem_append, List.mem_flatMap, List.mem_map, htype, haccount, hvalue, hseed]
  simp [eq_comm]

end Node

/-! ## Links of a program -/

section Lowered

variable {program : Program} {shared : List DefinedType} {node : ProgramNode}

/-- The links of an account node are those of the fields. -/
theorem AccountNode.links_of {account : Account} {made : AccountNode}
    (h : AccountNode.of account = .ok made) :
    NodeType.fieldLinks made.fields
      = (account.fields.flatMap (·.type.links)).map Text.camelCase := by
  obtain ⟨fields, hfields, h⟩ := bind_eq_ok.mp h
  rw [← pure_eq_ok.mp h, NodeType.fieldLinks_eq_flatMap, List.map_flatMap]
  refine (flatMap_eq_of_forall₂
    ((forall₂_of_mapM_eq_ok hfields).imp fun field made hmade => ?_)).symm
  obtain ⟨type, htype, hmade⟩ := bind_eq_ok.mp hmade
  rw [← pure_eq_ok.mp hmade]
  exact (NodeType.links_of htype).symm

/-- The links of an instruction node are those of the arguments. -/
theorem InstructionNode.links_of {instruction : Instruction} {made : InstructionNode}
    (h : InstructionNode.of instruction = .ok made) :
    made.arguments.flatMap (·.type.links)
      = (instruction.arguments.flatMap (·.type.links)).map Text.camelCase := by
  obtain ⟨accounts, -, h⟩ := bind_eq_ok.mp h
  obtain ⟨arguments, harguments, h⟩ := bind_eq_ok.mp h
  rw [← pure_eq_ok.mp h, List.map_flatMap]
  refine (flatMap_eq_of_forall₂
    ((forall₂_of_mapM_eq_ok harguments).imp fun argument made hmade => ?_)).symm
  obtain ⟨type, htype, hmade⟩ := bind_eq_ok.mp hmade
  obtain ⟨value, -, hmade⟩ := bind_eq_ok.mp hmade
  rw [← pure_eq_ok.mp hmade]
  exact (NodeType.links_of htype).symm

/-- The links of the node of a defined type are those of the type. -/
theorem DefinedTypeNode.links_of {defined : DefinedType} {made : DefinedTypeNode}
    (h : DefinedTypeNode.of defined = .ok made) :
    made.type.links = defined.type.links.map Text.camelCase := by
  obtain ⟨type, htype, h⟩ := bind_eq_ok.mp h
  rw [← pure_eq_ok.mp h]
  exact NodeType.links_of htype

/-- The links of a recipe are those of the seeds of its account. -/
theorem RecipeNode.links_of {account : Account} {recipe : Option RecipeNode}
    (h : RecipeNode.of account = .ok recipe) :
    recipe.toList.flatMap (·.seeds.flatMap SeedNode.links)
      = (account.seedInputs.flatMap (·.type.links)).map Text.camelCase := by
  rw [account.links_seedInputs]
  unfold RecipeNode.of at h
  cases hseeds : account.seeds with
  | none =>
      rw [hseeds] at h
      rw [← Except.ok.inj h]
      rfl
  | some seeds =>
      rw [hseeds] at h
      obtain ⟨made, hmade, h⟩ := bind_eq_ok.mp h
      obtain ⟨found, hfound, hmade⟩ := bind_eq_ok.mp hmade
      rw [← pure_eq_ok.mp h, ← pure_eq_ok.mp hmade, Option.toList_some, List.flatMap_singleton,
        Option.getD_some, List.map_flatMap]
      refine (flatMap_eq_of_forall₂
        ((forall₂_of_mapM_eq_ok hfound).imp fun seed made hmade => ?_)).symm
      cases seed with
      | constant value =>
          cases value with
          | utf8 | bytes => rw [← Except.ok.inj hmade]; rfl
          | programId => exact nomatch hmade
      | «variable» input =>
          obtain ⟨type, htype, hmade⟩ := bind_eq_ok.mp hmade
          rw [← pure_eq_ok.mp hmade]
          exact (NodeType.links_of htype).symm

/-- The links of the node of a program are those of the program and of the types shared with it,
    in camel case. -/
theorem ProgramNode.Lowers.typeLinks (h : node.Lowers program shared) :
    node.typeLinks = (program.links ++ shared.flatMap (·.type.links) ++ program.seedLinks).map
      Text.camelCase := by
  obtain ⟨found, hfound, hrecipes⟩ := h.recipes
  have haccounts := flatMap_eq_of_forall₂
    (h.accounts.imp fun _ _ hmade => (AccountNode.links_of hmade).symm)
  have hinstructions := flatMap_eq_of_forall₂
    (h.instructions.imp fun _ _ hmade => (InstructionNode.links_of hmade).symm)
  have htypes := flatMap_eq_of_forall₂
    (h.definedTypes.imp fun _ _ hmade => (DefinedTypeNode.links_of hmade).symm)
  have hseeds := flatMap_eq_of_forall₂
    (hfound.imp fun _ _ hrecipe => (RecipeNode.links_of hrecipe).symm)
  rw [ProgramNode.typeLinks, hrecipes, List.flatMap_assoc, ← haccounts, ← hinstructions, ← htypes,
    ← hseeds, Program.links, Program.seedLinks]
  simp only [List.map_append, List.map_flatMap, List.flatMap_append, List.append_assoc]

/-- Types keep their names, in camel case. -/
theorem ProgramNode.Lowers.typeNames (h : node.Lowers program shared) :
    node.definedTypes.map (·.name)
      = (program.definedTypes ++ shared).map (Text.camelCase ·.name) := by
  refine (map_eq_map_iff_forall₂.mpr (h.definedTypes.imp fun defined made hmade => ?_)).symm
  obtain ⟨type, -, hmade⟩ := bind_eq_ok.mp hmade
  rw [← pure_eq_ok.mp hmade]

/-- **WHERE LINKS LEAD**: all links to types in the node of a program lead if each is cased like a
    type of the program or one that is shared with it. -/
theorem ProgramNode.Lowers.leads_iff (h : node.Lowers program shared) :
    node.encode.Leads "definedTypeLinkNode" "definedTypeNode"
      ↔ ∀ name ∈ program.links ++ shared.flatMap (·.type.links) ++ program.seedLinks,
          ∃ defined ∈ program.definedTypes ++ shared,
            Text.camelCase defined.name = Text.camelCase name := by
  simp only [Json.Leads, node.mem_typeLinks_iff, node.mem_definedTypes_iff, h.typeLinks,
    h.typeNames]
  rw [List.forall_mem_map]
  simp only [List.mem_map]

end Lowered

end Interchange

/-! ## Links of a document -/

open Interchange

/-- What a link of a program or of a shared type stands for, or a type of the program in its place,
    is among the types of the program and the shared ones that it does not define. -/
theorem Tree.exists_attached {tree : Tree} {program : Program} {owner : Option Program}
    {name : String} (howner : owner = none ∨ owner = some program)
    (h : (tree.denoted? owner name).isSome = true) :
    ∃ defined ∈ program.definedTypes ++ tree.sharedTypes.filter fun t => !program.defines t.name,
      defined.name = name := by
  cases hown : program.definedType? name with
  | some own =>
      exact ⟨own, List.mem_append_left _ (List.mem_of_find?_eq_some hown), name_of_find? hown⟩
  | none =>
      obtain ⟨defined, hdenoted⟩ := Option.isSome_iff_exists.mp h
      have hshared : tree.sharedType? name = some defined := by
        rcases Option.or_eq_some_iff.mp hdenoted with hlocal | ⟨-, hshared⟩
        · rcases howner with rfl | rfl
          · exact nomatch hlocal
          · exact nomatch hown.symm.trans hlocal
        · exact hshared
      obtain rfl : defined.name = name := name_of_find? hshared
      refine ⟨defined, List.mem_append_right _ (List.mem_filter.mpr
        ⟨List.mem_of_find?_eq_some hshared, ?_⟩), rfl⟩
      rw [Program.defines, hown]
      rfl

/-- **THE FIRST PROGRAM HAS THE SHARED TYPES**: where all links of a tree stand for types, all links
    to types in the node of the first program lead.  In the node of another program they do if and
    only if each link that is to no type of the program is cased like one. -/
theorem Interchange.Document.typeLinks_lead {tree : Tree} {document : Interchange.Document}
    (hresolve : tree.LinksResolve) (h : Interchange.Document.of tree = .ok document) :
    document.program.encode.Leads "definedTypeLinkNode" "definedTypeNode"
      ∧ List.Forall₂ (fun program node =>
          node.encode.Leads "definedTypeLinkNode" "definedTypeNode"
            ↔ ∀ name ∈ program.links ++ program.seedLinks, program.defines name = false →
                ∃ own ∈ program.definedTypes, Text.camelCase own.name = Text.camelCase name)
          tree.programs.tail document.additional := by
  obtain ⟨primary, others, hprograms, hprimary, hothers⟩ := Interchange.Document.of_eq_ok h
  have hmem : primary ∈ tree.programs := hprograms ▸ List.mem_cons_self
  constructor
  · refine hprimary.leads_iff.mpr fun name hname => ?_
    have hattached : ∃ defined ∈ primary.definedTypes
        ++ tree.sharedTypes.filter fun t => !primary.defines t.name, defined.name = name := by
      -- the program looks up its own types first, a shared type the shared ones only
      rcases List.mem_append.mp hname with hname | hseed
      · rcases List.mem_append.mp hname with hlink | hshared
        · exact Tree.exists_attached (.inr rfl)
            (hresolve.programs primary hmem name (List.mem_append_left _ hlink))
        · obtain ⟨shared, hshared, hlink⟩ := List.mem_flatMap.mp hshared
          exact Tree.exists_attached (.inl rfl)
            (hresolve.sharedTypes shared (List.mem_of_mem_filter hshared) name hlink)
      · exact Tree.exists_attached (.inr rfl)
          (hresolve.programs primary hmem name (List.mem_append_right _ hseed))
    obtain ⟨defined, hdefined, rfl⟩ := hattached
    exact ⟨defined, hdefined, rfl⟩
  · rw [hprograms, List.tail_cons]
    refine hothers.imp fun program node hlowers => ?_
    rw [hlowers.leads_iff, List.flatMap_nil, List.append_nil, List.append_nil]
    refine forall₂_congr fun name _ => ⟨fun hleads _ => hleads, fun hleads => ?_⟩
    -- a link to a type of the program is cased like that type
    cases hdefines : program.defines name with
    | false => exact hleads hdefines
    | true =>
        obtain ⟨own, hown⟩ := Option.isSome_iff_exists.mp hdefines
        exact ⟨own, List.mem_of_find?_eq_some hown, congrArg _ (name_of_find? hown)⟩

theorem Interchange.Document.typeLinks_lead_exchange : ∃ document,
    exchange.LinksResolve ∧ Interchange.Document.of exchange = .ok document
      ∧ document.program.encode.Leads "definedTypeLinkNode" "definedTypeNode"
      ∧ List.Forall₂ (fun program node =>
          node.encode.Leads "definedTypeLinkNode" "definedTypeNode"
            ↔ ∀ name ∈ program.links ++ program.seedLinks, program.defines name = false →
                ∃ own ∈ program.definedTypes, Text.camelCase own.name = Text.camelCase name)
          exchange.programs.tail document.additional := by
  have hresolve : exchange.LinksResolve := ⟨by decide +kernel, by decide +kernel⟩
  obtain ⟨document, hdocument⟩ : ∃ document, Interchange.Document.of exchange = .ok document :=
    exists_ok_of_isSome (by decide +kernel)
  exact ⟨document, hresolve, hdocument, Document.typeLinks_lead hresolve hdocument⟩

/-- **A LINK THAT LEADS NOWHERE**: a tree of two programs in which all links stand for types, with
    distinct names in every scope, and a link to a type in the node of the second program that is
    to no type of that node. -/
theorem Interchange.exists_dangling_typeLink : ∃ document,
    exchange.Distinct ∧ exchange.LinksResolve ∧ Interchange.Document.of exchange = .ok document
      ∧ ∃ node ∈ document.additional, ("definedTypeLinkNode", "config") ∈ node.encode.namedNodes
          ∧ ("definedTypeNode", "config") ∉ node.encode.namedNodes := by
  have hresolve : exchange.LinksResolve := ⟨by decide +kernel, by decide +kernel⟩
  have hdistinct : exchange.Distinct := by
    refine ⟨by decide, by decide, List.forall_mem_cons.mpr ⟨?_, List.forall_mem_singleton.mpr ?_⟩⟩
    · refine ⟨by decide, by decide, by decide, ?_⟩
      exact List.forall_mem_singleton.mpr ⟨by decide, by decide⟩
    · exact ⟨by decide, by decide, by decide, List.forall_mem_nil _⟩
  obtain ⟨document, hdocument, hnode⟩ : ∃ document, Interchange.Document.of exchange = .ok document
      ∧ (document.additional.any fun node =>
          decide (("definedTypeLinkNode", "config") ∈ node.encode.namedNodes
            ∧ ("definedTypeNode", "config") ∉ node.encode.namedNodes)) = true :=
    exists_ok_of_any (by decide +kernel)
  obtain ⟨node, hmem, hdangles⟩ := List.any_eq_true.mp hnode
  exact ⟨document, hdistinct, hresolve, hdocument, node, hmem, of_decide_eq_true hdangles⟩

end Bindery
