import Bindery.Proofs.Json.Forms
import Mathlib.Data.List.Permutation

/-! # Trees read back — encoding and decoding undo each other

    Every node is encoded to a form of itself.  The lemmas follow the nodes from
    the leaves up, one for each encoder: types by recursion on their structure,
    with the depth of the document as the bound of the decoder, then the values
    that are attached to a tree, then its nodes.  The result is that of the
    whole (`tree_roundTrip`). -/

namespace Bindery

open Decode

/-! ## Types -/

theorem NumberFormat.isForm (stage : Decode.Stage) (format : NumberFormat) :
    IsForm (decode stage) format format.encode :=
  ⟨trivial, fun other hother => by
    rw [Json.reorders_string.mp hother]
    cases format <;> cases stage <;> rfl⟩

namespace TypeNode

/-- A field is encoded to a form of itself if its type is. -/
theorem isForm_field {decodeType : Json → Except Fault TypeNode} {name : String}
    {type : TypeNode} {docs : List String} (h : IsForm decodeType type type.encode) :
    IsForm (decodeField decodeType) ⟨name, type, docs⟩ (.object
      ([("name", .string name), ("type", type.encode)] ++ Json.docsMember docs)) :=
  isForm_record ((((Fields.isForm_required "name" (isForm_str name)).map StructField.mk).seq
    (Fields.isForm_required "type" h) (by decide)).seq (isForm_docs docs) (by decide)) (by decide)

/-- A variant is encoded to a form of itself if its fields are. -/
theorem isForm_variant {decodeType : Json → Except Fault TypeNode} (name : String)
    (discriminant : Option UInt64) {fields : Option (List StructField)}
    {members : List (String × Json)}
    (h : (Fields.optional "fields" (nullable (listOf (decodeField decodeType))) none).IsForm
      ["fields"] fields members) :
    IsForm (decodeVariant decodeType) ⟨name, discriminant, fields⟩ (.object
      ([("name", .string name)] ++ Json.optionalMember "discriminant" Json.word discriminant
        ++ members)) :=
  isForm_record ((((Fields.isForm_required "name" (isForm_str name)).map EnumVariant.mk).seq
    (Fields.isForm_optionalMember "discriminant" isForm_word64 (fun _ h => nomatch h) discriminant)
    (by decide)).seq h (by decide)) (by decide)

/-- A part is read within the bound that is left once its owner is entered. -/
theorem depth_lt_of_member {key : String} {part : Json} {members : List (String × Json)}
    {fuel : Nat} (h : (Json.object members).depth < fuel + 1) (hmem : (key, part) ∈ members) :
    part.depth < fuel := by
  have := Json.depth_lt_of_mem_members hmem
  omega

mutual

/-- A type is read back by a decoder that may go deeper than its document. -/
theorem isForm_within : (type : TypeNode) → (fuel : Nat) → type.encode.depth < fuel →
    (stage : Decode.Stage) → IsForm (decodeWithin fuel stage) type type.encode
  | _, 0, hdepth, _ => absurd hdepth (Nat.not_lt_zero _)
  | .number format, fuel + 1, _, stage =>
    isForm_tagged kinds (by decide)
      ((Fields.isForm_required "format" (format.isForm .setAside)).map TypeNode.number) (by decide)
      fun other body h => by rw [decodeWithin, h]; rfl
  | .boolean, fuel + 1, _, stage =>
    isForm_unit kinds (by decide) fun other body h => by rw [decodeWithin, h]; rfl
  | .publicKey, fuel + 1, _, stage =>
    isForm_unit kinds (by decide) fun other body h => by rw [decodeWithin, h]; rfl
  | .string, fuel + 1, _, stage =>
    isForm_unit kinds (by decide) fun other body h => by rw [decodeWithin, h]; rfl
  | .bytes, fuel + 1, _, stage =>
    isForm_unit kinds (by decide) fun other body h => by rw [decodeWithin, h]; rfl
  | .fixedSize inner size, fuel + 1, hdepth, stage => by
    have hinner := isForm_within inner fuel
      (depth_lt_of_member hdepth (.tail _ (.head _))) .setAside
    exact isForm_tagged kinds (by decide)
      (((Fields.isForm_required "type" hinner).map TypeNode.fixedSize).seq
        (Fields.isForm_required "size" (isForm_word64 size)) (by decide)) (by decide)
      fun other body h => by rw [decodeWithin, h]; rfl
  | .option item, fuel + 1, hdepth, stage => by
    have hitem := isForm_within item fuel (depth_lt_of_member hdepth (.tail _ (.head _))) .setAside
    exact isForm_tagged kinds (by decide)
      ((Fields.isForm_required "item" hitem).map TypeNode.option) (by decide)
      fun other body h => by rw [decodeWithin, h]; rfl
  | .array item count, fuel + 1, hdepth, stage => by
    have hitem := isForm_within item fuel (depth_lt_of_member hdepth (.tail _ (.head _))) .setAside
    exact isForm_tagged kinds (by decide)
      (((Fields.isForm_required "item" hitem).map TypeNode.array).seq
        (Fields.isForm_optionalMember "count" isForm_word64 (fun _ h => nomatch h) count)
        (by decide)) (by decide)
      fun other body h => by rw [decodeWithin, h]; rfl
  | .struct fields, fuel + 1, hdepth, stage => by
    have hitems := depth_lt_of_member hdepth (.tail _ (.head _))
    have hfields := isForm_fields fields fuel fun item hitem =>
      (Json.depth_lt_of_mem_items hitem).trans hitems
    exact isForm_tagged kinds (by decide)
      ((Fields.isForm_required "fields" (isForm_listOf hfields)).map TypeNode.struct) (by decide)
      fun other body h => by rw [decodeWithin, h]; rfl
  | .enum variants, fuel + 1, hdepth, stage => by
    have hitems := depth_lt_of_member hdepth (.tail _ (.head _))
    have hvariants := isForm_variants variants fuel fun item hitem =>
      (Json.depth_lt_of_mem_items hitem).trans hitems
    exact isForm_tagged kinds (by decide)
      ((Fields.isForm_required "variants" (isForm_listOf hvariants)).map TypeNode.enum) (by decide)
      fun other body h => by rw [decodeWithin, h]; rfl
  | .link name, fuel + 1, _, stage =>
    isForm_tagged kinds (by decide)
      ((Fields.isForm_required "name" (isForm_str name)).map TypeNode.link) (by decide)
      fun other body h => by rw [decodeWithin, h]; rfl

theorem isForm_fields : (fields : List StructField) → (fuel : Nat) →
    (∀ item ∈ encodeFields fields, item.depth < fuel) →
    List.Forall₂ (IsForm (decodeField (decodeWithin fuel .setAside))) fields (encodeFields fields)
  | [], _, _ => .nil
  | ⟨_, type, _⟩ :: fields, fuel, hdepth => by
    obtain ⟨hfirst, hrest⟩ := List.forall_mem_cons.mp hdepth
    have htype : type.encode.depth < fuel := by
      exact (Json.depth_lt_of_mem_members (.tail ("name", _) (.head _))).trans hfirst
    exact .cons (isForm_field (isForm_within type fuel htype .setAside))
      (isForm_fields fields fuel hrest)

theorem isForm_variants : (variants : List EnumVariant) → (fuel : Nat) →
    (∀ item ∈ encodeVariants variants, item.depth < fuel) →
    List.Forall₂ (IsForm (decodeVariant (decodeWithin fuel .setAside))) variants
      (encodeVariants variants)
  | [], _, _ => .nil
  | ⟨name, discriminant, none⟩ :: variants, fuel, hdepth => by
    obtain ⟨-, hrest⟩ := List.forall_mem_cons.mp hdepth
    have hvariant := @isForm_variant (decodeWithin fuel .setAside) name discriminant none []
      (Fields.isForm_absent "fields")
    rw [List.append_nil] at hvariant
    exact .cons hvariant (isForm_variants variants fuel hrest)
  | ⟨name, discriminant, some fields⟩ :: variants, fuel, hdepth => by
    obtain ⟨hfirst, hrest⟩ := List.forall_mem_cons.mp hdepth
    have hitems : (Json.array (encodeFields fields)).depth < fuel :=
      (Json.depth_lt_of_mem_members (List.mem_append_right _ (.head _))).trans hfirst
    have hfields := isForm_fields fields fuel fun item hitem =>
      (Json.depth_lt_of_mem_items hitem).trans hitems
    exact .cons (isForm_variant name discriminant (Fields.isForm_optional "fields"
      (isForm_nullable (isForm_listOf hfields) fun h => nomatch h)))
      (isForm_variants variants fuel hrest)

end

/-- **TYPES**: a type is encoded to a form of itself. -/
theorem isForm (stage : Decode.Stage) (type : TypeNode) : IsForm (decode stage) type type.encode := by
  have hwithin := isForm_within type (type.encode.depth + 1) (Nat.lt_succ_self _) stage
  refine ⟨hwithin.distinct, fun other hother => ?_⟩
  rw [decode, hother.depth_eq]
  exact hwithin.decoded other hother

end TypeNode

/-- A field of an account is encoded to a form of itself. -/
theorem StructField.isForm (fields : List StructField) :
    IsForm (listOf StructField.decode) fields (.array (TypeNode.encodeFields fields)) := by
  refine isForm_listOf ?_
  induction fields with
  | nil => exact .nil
  | cons field fields ih =>
      obtain ⟨name, type, docs⟩ := field
      exact .cons (TypeNode.isForm_field (type.isForm .fresh)) ih

/-! ## Attached values -/

theorem DiscriminatorValue.isForm (stage : Decode.Stage) :
    (value : DiscriminatorValue) → IsForm (decode stage) value value.encode
  | .number format value =>
    isForm_tagged ["number", "bytes"] (by decide)
      (((Fields.isForm_required "format" (format.isForm .setAside)).map
        DiscriminatorValue.number).seq (Fields.isForm_required "value" (isForm_word64 value))
        (by decide)) (by decide) fun other body h => by rw [decode, h]; rfl
  | .bytes raw =>
    isForm_tagged ["number", "bytes"] (by decide)
      ((Fields.isForm_required "bytes" (isForm_bytes raw)).map DiscriminatorValue.bytes)
      (by decide) fun other body h => by rw [decode, h]; rfl

theorem Discriminator.isForm (tag : Discriminator) : IsForm decode tag tag.encode :=
  isForm_record (((Fields.isForm_required "value" (tag.value.isForm .fresh)).map
    Discriminator.mk).seq (Fields.isForm_optional "offset" (isForm_word64 tag.offset))
    (by decide)) (by decide)

theorem Literal.isForm : (literal : Literal) → IsForm decode literal literal.encode
  | .number value => isForm_choice (isForm_int64 value) fun other h => by
    show (int64 other >>= fun n => pure (Literal.number n)) = _
    rw [h]
    rfl
  | .boolean value => isForm_choice (isForm_bool value) fun other h => by
    show (bool other >>= fun b => pure (Literal.boolean b)) = _
    rw [h]
    rfl
  | .string value => isForm_choice (isForm_str value) fun other h => by
    show (str other >>= fun text => pure (Literal.string text)) = _
    rw [h]
    rfl
  | .publicKey address => isForm_choice (isForm_str address) fun other h => by
    show (str other >>= fun text => pure (Literal.publicKey text)) = _
    rw [h]
    rfl
  | .bytes raw => isForm_choice (isForm_bytes raw) fun other h => by
    show (listOf byte other >>= fun bytes => pure (Literal.bytes bytes)) = _
    rw [h]
    rfl

/-- A name waits for the kind if it comes first. -/
theorem Input.isForm : (input : Input) → IsForm decode input input.encode
  | .account name | .argument name => by
    refine ⟨⟨by simp, trivial, trivial, trivial⟩, fun other hother => ?_⟩
    obtain ⟨others, rfl, same, ⟨kind, rest, rfl, hkind, text, rest', rfl, htext, rfl⟩, hperm⟩ :=
      Json.reorders_object.mp hother
    obtain rfl := Json.reorders_string.mp hkind
    obtain rfl := Json.reorders_string.mp htext
    rcases List.pair_perm.mp hperm with rfl | rfl <;> rfl

theorem SeedBinding.isForm (binding : SeedBinding) : IsForm decode binding binding.encode :=
  isForm_record (((Fields.isForm_required "seed" (isForm_str binding.seed)).map
    SeedBinding.mk).seq (Fields.isForm_required "value" binding.value.isForm) (by decide))
    (by decide)

namespace DefaultValue

/-- The kinds of default values. -/
def kinds : List String := ["pda", "account", "argument", "absent", "programId", "literal"]

theorem isForm (stage : Decode.Stage) : (value : DefaultValue) → IsForm (decode stage) value value.encode
  | .pda owner seeds =>
    isForm_tagged kinds (by decide)
      (((Fields.isForm_required "account" (isForm_str owner)).map DefaultValue.pda).seq
        (Fields.isForm_optional "seeds" (isForm_listOf_map SeedBinding.isForm seeds)) (by decide))
      (by decide) fun other body h => by rw [decode, ← kinds, h]; rfl
  | .account name =>
    isForm_tagged kinds (by decide)
      ((Fields.isForm_required "name" (isForm_str name)).map DefaultValue.account) (by decide)
      fun other body h => by rw [decode, ← kinds, h]; rfl
  | .argument name =>
    isForm_tagged kinds (by decide)
      ((Fields.isForm_required "name" (isForm_str name)).map DefaultValue.argument) (by decide)
      fun other body h => by rw [decode, ← kinds, h]; rfl
  | .absent => isForm_unit kinds (by decide) fun other body h => by rw [decode, ← kinds, h]; rfl
  | .programId => isForm_unit kinds (by decide) fun other body h => by rw [decode, ← kinds, h]; rfl
  | .literal value =>
    isForm_tagged kinds (by decide)
      ((Fields.isForm_required "value" value.isForm).map DefaultValue.literal) (by decide)
      fun other body h => by rw [decode, ← kinds, h]; rfl

end DefaultValue

/-- The program id is a bare text among constants with a payload. -/
theorem ConstantSeed.isForm : (value : ConstantSeed) → IsForm decode value value.encode
  | .utf8 text => isForm_choice (isForm_str text) fun other h => by
    show (str other >>= fun text => pure (ConstantSeed.utf8 text)) = _
    rw [h]
    rfl
  | .bytes raw => isForm_choice (isForm_bytes raw) fun other h => by
    show (listOf byte other >>= fun bytes => pure (ConstantSeed.bytes bytes)) = _
    rw [h]
    rfl
  | .programId => ⟨trivial, fun other hother => by rw [Json.reorders_string.mp hother]; rfl⟩

/-- The members of a variable seed are those of its fields. -/
theorem VariableSeed.isForm (seed : VariableSeed) :
    VariableSeed.fields.IsForm ["name", "type", "docs"] seed seed.members :=
  (((Fields.isForm_required "name" (isForm_str seed.name)).map VariableSeed.mk).seq
    (Fields.isForm_required "type" (seed.type.isForm .setAside)) (by decide)).seq
    (isForm_docs seed.docs) (by decide)

theorem Seed.isForm (stage : Decode.Stage) : (seed : Seed) → IsForm (decode stage) seed seed.encode
  | .constant value =>
    isForm_tagged ["constant", "variable"] (by decide)
      ((Fields.isForm_required "value" value.isForm).map Seed.constant) (by decide)
      fun other body h => by rw [decode, h]; rfl
  | .variable seed =>
    isForm_tagged ["constant", "variable"] (by decide) (seed.isForm.map Seed.variable) (by decide)
      fun other body h => by rw [decode, h]; rfl

/-! ## Nodes -/

theorem DefinedType.isForm (defined : DefinedType) : IsForm decode defined defined.encode :=
  isForm_record ((((Fields.isForm_required "name" (isForm_str defined.name)).map
    DefinedType.mk).seq (Fields.isForm_required "type" (defined.type.isForm .fresh))
    (by decide)).seq (isForm_docs defined.docs) (by decide)) (by decide)

theorem ProgramError.isForm (error : ProgramError) : IsForm decode error error.encode :=
  isForm_record (((((Fields.isForm_required "code" (isForm_word32 error.code)).map
    ProgramError.mk).seq (Fields.isForm_required "name" (isForm_str error.name)) (by decide)).seq
    (Fields.isForm_optional "message" (isForm_str error.message)) (by decide)).seq
    (isForm_docs error.docs) (by decide)) (by decide)

theorem Account.isForm (account : Account) : IsForm decode account account.encode :=
  isForm_record ((((((Fields.isForm_required "name" (isForm_str account.name)).map
    Account.mk).seq (isForm_docs account.docs) (by decide)).seq
    (Fields.isForm_optional "fields" (StructField.isForm account.fields)) (by decide)).seq
    (Fields.isForm_optionalMember "discriminator" Discriminator.isForm (fun _ h => nomatch h)
      account.discriminator) (by decide)).seq
    (Fields.isForm_optionalMember "seeds" (isForm_listOf_map (Seed.isForm .fresh))
      (fun _ h => nomatch h) account.seeds) (by decide)) (by decide)

theorem InstructionAccount.isForm (account : InstructionAccount) :
    IsForm decode account account.encode :=
  isForm_record (((((((Fields.isForm_required "name" (isForm_str account.name)).map
    InstructionAccount.mk).seq
    (Fields.isForm_optional "isWritable" (isForm_bool account.isWritable)) (by decide)).seq
    (Fields.isForm_optional "isSigner" (isForm_bool account.isSigner)) (by decide)).seq
    (Fields.isForm_optional "isOptional" (isForm_bool account.isOptional)) (by decide)).seq
    (isForm_docs account.docs) (by decide)).seq
    (Fields.isForm_optionalMember "defaultValue" (DefaultValue.isForm .fresh)
      (fun value h => by cases value <;> exact nomatch h) account.defaultValue) (by decide))
    (by decide)

theorem InstructionArgument.isForm (argument : InstructionArgument) :
    IsForm decode argument argument.encode :=
  isForm_record (((((Fields.isForm_required "name" (isForm_str argument.name)).map
    InstructionArgument.mk).seq
    (Fields.isForm_required "type" (argument.type.isForm .fresh)) (by decide)).seq
    (isForm_docs argument.docs) (by decide)).seq
    (Fields.isForm_optionalMember "defaultValue" (DefaultValue.isForm .fresh)
      (fun value h => by cases value <;> exact nomatch h) argument.defaultValue) (by decide))
    (by decide)

theorem Instruction.isForm (instruction : Instruction) :
    IsForm decode instruction instruction.encode := by
  have haccounts := isForm_listOf_map InstructionAccount.isForm instruction.accounts
  have harguments := isForm_listOf_map InstructionArgument.isForm instruction.arguments
  rw [encode, List.append_cons _ ("accounts", _)]
  exact isForm_record ((((((Fields.isForm_required "name"
    (isForm_str instruction.name)).map Instruction.mk).seq
    (isForm_docs instruction.docs) (by decide)).seq
    (Fields.isForm_optional "accounts" haccounts) (by decide)).seq
    (Fields.isForm_optional "arguments" harguments) (by decide)).seq
    (Fields.isForm_optionalMember "discriminator" Discriminator.isForm (fun _ h => nomatch h)
      instruction.discriminator) (by decide)) (by decide)

theorem Program.isForm (program : Program) : IsForm decode program program.encode := by
  have haccounts := isForm_listOf_map Account.isForm program.accounts
  have hinstructions := isForm_listOf_map Instruction.isForm program.instructions
  have htypes := isForm_listOf_map DefinedType.isForm program.definedTypes
  have herrors := isForm_listOf_map ProgramError.isForm program.errors
  rw [encode, List.append_cons _ ("accounts", _), List.append_cons _ ("instructions", _),
    List.append_cons _ ("definedTypes", _)]
  exact isForm_record (((((((((Fields.isForm_required "name"
    (isForm_str program.name)).map Program.mk).seq
    (Fields.isForm_required "publicKey" (isForm_str program.publicKey)) (by decide)).seq
    (Fields.isForm_optional "version" (isForm_str program.version)) (by decide)).seq
    (isForm_docs program.docs) (by decide)).seq
    (Fields.isForm_optional "accounts" haccounts) (by decide)).seq
    (Fields.isForm_optional "instructions" hinstructions) (by decide)).seq
    (Fields.isForm_optional "definedTypes" htypes) (by decide)).seq
    (Fields.isForm_optional "errors" herrors) (by decide)) (by decide)

/-- Shared types are left out when there are none. -/
theorem Tree.isForm (tree : Tree) : IsForm decode tree tree.encode := by
  have hprograms := (Fields.isForm_required "programs"
    (isForm_listOf_map Program.isForm tree.programs)).map Tree.mk
  obtain ⟨programs, _ | ⟨shared, rest⟩⟩ := tree
  · exact isForm_record (hprograms.seq (Fields.isForm_absent "sharedTypes") (by decide)) (by decide)
  · have hshared := isForm_listOf_map DefinedType.isForm (shared :: rest)
    exact isForm_record (hprograms.seq (Fields.isForm_optional "sharedTypes" hshared) (by decide))
      (by decide)

/-- **TREES**: every tree is read back from its JSON form, with the members as they are written and
    sorted by key. -/
theorem tree_roundTrip (tree : Tree) :
    Tree.decode tree.encode = .ok tree ∧ Tree.decode tree.encode.canonical = .ok tree :=
  ⟨tree.isForm.decode_eq, tree.isForm.decode_canonical⟩

end Bindery
