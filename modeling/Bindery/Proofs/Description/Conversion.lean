import Bindery.Proofs.WellFormed

/-! # Conversion — what each declaration of a document means

    A declaration is checked and converted in one go.  Here the two are taken
    apart.  The `meaning` of a declaration is what it becomes, given for every
    declaration and by no check; a conversion gives the meaning just where a
    condition holds, and fails elsewhere (`Gives`).

    There is one lemma for each way in which a conversion is put together, a chain
    (`Gives.bind`), a check in front (`Gives.check`) and a list (`Gives.mapM`), so
    that the condition of a declaration is read off its parts, from type
    expressions (`TypeExpr.toType_gives`) up to instructions
    (`Description.toInstruction_gives`). -/

namespace Bindery

/-! ## Conversions -/

/-- A computation gives a value just where a condition holds. -/
def Gives {ε α : Type} (x : Except ε α) (good : Prop) (a : α) : Prop :=
  ∀ b, x = .ok b ↔ good ∧ a = b

namespace Gives

variable {ε α β : Type} {x : Except ε α} {p q : Prop} {a : α}

/-- A value that is given at once. -/
theorem ok (a : α) : Gives (.ok a : Except ε α) True a :=
  fun _ => pure_eq_ok.trans (iff_of_eq (true_and _)).symm

/-- A failure, where a condition does not hold. -/
theorem error {e : ε} (hp : ¬ p) : Gives (.error e) p a := by
  intro b
  constructor
  · intro h
    cases h
  · intro h
    exact absurd h.1 hp

/-- The condition may be put in other words. -/
theorem congr (h : Gives x p a) (hpq : p ↔ q) : Gives x q a :=
  fun b => (h b).trans (and_congr_left' hpq)

/-- A chain goes on from the value of its first step. -/
theorem bind {k : α → Except ε β} {b : β} (h : Gives x p a) (hk : Gives (k a) q b) :
    Gives (x >>= k) (p ∧ q) b := by
  intro c
  rw [bind_eq_ok, and_assoc, ← hk c]
  constructor
  · rintro ⟨a', ha, hc⟩
    obtain ⟨hp, rfl⟩ := (h a').mp ha
    exact ⟨hp, hc⟩
  · rintro ⟨hp, hc⟩
    exact ⟨a, (h a).mpr ⟨hp, rfl⟩, hc⟩

/-- A last step that only puts the value in another form. -/
theorem last (h : Gives x p a) (f : α → β) : Gives (x >>= fun a => pure (f a)) p (f a) :=
  (h.bind (ok (f a))).congr (and_iff_left trivial)

/-- A value that is put in another form. -/
theorem map (h : Gives x p a) (f : α → β) : Gives (x.map f) p (f a) := by
  cases x with
  | error e => exact error fun hp => nomatch (h a).mpr ⟨hp, rfl⟩
  | ok a' => exact h.last f

/-- A check in front of a computation. -/
theorem check {y : Except ε Unit} (hy : y = .ok () ↔ q) (h : Gives x p a) :
    Gives (y >>= fun _ => x) (q ∧ p) a := by
  intro b
  rw [check_bind_eq_ok, hy, h b, and_assoc]

/-- A list is converted where all its items are, each to its own value. -/
theorem mapM {f : α → Except ε β} {good : α → Prop} {meaning : α → β}
    (h : ∀ a, Gives (f a) (good a) (meaning a)) (as : List α) :
    Gives (as.mapM f) (∀ a ∈ as, good a) (as.map meaning) := by
  induction as with
  | nil => exact (ok []).congr (iff_of_true trivial fun _ ha => (nomatch ha))
  | cons a as ih =>
      rw [List.mapM_cons]
      exact ((h a).bind (ih.last _)).congr List.forall_mem_cons.symm

end Gives

/-! ## Type expressions -/

namespace TypeExpr

/-- The names of the primitive types. -/
def primitives : List String :=
  ["bool", "string", "bytes", "publicKey", "pubkey"] ++ NumberFormat.all.map (·.name)

/-- An expression bottoms out in primitives and in names of definitions. -/
def Known : TypeExpr → Prop
  | .primitive name => name ∈ primitives
  | .defined _ => True
  | .option item | .vec item | .array item _ => item.Known

/-- The names of definitions in an expression. -/
def names : TypeExpr → List String
  | .primitive _ => []
  | .defined name => [name]
  | .option item | .vec item | .array item _ => item.names

/-- The type that an expression means; an unknown primitive may mean any. -/
def meaning : TypeExpr → TypeNode
  | .primitive name => (primitive? name).getD default
  | .defined name => .link name
  | .option item => .option item.meaning
  | .vec item => .array item.meaning none
  | .array item size => TypeNode.sized item.meaning size

/-- The primitives are the names that name a type. -/
theorem isSome_primitive?_iff {name : String} :
    (primitive? name).isSome = true ↔ name ∈ primitives := by
  have hformat : (NumberFormat.ofName? name).isSome ↔ name ∈ NumberFormat.all.map (·.name) :=
    isSome_find?_iff
  unfold primitive? primitives
  rw [List.mem_append, ← hformat]
  split
  case h_6 => simp_all
  all_goals simp

/-- A type expression gives a type where its primitives are known. -/
theorem toType_gives (expr : TypeExpr) : Gives expr.toType expr.Known expr.meaning := by
  induction expr with
  | primitive name =>
      rw [toType, Known, meaning, ← isSome_primitive?_iff]
      cases primitive? name with
      | none => exact .error Bool.false_ne_true
      | some type => exact (Gives.ok type).congr (iff_of_true trivial rfl)
  | defined name => exact .ok _
  | option item ih | vec item ih | array item size ih => exact ih.last _

end TypeExpr

/-! ## Names and numbers -/

/-- Names pass that fit in a path. -/
theorem checkName_eq_ok {role : Role} {name : String} :
    Description.checkName role name = .ok () ↔ NodePath.ValidName name := by
  unfold Description.checkName
  rw [ite_eq_ok, and_iff_left rfl]

/-- A value has bytes in a format when the format is unsigned and it fits. -/
theorem encodeUnsigned_isSome_iff {format : NumberFormat} {value : UInt64} :
    (format.encodeUnsigned value).isSome = true
      ↔ (DiscriminatorValue.number format value).Fits := by
  unfold NumberFormat.encodeUnsigned
  by_cases h : format.isUnsigned ∧ value.toNat < wordCount (8 * format.size)
  · rw [if_pos h]
    exact ⟨fun _ => h, fun _ => rfl⟩
  · rw [if_neg h]
    exact ⟨fun hsome => absurd hsome Bool.false_ne_true, fun hfits => absurd hfits h⟩

namespace Description

/-! ## Layouts -/

/-- The field that a declaration means. -/
def Field.meaning (field : Field) : StructField := ⟨field.name, field.type.meaning, field.docs⟩

/-- The type expressions in the data of a variant. -/
def Payload.types : Payload → List TypeExpr
  | .named fields => fields.map (·.type)
  | .tuple types => types

/-- The fields that the data of a variant means. -/
def Payload.meaning : Payload → List StructField
  | .named fields => fields.map Field.meaning
  | .tuple types => types.zipIdx.map fun (type, position) => ⟨toString position, type.meaning, []⟩

/-- The type expressions in a variant. -/
def Variant.types (variant : Variant) : List TypeExpr := (variant.payload.map (·.types)).getD []

/-- The variant that a declaration means. -/
def Variant.meaning (variant : Variant) : EnumVariant :=
  ⟨variant.name, variant.discriminant, variant.payload.map (·.meaning)⟩

/-- The type expressions in a layout. -/
def Layout.types : Layout → List TypeExpr
  | .struct fields => fields.map (·.type)
  | .enum variants => variants.flatMap (·.types)

/-- The type that a layout means. -/
def Layout.meaning : Layout → TypeNode
  | .struct fields => .struct (fields.map Field.meaning)
  | .enum variants => .enum (variants.map Variant.meaning)

/-- The defined type that a definition means. -/
def TypeDef.meaning (definition : TypeDef) : DefinedType :=
  ⟨definition.name, definition.layout.meaning, definition.docs⟩

/-- A field is converted where its type is known. -/
theorem toStructField_gives (field : Field) :
    Gives field.toStructField field.type.Known field.meaning :=
  field.type.toType_gives.last _

/-- Fields are converted where their types are known. -/
theorem toStructFields_gives (fields : List Field) :
    Gives (fields.mapM Field.toStructField) (∀ type ∈ fields.map (·.type), type.Known)
      (fields.map Field.meaning) :=
  (Gives.mapM toStructField_gives fields).congr List.forall_mem_map.symm

/-- The data of a variant is converted where its types are known. -/
theorem toFields_gives (payload : Payload) :
    Gives payload.toFields (∀ type ∈ payload.types, type.Known) payload.meaning := by
  cases payload with
  | named fields => exact toStructFields_gives fields
  | tuple types =>
      have hposition : ∀ item : TypeExpr × Nat, Gives
          (do return (⟨toString item.2, ← item.1.toType, []⟩ : StructField)) item.1.Known
          ⟨toString item.2, item.1.meaning, []⟩ := fun item => item.1.toType_gives.last _
      refine (Gives.mapM hposition types.zipIdx).congr ?_
      show _ ↔ ∀ type ∈ types, type.Known
      conv_rhs => rw [← List.zipIdx_map_fst 0 types]
      exact List.forall_mem_map.symm

/-- A variant is converted where its types are known. -/
theorem toVariant_gives (variant : Variant) :
    Gives variant.toVariant (∀ type ∈ variant.types, type.Known) variant.meaning := by
  obtain ⟨name, payload, discriminant⟩ := variant
  cases payload with
  | none => exact (Gives.ok _).congr (iff_of_true trivial fun _ h => (nomatch h))
  | some payload =>
      show Gives (payload.toFields.map some >>= _) _ _
      exact ((toFields_gives payload).map some).last _

/-- A layout is converted where its types are known. -/
theorem toType_gives (layout : Layout) :
    Gives layout.toType (∀ type ∈ layout.types, type.Known) layout.meaning := by
  cases layout with
  | struct fields => exact (toStructFields_gives fields).last _
  | enum variants =>
      refine ((Gives.mapM toVariant_gives variants).last _).congr ?_
      exact List.forall_mem_flatMap.symm

/-- A definition is converted where it has a valid name and its types are known. -/
theorem toDefinedType_gives (definition : TypeDef) :
    Gives definition.toDefinedType
      (NodePath.ValidName definition.name ∧ ∀ type ∈ definition.layout.types, type.Known)
      definition.meaning :=
  .check checkName_eq_ok ((toType_gives definition.layout).last _)

/-! ## Links -/

/-- The links of an array are those of its items. -/
theorem links_sized (item : TypeNode) (size : UInt64) :
    (TypeNode.sized item size).links = item.links := by
  unfold TypeNode.sized
  split <;> rfl

/-- The type that an expression means links to the names in it. -/
theorem links_expr (expr : TypeExpr) : expr.meaning.links = expr.names := by
  induction expr with
  | primitive name =>
      show ((TypeExpr.primitive? name).getD default).links = []
      unfold TypeExpr.primitive?
      split <;> try rfl
      cases NumberFormat.ofName? name <;> rfl
  | defined name => rfl
  | option item ih | vec item ih => exact ih
  | array item size ih => exact (links_sized _ _).trans ih

/-- The fields that declarations mean link to the names in their types. -/
theorem links_fields (fields : List Field) :
    (fields.map Field.meaning).flatMap (·.type.links)
      = (fields.map (·.type)).flatMap (·.names) := by
  rw [List.flatMap_map, List.flatMap_map]
  exact List.flatMap_congr fun field _ => links_expr field.type

/-- The data that a variant means links to the names in its types. -/
theorem links_payload (payload : Payload) :
    TypeNode.fieldLinks payload.meaning = payload.types.flatMap (·.names) := by
  rw [TypeNode.fieldLinks_eq_flatMap]
  cases payload with
  | named fields => exact links_fields fields
  | tuple types =>
      show (types.zipIdx.map _).flatMap _ = types.flatMap _
      conv_rhs => rw [← List.zipIdx_map_fst 0 types]
      rw [List.flatMap_map, List.flatMap_map]
      exact List.flatMap_congr fun item _ => links_expr item.1

/-- The variants that declarations mean link to the names in their types. -/
theorem links_variants (variants : List Variant) :
    TypeNode.variantLinks (variants.map Variant.meaning)
      = (variants.flatMap (·.types)).flatMap (·.names) := by
  rw [TypeNode.variantLinks_eq_flatMap, List.flatMap_map, List.flatMap_assoc]
  refine List.flatMap_congr fun variant _ => ?_
  obtain ⟨name, payload, discriminant⟩ := variant
  cases payload with
  | none => rfl
  | some payload => exact links_payload payload

/-- The type that a layout means links to the names in its types. -/
theorem links_layout (layout : Layout) :
    layout.meaning.links = layout.types.flatMap (·.names) := by
  cases layout with
  | struct fields => exact (TypeNode.fieldLinks_eq_flatMap _).trans (links_fields fields)
  | enum variants => exact links_variants variants

/-! ## Accounts -/

/-- The layout of an account: its own, or else that of the first definition of its name. -/
def AccountDef.layoutIn (types : List TypeDef) (account : AccountDef) : Option Layout :=
  account.layout <|> (types.find? (·.name = account.name)).map (·.layout)

/-- The fields of a layout; an enum has none. -/
def Layout.fields : Layout → List Field
  | .struct fields => fields
  | .enum _ => []

/-- The account that a declaration means among some definitions. -/
def AccountDef.meaning (types : List TypeDef) (account : AccountDef) : Account where
  name := account.name
  docs := account.docs
  fields := ((account.layoutIn types).map (·.fields.map Field.meaning)).getD []
  discriminator := account.discriminator.map fun raw => ⟨.bytes raw, 0⟩
  seeds := none

/-- An account has a layout that is a struct. -/
def AccountDef.LaidOut (types : List TypeDef) (account : AccountDef) : Prop :=
  ∃ fields, account.layoutIn types = some (.struct fields)

/-- The fields of an account are converted where its layout is a struct of known types. -/
theorem accountFields_gives (account : String) (layout : Layout) :
    Gives (accountFields account layout)
      ((∃ fields, layout = .struct fields) ∧ ∀ type ∈ layout.types, type.Known)
      (layout.fields.map Field.meaning) := by
  cases layout with
  | struct fields =>
      refine (toStructFields_gives fields).congr ?_
      exact (and_iff_right ⟨fields, rfl⟩).symm
  | enum variants => exact .error fun ⟨⟨fields, h⟩, _⟩ => nomatch h

/-- An account is converted where it has a valid name and its layout is a struct of known
    types. -/
theorem toAccount_gives (types : List TypeDef) (account : AccountDef) :
    Gives (account.toAccount types)
      (NodePath.ValidName account.name ∧ account.LaidOut types
        ∧ ∀ layout, account.layoutIn types = some layout → ∀ type ∈ layout.types, type.Known)
      (account.meaning types) := by
  refine .check checkName_eq_ok ?_
  have hlayout : ∀ layout, account.layoutIn types = some layout →
      Gives (do
        let fields ← accountFields account.name layout
        return (⟨account.name, account.docs, fields,
          account.discriminator.map fun raw => ⟨.bytes raw, 0⟩, none⟩ : Account))
      (account.LaidOut types
        ∧ ∀ layout, account.layoutIn types = some layout → ∀ type ∈ layout.types, type.Known)
      (account.meaning types) := by
    intro layout h
    unfold AccountDef.meaning AccountDef.LaidOut
    simp only [h, Option.some.injEq, forall_eq', Option.map_some, Option.getD_some]
    exact (accountFields_gives account.name layout).last _
  cases hown : account.layout with
  | some layout => exact hlayout layout (by rw [AccountDef.layoutIn, hown]; rfl)
  | none =>
      cases hfound : types.find? (·.name = account.name) with
      | some definition =>
          exact hlayout definition.layout (by rw [AccountDef.layoutIn, hown, hfound]; rfl)
      | none =>
          have hnone : account.layoutIn types = none := by
            rw [AccountDef.layoutIn, hown, hfound]
            rfl
          exact .error fun ⟨⟨fields, h⟩, _⟩ => nomatch hnone.symm.trans h

/-! ## Instructions and errors -/

/-- The instruction account that a declaration means. -/
def AccountItem.meaning (item : AccountItem) : InstructionAccount where
  name := item.name
  isWritable := item.isWritable
  isSigner := item.isSigner
  isOptional := item.isOptional
  docs := item.docs ++ item.remark.toList
  defaultValue := none

/-- The instruction argument that a declaration means. -/
def Field.argument (field : Field) : InstructionArgument :=
  ⟨field.name, field.type.meaning, field.docs, none⟩

/-- A numeric tag has an unsigned integer format that its value fits. -/
def Discriminant.Fits (discriminant : Discriminant) : Prop :=
  ∃ format, NumberFormat.ofName? discriminant.type = some format
    ∧ (DiscriminatorValue.number format discriminant.value).Fits

/-- The tag that an instruction means: its number, or else its raw bytes. -/
def InstructionDef.meantTag (instruction : InstructionDef) : Option Discriminator :=
  match instruction.discriminant with
  | some discriminant => (NumberFormat.ofName? discriminant.type).map fun format =>
      ⟨.number format discriminant.value, 0⟩
  | none => instruction.discriminator.map fun raw => ⟨.bytes raw, 0⟩

/-- The instruction that a declaration means. -/
def InstructionDef.meaning (instruction : InstructionDef) : Instruction where
  name := instruction.name
  docs := instruction.docs
  accounts := instruction.accounts.map AccountItem.meaning
  arguments := instruction.arguments.map Field.argument
  discriminator := instruction.meantTag

/-- The error that a declaration means. -/
def ErrorDef.meaning (error : ErrorDef) : ProgramError :=
  ⟨error.code, error.name, error.message.getD "", []⟩

/-- An instruction account is converted where it has a valid name and is no group. -/
theorem toInstructionAccount_gives (instruction : String) (item : AccountItem) :
    Gives (item.toAccount instruction) (NodePath.ValidName item.name ∧ item.isGroup = false)
      item.meaning := by
  refine .check checkName_eq_ok fun account => ?_
  rw [unless_eq_ok, Bool.not_eq_true]
  exact and_congr_right' pure_eq_ok

/-- An argument is converted where it has a valid name and its type is known. -/
theorem toArgument_gives (field : Field) :
    Gives field.toArgument (NodePath.ValidName field.name ∧ field.type.Known) field.argument :=
  .check checkName_eq_ok (field.type.toType_gives.last _)

/-- A tag is converted where its number, if it has one, fits. -/
theorem tag_gives (instruction : InstructionDef) :
    Gives instruction.tag (∀ discriminant ∈ instruction.discriminant, discriminant.Fits)
      instruction.meantTag := by
  unfold InstructionDef.tag InstructionDef.meantTag
  cases instruction.discriminant with
  | none =>
      have hnone : ∀ discriminant ∈ (none : Option Discriminant), discriminant.Fits :=
        fun _ h => nomatch h
      cases instruction.discriminator with
      | none => exact (Gives.ok _).congr (iff_of_true trivial hnone)
      | some raw => exact (Gives.ok _).congr (iff_of_true trivial hnone)
  | some discriminant =>
      have hsome : (∀ given ∈ some discriminant, given.Fits) ↔ discriminant.Fits := by
        simp only [Option.mem_some_iff, forall_eq']
      rw [hsome, Discriminant.Fits]
      dsimp only
      cases NumberFormat.ofName? discriminant.type with
      | none => exact .error fun ⟨format, h, _⟩ => nomatch h
      | some format =>
          intro tag
          dsimp only [Option.map_some]
          rw [ite_eq_ok, encodeUnsigned_isSome_iff]
          simp only [Option.some.injEq, exists_eq_left']

/-- An instruction is converted where its own name and those of its inputs are valid, no account
    is a group, the types of its arguments are known and the number of its tag fits. -/
theorem toInstruction_gives (instruction : InstructionDef) :
    Gives instruction.toInstruction
      (NodePath.ValidName instruction.name
        ∧ (∀ item ∈ instruction.accounts, NodePath.ValidName item.name ∧ item.isGroup = false)
        ∧ (∀ field ∈ instruction.arguments, NodePath.ValidName field.name ∧ field.type.Known)
        ∧ ∀ discriminant ∈ instruction.discriminant, discriminant.Fits)
      instruction.meaning := by
  have haccounts := Gives.mapM (toInstructionAccount_gives instruction.name) instruction.accounts
  have harguments := Gives.mapM toArgument_gives instruction.arguments
  exact .check checkName_eq_ok (haccounts.bind (harguments.bind ((tag_gives instruction).last _)))

/-- An error is converted where it has a valid name. -/
theorem toError_gives (error : ErrorDef) :
    Gives error.toError (NodePath.ValidName error.name) error.meaning :=
  (Gives.check checkName_eq_ok (.ok _)).congr (and_iff_left trivial)

end Description

end Bindery
