import Bindery.Crate.Module
import Bindery.Package.Module
import Bindery.Proofs.Loading

/-! # Inline types — what stands in place, and what documents put there

    A type that is used in place must not be a struct or an enum, and only bytes
    and texts have a fixed size.  Options and arrays are as what stands at their
    bottom is, so that one look at it tells why a type is refused
    (`TypeNode.refusal?`).  Types of the crate, types of the package and codecs are
    found by three recursions, and each comes to this verdict, in the same words
    (`types_refused_alike`).

    Type expressions have no structs and no enums, and a run of bytes is all that
    they give a fixed size, so they stand for inline types
    (`TypeExpr.isInline_meaning`).  In the programs of documents, structs and enums
    are therefore nowhere but at the top of defined types (`load_flat`). -/

namespace Bindery

namespace TypeNode

/-- Whether a type can be used in place, without a declaration. -/
def isInline : TypeNode → Bool
  | .number _ | .boolean | .publicKey | .string | .bytes | .link _ => true
  | .fixedSize .bytes _ | .fixedSize .string _ => true
  | .fixedSize _ _ => false
  | .option item | .array item _ => item.isInline
  | .struct _ | .enum _ => false

/-- What stands at the bottom of options and arrays. -/
def base : TypeNode → TypeNode
  | .option item | .array item _ => item.base
  | type => type

/-- Why a type that is no option and no array cannot be used in place, if it cannot. -/
def refusal? : TypeNode → Option Unsupported
  | .fixedSize .bytes _ | .fixedSize .string _ => none
  | .fixedSize inner _ => some (.fixedSize inner.kind)
  | .struct fields => some (.nested (TypeNode.struct fields).kind)
  | .enum variants => some (.nested (TypeNode.enum variants).kind)
  | _ => none

/-- A type is inline exactly when what stands at its bottom is not refused. -/
theorem isInline_iff : (type : TypeNode) → (type.isInline = true ↔ type.base.refusal? = none)
  | .number _ | .boolean | .publicKey | .string | .bytes | .link _
  | .fixedSize .bytes _ | .fixedSize .string _ => iff_of_true rfl rfl
  | .option item | .array item _ => item.isInline_iff
  | .struct _ | .enum _
  | .fixedSize (.number _) _ | .fixedSize .boolean _ | .fixedSize .publicKey _
  | .fixedSize (.link _) _ | .fixedSize (.fixedSize _ _) _ | .fixedSize (.option _) _
  | .fixedSize (.array _ _) _ | .fixedSize (.struct _) _ | .fixedSize (.enum _) _ =>
    iff_of_false Bool.false_ne_true (Option.some_ne_none _)

/-- A refusal is of the kind of the type that is refused. -/
theorem kind_refusal : ∀ {type : TypeNode} {cause : Unsupported},
    type.refusal? = some cause → cause.kind = type.kind
  | .struct _, _, h | .enum _, _, h
  | .fixedSize (.number _) _, _, h | .fixedSize .boolean _, _, h | .fixedSize .publicKey _, _, h
  | .fixedSize (.link _) _, _, h | .fixedSize (.fixedSize _ _) _, _, h
  | .fixedSize (.option _) _, _, h | .fixedSize (.array _ _) _, _, h
  | .fixedSize (.struct _) _, _, h | .fixedSize (.enum _) _, _, h => by
      rw [← Option.some.inj h]
      rfl

/-- An array of inline items is inline, and so is a run of bytes. -/
theorem isInline_sized {item : TypeNode} (h : item.isInline = true) (size : UInt64) :
    (sized item size).isInline = true := by
  unfold sized
  split
  · rfl
  · exact h

end TypeNode

/-! ## Types with source -/

/-- A result that is as judged: there is one, or it fails with the cause, in the context. -/
def Judged {α : Type} (context : String) : Option Unsupported → Except RenderError α → Prop
  | none, result => ∃ a, result = .ok a
  | some cause, result => result = .error (.unsupported context cause)

section Judged

variable {α β : Type} {context : String} {verdict : Option Unsupported}
  {result : Except RenderError α}

/-- What is made of a result is judged as the result is. -/
theorem Judged.return (h : Judged context verdict result) (f : α → β) :
    Judged context verdict (result >>= fun a => pure (f a)) := by
  cases verdict with
  | none => exact exists_return_eq_ok_iff.mpr h
  | some cause => exact return_eq_error.mpr h

/-- A result is there exactly when nothing is held against it. -/
theorem Judged.exists_iff (h : Judged context verdict result) :
    (∃ a, result = .ok a) ↔ verdict = none := by
  cases verdict with
  | none => exact iff_of_true h rfl
  | some cause =>
      refine iff_of_false ?_ (Option.some_ne_none cause)
      rintro ⟨a, ha⟩
      exact nomatch h.symm.trans ha

end Judged

/-- The crate judges a type by what stands at its bottom. -/
theorem CrateType.judged_of (scope : Crate.Scope) (context : String) :
    (type : TypeNode) → Judged context type.base.refusal? (CrateType.of scope context type)
  | .number _ | .boolean | .publicKey | .string | .bytes | .link _
  | .fixedSize .bytes _ | .fixedSize .string _ => ⟨_, rfl⟩
  | .option item | .array item none | .array item (some _) =>
    (judged_of scope context item).return _
  | .struct _ | .enum _
  | .fixedSize (.number _) _ | .fixedSize .boolean _ | .fixedSize .publicKey _
  | .fixedSize (.link _) _ | .fixedSize (.fixedSize _ _) _ | .fixedSize (.option _) _
  | .fixedSize (.array _ _) _ | .fixedSize (.struct _) _ | .fixedSize (.enum _) _ => rfl

/-- The package judges a type by what stands at its bottom, -/
theorem PackageType.judged_of (scope : Package.Scope) (context : String) :
    (type : TypeNode) → Judged context type.base.refusal? (PackageType.of scope context type)
  | .number _ | .boolean | .publicKey | .string | .bytes | .link _
  | .fixedSize .bytes _ | .fixedSize .string _ => ⟨_, rfl⟩
  | .option item | .array item _ => (judged_of scope context item).return _
  | .struct _ | .enum _
  | .fixedSize (.number _) _ | .fixedSize .boolean _ | .fixedSize .publicKey _
  | .fixedSize (.link _) _ | .fixedSize (.fixedSize _ _) _ | .fixedSize (.option _) _
  | .fixedSize (.array _ _) _ | .fixedSize (.struct _) _ | .fixedSize (.enum _) _ => rfl

/-- and so it does for codecs. -/
theorem Codec.judged_of (scope : Package.Scope) (context : String) :
    (type : TypeNode) → Judged context type.base.refusal? (Codec.of scope context type)
  | .number _ | .boolean | .publicKey | .string | .bytes | .link _
  | .fixedSize .bytes _ | .fixedSize .string _ => ⟨_, rfl⟩
  | .option item | .array item _ => (judged_of scope context item).return _
  | .struct _ | .enum _
  | .fixedSize (.number _) _ | .fixedSize .boolean _ | .fixedSize .publicKey _
  | .fixedSize (.link _) _ | .fixedSize (.fixedSize _ _) _ | .fixedSize (.option _) _
  | .fixedSize (.array _ _) _ | .fixedSize (.struct _) _ | .fixedSize (.enum _) _ => rfl

/-- **THE DOMAIN OF THE CRATE**: a type has source there exactly when it is inline. -/
theorem CrateType.exists_of_iff (scope : Crate.Scope) (context : String) (type : TypeNode) :
    (∃ t, CrateType.of scope context type = .ok t) ↔ type.isInline = true :=
  (judged_of scope context type).exists_iff.trans type.isInline_iff.symm

/-- **THE DOMAIN OF THE PACKAGE**: a type has source there exactly when it is inline. -/
theorem PackageType.exists_of_iff (scope : Package.Scope) (context : String) (type : TypeNode) :
    (∃ t, PackageType.of scope context type = .ok t) ↔ type.isInline = true :=
  (judged_of scope context type).exists_iff.trans type.isInline_iff.symm

/-- The types with a codec are those with source in the package. -/
theorem Codec.exists_of_iff (scope : Package.Scope) (context : String) (type : TypeNode) :
    (∃ codec, Codec.of scope context type = .ok codec) ↔ type.isInline = true :=
  (judged_of scope context type).exists_iff.trans type.isInline_iff.symm

/-- **REFUSED ALIKE**: a type has source in the crate and in the package and a codec, or none of
    these.  In the second case all three fail with one cause, which is that of what stands at the
    bottom of the type, in the context that they were given. -/
theorem types_refused_alike (inCrate : Crate.Scope) (inPackage inCodec : Package.Scope)
    (context : String) (type : TypeNode) :
    (type.base.refusal? = none
        ∧ (∃ t, CrateType.of inCrate context type = .ok t)
        ∧ (∃ t, PackageType.of inPackage context type = .ok t)
        ∧ ∃ codec, Codec.of inCodec context type = .ok codec)
      ∨ ∃ cause, type.base.refusal? = some cause ∧ cause.kind = type.base.kind
        ∧ CrateType.of inCrate context type = .error (.unsupported context cause)
        ∧ PackageType.of inPackage context type = .error (.unsupported context cause)
        ∧ Codec.of inCodec context type = .error (.unsupported context cause) := by
  have hcrate := CrateType.judged_of inCrate context type
  have hpackage := PackageType.judged_of inPackage context type
  have hcodec := Codec.judged_of inCodec context type
  cases hverdict : type.base.refusal? with
  | none =>
      rw [hverdict] at hcrate hpackage hcodec
      exact .inl ⟨rfl, hcrate, hpackage, hcodec⟩
  | some cause =>
      rw [hverdict] at hcrate hpackage hcodec
      exact .inr ⟨cause, rfl, TypeNode.kind_refusal hverdict, hcrate, hpackage, hcodec⟩

/-- Fields whose types can be used in place. -/
def InlineFields (fields : List StructField) : Prop :=
  ∀ field ∈ fields, field.type.isInline = true

/-- The crate has all inline fields. -/
theorem Crate.exists_fieldsOf {fields : List StructField} (h : InlineFields fields)
    (scope : Scope) (context : String) : ∃ found, fieldsOf scope context fields = .ok found :=
  exists_mapM_eq_ok fun field hmem =>
    exists_return_eq_ok_iff.mpr ((CrateType.exists_of_iff scope _ _).mpr (h field hmem))

/-- The package has every member of an inline type. -/
theorem Package.Field.exists_of {type : TypeNode} (h : type.isInline = true) (scope : Scope)
    (typeContext codecContext : String) (docs : List String) (name : String) :
    ∃ field, Field.of scope typeContext codecContext docs name type = .ok field := by
  obtain ⟨found, hfound⟩ := (PackageType.exists_of_iff scope s!"{typeContext}/{name}" type).mpr h
  obtain ⟨codec, hcodec⟩ := (Codec.exists_of_iff scope s!"{codecContext}/{name}" type).mpr h
  exact ⟨_, bind_eq_ok.mpr ⟨found, hfound, bind_eq_ok.mpr ⟨codec, hcodec, rfl⟩⟩⟩

/-- The package has all inline fields. -/
theorem Package.exists_fieldsOf {fields : List StructField} (h : InlineFields fields)
    (scope : Scope) (typeContext codecContext : String) :
    ∃ found, fieldsOf scope typeContext codecContext fields = .ok found :=
  exists_mapM_eq_ok fun field hmem => Field.exists_of (h field hmem) scope _ _ _ _

/-! ## Types of documents -/

/-- **WHAT EXPRESSIONS STAND FOR**: inline types. -/
theorem TypeExpr.isInline_meaning (expr : TypeExpr) : expr.meaning.isInline = true := by
  induction expr with
  | primitive name =>
      show ((primitive? name).getD default).isInline = true
      unfold primitive?
      split <;> try rfl
      cases NumberFormat.ofName? name <;> rfl
  | defined name => rfl
  | option item ih | vec item ih => exact ih
  | array item size ih => exact TypeNode.isInline_sized ih size

/-- Variants whose data can be used in place. -/
def InlineData (variants : List EnumVariant) : Prop :=
  ∀ variant ∈ variants, ∀ fields ∈ variant.fields, InlineFields fields

/-- A type that a layout can stand for: a struct or an enum, with inline fields. -/
def TypeNode.IsLayout : TypeNode → Prop
  | .struct fields => InlineFields fields
  | .enum variants => InlineData variants
  | _ => False

/-- A program in which structs and enums are only at the top of defined types. -/
structure Program.Flat (program : Program) : Prop where
  accounts : ∀ account ∈ program.accounts, InlineFields account.fields
  arguments : ∀ instruction ∈ program.instructions, ∀ argument ∈ instruction.arguments,
    argument.type.isInline = true
  definedTypes : ∀ defined ∈ program.definedTypes, defined.type.IsLayout

namespace Description

/-- The fields of declarations are inline. -/
theorem inlineFields_meaning (fields : List Field) : InlineFields (fields.map Field.meaning) :=
  List.forall_mem_map.mpr fun field _ => field.type.isInline_meaning

/-- The fields of a variant are inline, by name and by position. -/
theorem inlineFields_payload (payload : Payload) : InlineFields payload.meaning := by
  cases payload with
  | named fields => exact inlineFields_meaning fields
  | tuple types => exact List.forall_mem_map.mpr fun item _ => item.1.isInline_meaning

/-- A layout stands for a struct or an enum with inline fields. -/
theorem isLayout_meaning (layout : Layout) : layout.meaning.IsLayout := by
  cases layout with
  | struct fields => exact inlineFields_meaning fields
  | enum variants =>
      refine List.forall_mem_map.mpr fun variant _ fields hfields => ?_
      obtain ⟨payload, -, rfl⟩ := Option.map_eq_some_iff.mp hfields
      exact inlineFields_payload payload

/-- An account has inline fields, with a layout of its own and with one that is looked up. -/
theorem inlineFields_account (types : List TypeDef) (account : AccountDef) :
    InlineFields (account.meaning types).fields := by
  unfold AccountDef.meaning
  cases account.layoutIn types with
  | none => exact fun _ hmem => nomatch hmem
  | some layout => exact inlineFields_meaning layout.fields

/-- The program that a document means is flat. -/
theorem flat_meaning (description : Description) : description.meaning.Flat where
  accounts := List.forall_mem_map.mpr fun account _ =>
    inlineFields_account description.types account
  arguments := List.forall_mem_map.mpr fun _ _ =>
    List.forall_mem_map.mpr fun field _ => field.type.isInline_meaning
  definedTypes := List.forall_mem_map.mpr fun definition _ => isLayout_meaning definition.layout

end Description

/-- **FLAT AS LOADED**: in a tree that is loaded, structs and enums are only at the top of
    defined types. -/
theorem load_flat {documents : List Document} {tree : Tree}
    (h : Tree.load documents = .ok tree) : ∀ program ∈ tree.programs, program.Flat :=
  forall_programs_of_load (fun description _ => description.flat_meaning) h

end Bindery
