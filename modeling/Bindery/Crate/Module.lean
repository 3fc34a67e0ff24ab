import Bindery.Crate.Type
import Bindery.Render.Bindings

/-!
# Modules of a generated crate

What each generated Rust module declares, as data. The names are identifiers and the types
are those of generated source; words come later.

* **`Declaration`** — a struct, an enum or another name of a type.
* **`AccountModule`** — the struct of an account, how it is told from other data, and
  how its address is derived.
* **`InstructionModule`** — an instruction, the types of its arguments, and what its call
  builder binds.
* **`Module`** — any of these, the constants of a program, its errors, or an index.
-/

namespace Bindery.Crate

-- ── declared types ───────────────────────────────────────────────────────────────

/-- A public field. -/
structure Field where
  docs : List String
  name : Name
  type : CrateType
deriving DecidableEq

/-- The fields for the fields of a node. -/
def fieldsOf (scope : Scope) (context : String) (fields : List StructField) :
    Except RenderError (List Field) :=
  fields.mapM fun field => do
    let type ← CrateType.of scope s!"{context}/{field.name}" field.type
    return ⟨field.docs, Name.field field.name, type⟩

/-- What a variant carries. -/
inductive VariantBody where
  | unit
  | discriminant (value : UInt8)
  | data (fields : List Field)
deriving DecidableEq

/-- A variant of an enum. -/
structure Variant where
  name : Name
  body : VariantBody
deriving DecidableEq

/-- The shapes of declared types. -/
inductive Shape where
  | struct (fields : List Field)
  | enum (explicit : Bool) (variants : List Variant)
  | alias (type : CrateType)
deriving DecidableEq

/-- A declared type. -/
structure Declaration where
  docs : List String
  name : Name
  shape : Shape
deriving DecidableEq

/-- Whether some variant says its discriminant. -/
def hasDiscriminant (variants : List EnumVariant) : Bool :=
  variants.any (·.discriminant.isSome)

/-- Whether some variant carries data. -/
def hasData (variants : List EnumVariant) : Bool := variants.any (·.fields.isSome)

/-- What a variant at a position carries. If one variant of an enum says its discriminant
    then all others get one. -/
def VariantBody.of (scope : Scope) (context : String) (explicit : Bool) (position : Nat)
    (variant : EnumVariant) : Except RenderError VariantBody :=
  match variant.fields with
  | some fields => do return .data (← fieldsOf scope s!"{context}/{variant.name}" fields)
  | none =>
    if explicit then
      if variant.tag position < 256 then .ok (.discriminant (variant.tag position).toUInt8)
      else .error (.unsupported context (.wideDiscriminant variant.name))
    else .ok .unit

/-- The shape of an enum. A discriminant has no place beside data. -/
def Shape.ofVariants (scope : Scope) (context : String) (variants : List EnumVariant) :
    Except RenderError Shape := do
  let explicit := hasDiscriminant variants
  if explicit ∧ hasData variants then
    throw (.unsupported context .discriminantBesideData)
  let bodies ← variants.zipIdx.mapM fun (variant, position) => do
    return Variant.mk (Name.type variant.name)
      (← VariantBody.of scope context explicit position variant)
  return .enum explicit bodies

/-- The shape of a defined type. -/
def Shape.of (scope : Scope) (context : String) : TypeNode → Except RenderError Shape
  | .struct fields => do return .struct (← fieldsOf scope context fields)
  | .enum variants => ofVariants scope context variants
  | other => do return .alias (← CrateType.of scope context other)

/-- The declaration of a defined type. -/
def Declaration.of (scope : Scope) (defined : DefinedType) : Except RenderError Declaration := do
  let shape ← Shape.of scope s!"types/{defined.name}" defined.type
  return ⟨defined.docs, Name.type defined.name, shape⟩

-- ── accounts ─────────────────────────────────────────────────────────────────────

/-- The constant of a tag, and where its bytes start and end. Positions are words of 64
    bits. -/
structure TagConstant where
  name : Name
  bytes : List UInt8
  start : UInt64
  stop : UInt64
deriving DecidableEq

/-- The constant of the tag of a node. -/
def TagConstant.of (node : String) (tag : Discriminator) : TagConstant where
  name := Name.constant node "_DISCRIMINATOR"
  bytes := tag.encoded
  start := tag.offset
  stop := tag.offset + UInt64.ofNat tag.encoded.length

/-- The types of parameters that seeds are made of. -/
inductive SeedType where
  | address
  | string
  | bytes
  | number (format : NumberFormat)
  | boolean
deriving DecidableEq

/-- The parameter type for the type of a seed. -/
def SeedType.of (context : String) : TypeNode → Except RenderError SeedType
  | .publicKey => .ok .address
  | .string => .ok .string
  | .bytes => .ok .bytes
  | .fixedSize _ _ => .ok .bytes
  | .number format => .ok (.number format)
  | .boolean => .ok .boolean
  | other => .error (.unsupported context (.seedType other.kind))

/-- Whether a parameter is passed by value. -/
def SeedType.isByValue : SeedType → Bool
  | .number _ | .boolean => true
  | .address | .string | .bytes => false

/-- A seed of a derived address. -/
inductive SeedPart where
  | constant (bytes : List UInt8)
  | programId
  | parameter (name : Name) (type : SeedType)
deriving DecidableEq

/-- The seed for a seed of a recipe. -/
def SeedPart.of (context : String) : Seed → Except RenderError SeedPart
  | .constant (.utf8 text) => .ok (.constant text.toUTF8.toList)
  | .constant (.bytes raw) => .ok (.constant raw)
  | .constant .programId => .ok .programId
  | .variable seed => do
    let type ← SeedType.of s!"{context}/seeds/{seed.name}" seed.type
    return .parameter (Name.field seed.name) type

/-- The parameters of a derivation, in order. -/
def parameters (seeds : List SeedPart) : List (Name × SeedType) :=
  seeds.filterMap fun
    | .parameter name type => some (name, type)
    | .constant _ | .programId => none

/-- The module of an account. `title` is its name in comments. -/
structure AccountModule where
  title : String
  tag : Option TagConstant
  docs : List String
  name : Name
  fields : List Field
  seeds : Option (List SeedPart)
deriving DecidableEq

/-- The module of an account of a program. -/
def AccountModule.of (scope : Scope) (account : Account) : Except RenderError AccountModule := do
  let context := s!"accounts/{account.name}"
  let fields ← fieldsOf scope context account.fields
  let seeds ← account.seeds.mapM fun seeds => seeds.mapM (SeedPart.of context)
  return {
    title := account.name
    tag := account.discriminator.map (TagConstant.of account.name)
    docs := account.docs
    name := Name.type account.name
    fields := fields
    seeds := seeds }

-- ── instructions ─────────────────────────────────────────────────────────────────

/-- The identifier of an argument of an instruction. One that would be named like an
    account gets an ending. -/
def argumentName (instruction : Instruction) (name : String) : Name :=
  let snake := Text.snakeCase name
  if instruction.accounts.any (Text.snakeCase ·.name = snake) then Name.of (snake ++ "_arg")
  else Name.of snake

/-- The identifier of an input of an instruction. -/
def inputName (instruction : Instruction) : Input → Name
  | .account name => Name.field name
  | .argument name => argumentName instruction name

/-- The constant of a program's id and the module of its program. -/
structure ProgramId where
  program : Option Name
  constant : Name
deriving DecidableEq

/-- The id of a program. -/
def ProgramId.of (nested : Bool) (program : Program) : ProgramId :=
  ⟨programModule nested program, Name.constant program.name "_ID"⟩

/-- The module of an instruction: the instruction with a type for every argument, and
    the bindings of its call builder. -/
structure InstructionModule where
  programId : ProgramId
  instruction : Instruction
  argumentTypes : List CrateType
  bindings : List Binding
deriving DecidableEq

/-- The module of an instruction of a program. -/
def InstructionModule.of (nested : Bool) (program : Program) (instruction : Instruction) :
    Except RenderError InstructionModule := do
  let context := s!"instructions/{instruction.name}"
  let types ← instruction.arguments.mapM fun argument =>
    CrateType.of ⟨nested, some program⟩ s!"{context}/arguments/{argument.name}" argument.type
  let bound ← Bindery.bindings program (Signature.of instruction) context
  return ⟨ProgramId.of nested program, instruction, types, bound⟩

namespace InstructionModule

/-- The type of an input: that of the first argument of its name; accounts are
    addresses. -/
def inputType (module : InstructionModule) : Input → CrateType
  | .account _ => .address
  | .argument name =>
    match (module.instruction.arguments.zip module.argumentTypes).find? (·.1.name = name) with
    | some (_, type) => type
    | none => .bytes

/-- Whether a local of the builder is an option: that of an account that may be left out,
    or of an argument that is an option. -/
def isOptional (module : InstructionModule) : Input → Bool
  | .account name => (module.instruction.account? name).any (·.isOptional)
  | .argument name => (module.instruction.inputType (.argument name)).isOption

end InstructionModule

-- ── modules ──────────────────────────────────────────────────────────────────────

/-- A generated module. -/
inductive Module where
  | programs (program address : String)
  | account (module : AccountModule)
  | instruction (module : InstructionModule)
  | errors (name : Name) (errors : List ProgramError)
  | type (declaration : Declaration)
  | index (children : List String) (reexported : Bool)
deriving DecidableEq

/-- The module of the errors of a program. The name of their type is not sanitized, so it
    has to be an identifier. -/
def Module.ofErrors (program : Program) : Except RenderError Module :=
  let name := Text.upperCamelCase program.name ++ "Error"
  if isIdentifier name then .ok (.errors ⟨name, false⟩ program.errors)
  else .error (.invalidIdentifier name)

/-- The types that a declaration is made of. -/
def Shape.types : Shape → List CrateType
  | .struct fields => fields.map (·.type)
  | .enum _ variants => variants.flatMap fun variant =>
    match variant.body with
    | .data fields => fields.map (·.type)
    | .unit | .discriminant _ => []
  | .alias type => [type]

/-- The types that the declarations of a module are made of. -/
def Module.types : Module → List CrateType
  | .account module => module.fields.map (·.type)
  | .instruction module => module.argumentTypes
  | .type declaration => declaration.shape.types
  | .programs _ _ | .errors _ _ | .index _ _ => []

/-- Whether a module uses the path of the mounted tree in an expression: that of the id
    of its program. -/
def Module.hasMountedExpression : Module → Bool
  | .instruction _ => true
  | _ => false

/-- How the path of the mounted tree is read at the places where a module uses it. -/
def Module.standings (mount : ModulePath) (module : Module) : List Standing :=
  (if module.types.any (·.isMounted) then [mount.inTypes] else [])
    ++ (if module.hasMountedExpression then [mount.inExpressions] else [])

end Bindery.Crate
