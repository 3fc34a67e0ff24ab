import Bindery.Package.Type
import Bindery.Render.Bindings

/-!
# Modules of a generated package

What each generated TypeScript module declares, as data.

* **`Declaration`** — the type of a struct, an enum, a union of variants with data, or
  another name of a type, each with its codec.
* **`AccountModule`** — the type of an account, its tag and the seeds of its address.
* **`InstructionModule`** — an instruction with types and codecs for its arguments, and
  what its call builder binds.
* **`Module`** — any of these, the constants of a program, its errors, or an index.
-/

namespace Bindery.Package

-- ── declared types ───────────────────────────────────────────────────────────────

/-- A member of an object. -/
structure Field where
  docs : List String
  key : String
  type : PackageType
  codec : Codec
deriving DecidableEq

/-- The member for a field. Its type and its codec are looked for in contexts of their
    own. -/
def Field.of (scope : Scope) (typeContext codecContext : String) (docs : List String)
    (name : String) (type : TypeNode) : Except RenderError Field := do
  let found ← PackageType.of scope s!"{typeContext}/{name}" type
  let codec ← Codec.of scope s!"{codecContext}/{name}" type
  return ⟨docs, Text.camelCase name, found, codec⟩

/-- The members for the fields of a node. -/
def fieldsOf (scope : Scope) (typeContext codecContext : String) (fields : List StructField) :
    Except RenderError (List Field) :=
  fields.mapM fun field => Field.of scope typeContext codecContext field.docs field.name field.type

/-- A variant of a union; without data it has no codec of its own. -/
structure Variant where
  name : String
  fields : Option (List Field)
deriving DecidableEq

/-- The shapes of declared types. -/
inductive Shape where
  | struct (fields : List Field)
  | enum (members : List (String × Option UInt64))
  | union (variants : List Variant)
  | alias (type : PackageType) (codec : Codec)
deriving DecidableEq

/-- A declared type. -/
structure Declaration where
  docs : List String
  name : String
  shape : Shape
deriving DecidableEq

/-- The shape of an enum. Without data every member shows the discriminant it says; with
    data no variant may say one. -/
def Shape.ofVariants (scope : Scope) (context : String) (variants : List EnumVariant) :
    Except RenderError Shape := do
  if variants.all (·.fields.isNone) then
    return .enum (variants.map fun v => (Text.upperCamelCase v.name, v.discriminant))
  if variants.any (·.discriminant.isSome) then
    throw (.unsupported context .discriminantBesideData)
  let all ← variants.mapM fun v => do
    let fields ← v.fields.mapM fun fields =>
      fieldsOf scope context s!"{context}/{v.name}" fields
    return Variant.mk (Text.upperCamelCase v.name) fields
  return .union all

/-- The shape of a defined type. -/
def Shape.of (scope : Scope) (context : String) : TypeNode → Except RenderError Shape
  | .struct fields => do return .struct (← fieldsOf scope context context fields)
  | .enum variants => ofVariants scope context variants
  | other => do
    return .alias (← PackageType.of scope context other) (← Codec.of scope context other)

/-- The declaration of a defined type. -/
def Declaration.of (scope : Scope) (defined : DefinedType) : Except RenderError Declaration := do
  let shape ← Shape.of scope s!"types/{defined.name}" defined.type
  return ⟨defined.docs, Text.upperCamelCase defined.name, shape⟩

-- ── constants ────────────────────────────────────────────────────────────────────

/-- The constant of a tag, and where its bytes start and end. Positions are words of 64
    bits. -/
structure TagConstant where
  name : String
  bytes : List UInt8
  start : UInt64
  stop : UInt64
deriving DecidableEq

/-- The constant of the tag of a node. -/
def TagConstant.of (node : String) (tag : Discriminator) : TagConstant where
  name := Text.shoutyCase node ++ "_DISCRIMINATOR"
  bytes := tag.encoded
  start := tag.offset
  stop := tag.offset + UInt64.ofNat tag.size

/-- The constant of the address of a program. -/
def addressConstant (program : String) : String := Text.shoutyCase program ++ "_PROGRAM_ADDRESS"

-- ── accounts ─────────────────────────────────────────────────────────────────────

/-- How a parameter becomes the bytes of a seed: it is bytes already, it is encoded as
    text, or by the codec of its type. -/
inductive SeedEncoding where
  | raw
  | utf8
  | codec (codec : Codec)
deriving DecidableEq

/-- The encoding of a seed of a type. -/
def SeedEncoding.of (scope : Scope) (context : String) : TypeNode → Except RenderError SeedEncoding
  | .string => .ok .utf8
  | .bytes => .ok .raw
  | .fixedSize _ _ => .ok .raw
  | other => do return .codec (← Codec.of scope context other)

/-- A seed of a derived address. -/
inductive SeedPart where
  | text (text : String)
  | bytes (bytes : List UInt8)
  | programId
  | parameter (key : String) (type : PackageType) (encoding : SeedEncoding)
deriving DecidableEq

/-- The seed for a seed of a recipe. -/
def SeedPart.of (scope : Scope) (context : String) : Seed → Except RenderError SeedPart
  | .constant (.utf8 value) => .ok (.text value)
  | .constant (.bytes raw) => .ok (.bytes raw)
  | .constant .programId => .ok .programId
  | .variable seed => do
    let context := s!"{context}/seeds/{seed.name}"
    let type ← PackageType.of scope context seed.type
    return .parameter (Text.camelCase seed.name) type (← SeedEncoding.of scope context seed.type)

/-- The module of an account. `title` is its name in comments. -/
structure AccountModule where
  title : String
  programAddress : String
  tag : Option TagConstant
  docs : List String
  name : String
  fields : List Field
  seeds : Option (List SeedPart)
deriving DecidableEq

/-- The module of an account of a program. -/
def AccountModule.of (nested : Bool) (program : Program) (account : Account) :
    Except RenderError AccountModule := do
  let scope : Scope := ⟨nested, some program⟩
  let context := s!"accounts/{account.name}"
  let fields ← fieldsOf scope context context account.fields
  let seeds ← account.seeds.mapM fun seeds => seeds.mapM (SeedPart.of scope context)
  return {
    title := account.name
    programAddress := addressConstant program.name
    tag := account.discriminator.map (TagConstant.of account.name)
    docs := account.docs
    name := Text.upperCamelCase account.name
    fields := fields
    seeds := seeds }

-- ── instructions ─────────────────────────────────────────────────────────────────

/-- The key of an argument of an instruction. One that would be named like an account gets
    an ending. -/
def argumentKey (instruction : Instruction) (name : String) : String :=
  let camel := Text.camelCase name
  if instruction.accounts.any (Text.camelCase ·.name = camel) then camel ++ "Arg" else camel

/-- The key of an input of an instruction. -/
def inputKey (instruction : Instruction) : Input → String
  | .account name => Text.camelCase name
  | .argument name => argumentKey instruction name

/-- The module of an instruction: the instruction with a member for every argument, and
    the bindings of its call builder. -/
structure InstructionModule where
  programAddress : String
  instruction : Instruction
  fields : List Field
  bindings : List Binding
deriving DecidableEq

/-- The module of an instruction of a program. -/
def InstructionModule.of (nested : Bool) (program : Program) (instruction : Instruction) :
    Except RenderError InstructionModule := do
  let context := s!"instructions/{instruction.name}"
  let fields ← instruction.arguments.mapM fun argument =>
    Field.of ⟨nested, some program⟩ s!"{context}/arguments" context argument.docs argument.name
      argument.type
  let bound ← Bindery.bindings program (Signature.of instruction) context
  return ⟨addressConstant program.name, instruction, fields, bound⟩

-- ── modules ──────────────────────────────────────────────────────────────────────

/-- The names under which a program and its errors are declared. -/
structure ErrorsModule where
  constants : List String
  type : String
  messages : String
  errors : List ProgramError
deriving DecidableEq

/-- The module of the errors of a program. -/
def ErrorsModule.of (program : Program) : ErrorsModule :=
  let stem := Text.shoutyCase program.name ++ "_ERROR__"
  { constants := program.errors.map fun error => stem ++ Text.shoutyCase error.name
    type := Text.upperCamelCase program.name ++ "Error"
    messages := Text.camelCase program.name ++ "ErrorMessages"
    errors := program.errors }

/-- A generated module. -/
inductive Module where
  | programs (constant address : String)
  | account (module : AccountModule)
  | instruction (module : InstructionModule)
  | errors (module : ErrorsModule)
  | type (declaration : Declaration)
  | index (children : List String) (namespaced : Bool)
deriving DecidableEq

end Bindery.Package
