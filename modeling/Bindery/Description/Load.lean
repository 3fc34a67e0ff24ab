import Bindery.Description.Basic
import Bindery.FileSystem

/-!
# Loading interface descriptions

Documents in, one tree out. The first document is the primary program, every later one
adds a program. Loading is all or nothing.

* **`TypeExpr.toType`** — the type that an expression stands for.
* **`Description.toProgram`** — the program that a document describes.
* **`Tree.load`** — the tree of a list of documents.

A program that loads has distinct names in every scope, names that fit in a path, tags
that distinguish its instructions, and no link to a type it does not define.
-/

namespace Bindery

/-- The kinds of names a document declares. -/
inductive Role where
  | program | type | account | instruction | instructionAccount | instructionArgument | error
deriving DecidableEq

/-- A role as it is named in messages. -/
def Role.describe : Role → String
  | .program => "program"
  | .type => "type"
  | .account => "account"
  | .instruction => "instruction"
  | .instructionAccount => "instruction account"
  | .instructionArgument => "instruction argument"
  | .error => "error"

/-- The scopes in which a name must not be declared twice. -/
inductive NameScope where
  | accounts | instructions | types | errors
  | accountsOf (instruction : String)
  | argumentsOf (instruction : String)
deriving DecidableEq

/-- What a name of a scope is called in messages. -/
def NameScope.describe : NameScope → String
  | .accounts => "account"
  | .instructions => "instruction"
  | .types => "type"
  | .errors => "error"
  | .accountsOf instruction => s!"account in instruction `{instruction}`"
  | .argumentsOf instruction => s!"argument in instruction `{instruction}`"

/-- Why a document describes no program. -/
inductive Malformation where
  | undecodable (fault : Fault)
  | missingName
  | missingAddress
  | invalidName (role : Role) (name : String)
  | notAStruct (account : String)
  | noLayout (account : String)
  | unknownType (name : String)
  | nestedGroup (instruction account : String)
  | invalidDiscriminant (instruction : String) (discriminant : Description.Discriminant)
  | duplicateName (scope : NameScope) (name : String)
  | sharedDiscriminator (first second : String) (tag : Discriminator)
  | undefinedType (name : String)
  | repeatedProgram (name : String)
deriving DecidableEq

/-- The wording of a malformation. -/
def Malformation.message : Malformation → String
  | .undecodable fault => fault.message
  | .missingName => "missing program name"
  | .missingAddress => "missing program address"
  | .invalidName role name => s!"invalid {role.describe} name `{name}`"
  | .notAStruct account => s!"account `{account}` must be a struct"
  | .noLayout account => s!"account `{account}` has no layout"
  | .unknownType name => s!"unknown type `{name}`"
  | .nestedGroup instruction account =>
    s!"instruction `{instruction}` uses a nested account group `{account}`"
  | .invalidDiscriminant instruction ⟨type, value⟩ =>
    s!"instruction `{instruction}` has an invalid discriminant {value} of type `{type}`"
  | .duplicateName scope name => s!"duplicate {scope.describe} `{name}`"
  | .sharedDiscriminator first second tag =>
    s!"instructions `{first}` and `{second}` share discriminator {tag.text}"
  | .undefinedType name => s!"type `{name}` is referenced but never defined"
  | .repeatedProgram name => s!"program name `{name}` is declared by another document"

/-- The type that a primitive names. -/
def TypeExpr.primitive? (name : String) : Option TypeNode :=
  match name with
  | "bool" => some .boolean
  | "string" => some .string
  | "bytes" => some .bytes
  | "publicKey" => some .publicKey
  | "pubkey" => some .publicKey
  | _ => (NumberFormat.ofName? name).map .number

/-- The type of an array with a fixed count; an array of bytes is one run of bytes. -/
def TypeNode.sized (item : TypeNode) (size : UInt64) : TypeNode :=
  match item with
  | .number .u8 => .fixedSize .bytes size
  | item => .array item (some size)

/-- The type that an expression stands for. -/
def TypeExpr.toType : TypeExpr → Except Malformation TypeNode
  | .primitive name =>
    match TypeExpr.primitive? name with
    | some type => .ok type
    | none => .error (.unknownType name)
  | .defined name => .ok (.link name)
  | .option item => do return .option (← item.toType)
  | .vec item => do return .array (← item.toType) none
  | .array item size => do return TypeNode.sized (← item.toType) size

namespace Description

/-- A declared name must fit in a path. -/
def checkName (role : Role) (name : String) : Except Malformation Unit :=
  if NodePath.ValidName name then .ok () else .error (.invalidName role name)

/-- The fields that field declarations stand for. -/
def Field.toStructField (field : Field) : Except Malformation StructField := do
  return ⟨field.name, ← field.type.toType, field.docs⟩

/-- The fields of a variant; types by position are named by their positions. -/
def Payload.toFields : Payload → Except Malformation (List StructField)
  | .named fields => fields.mapM Field.toStructField
  | .tuple types =>
    types.zipIdx.mapM fun (type, position) => do return ⟨toString position, ← type.toType, []⟩

/-- The variant that a declaration stands for. -/
def Variant.toVariant (variant : Variant) : Except Malformation EnumVariant := do
  let fields ← match variant.payload with
    | none => Except.ok none
    | some payload => (payload.toFields).map some
  return ⟨variant.name, variant.discriminant, fields⟩

/-- The type that a layout stands for. -/
def Layout.toType : Layout → Except Malformation TypeNode
  | .struct fields => do return .struct (← fields.mapM Field.toStructField)
  | .enum variants => do return .enum (← variants.mapM Variant.toVariant)

/-- The defined type that a definition stands for. -/
def TypeDef.toDefinedType (definition : TypeDef) : Except Malformation DefinedType := do
  checkName .type definition.name
  return ⟨definition.name, ← definition.layout.toType, definition.docs⟩

/-- The fields of an account layout. -/
def accountFields (account : String) : Layout → Except Malformation (List StructField)
  | .struct fields => fields.mapM Field.toStructField
  | .enum _ => .error (.notAStruct account)

/-- The account that a declaration stands for. Without a layout of its own it takes that
    of the first definition of its name. -/
def AccountDef.toAccount (types : List TypeDef) (account : AccountDef) :
    Except Malformation Account := do
  checkName .account account.name
  let layout ← match account.layout with
    | some layout => Except.ok layout
    | none =>
      match types.find? (·.name = account.name) with
      | some definition => Except.ok definition.layout
      | none => Except.error (.noLayout account.name)
  let fields ← accountFields account.name layout
  let tag := account.discriminator.map fun raw => ⟨.bytes raw, 0⟩
  return ⟨account.name, account.docs, fields, tag, none⟩

/-- The instruction account that a declaration stands for; a remark is one more doc. -/
def AccountItem.toAccount (instruction : String) (item : AccountItem) :
    Except Malformation InstructionAccount := do
  checkName .instructionAccount item.name
  if item.isGroup then throw (.nestedGroup instruction item.name)
  return ⟨item.name, item.isWritable, item.isSigner, item.isOptional,
    item.docs ++ item.remark.toList, none⟩

/-- The instruction argument that a declaration stands for. -/
def Field.toArgument (field : Field) : Except Malformation InstructionArgument := do
  checkName .instructionArgument field.name
  return ⟨field.name, ← field.type.toType, field.docs, none⟩

/-- The tag of an instruction. A number must fit the unsigned format it names; it wins
    over raw bytes. -/
def InstructionDef.tag (instruction : InstructionDef) :
    Except Malformation (Option Discriminator) :=
  match instruction.discriminant, instruction.discriminator with
  | some discriminant, _ =>
    match NumberFormat.ofName? discriminant.type with
    | some format =>
      if (format.encodeUnsigned discriminant.value).isSome then
        .ok (some ⟨.number format discriminant.value, 0⟩)
      else .error (.invalidDiscriminant instruction.name discriminant)
    | none => .error (.invalidDiscriminant instruction.name discriminant)
  | none, some raw => .ok (some ⟨.bytes raw, 0⟩)
  | none, none => .ok none

/-- The instruction that a declaration stands for. -/
def InstructionDef.toInstruction (instruction : InstructionDef) :
    Except Malformation Instruction := do
  checkName .instruction instruction.name
  let accounts ← instruction.accounts.mapM (AccountItem.toAccount instruction.name)
  let arguments ← instruction.arguments.mapM Field.toArgument
  return ⟨instruction.name, instruction.docs, accounts, arguments, ← instruction.tag⟩

/-- The error that a declaration stands for. -/
def ErrorDef.toError (error : ErrorDef) : Except Malformation ProgramError := do
  checkName .error error.name
  return ⟨error.code, error.name, error.message.getD "", []⟩

end Description

-- ── what a loaded program guarantees ─────────────────────────────────────────────

/-- The first entry of a list that equals an earlier one. -/
def firstRepeated {α : Type} [DecidableEq α] : (seen : List α) → List α → Option α
  | _, [] => none
  | seen, a :: rest => if a ∈ seen then some a else firstRepeated (a :: seen) rest

namespace Program

/-- The names of a scope must be distinct. -/
def checkDistinct (scope : NameScope) (names : List String) : Except Malformation Unit :=
  match firstRepeated [] names with
  | some name => .error (.duplicateName scope name)
  | none => .ok ()

/-- The first two instructions that share a tag, among those seen and those to come. -/
def checkTags : (seen : List (UInt64 × List UInt8 × String)) → List Instruction →
    Except Malformation Unit
  | _, [] => .ok ()
  | seen, instruction :: rest =>
    match instruction.discriminator with
    | none => checkTags seen rest
    | some tag =>
      match seen.find? fun s => s.1 = tag.offset ∧ s.2.1 = tag.encoded with
      | some (_, _, first) => .error (.sharedDiscriminator first instruction.name tag)
      | none => checkTags ((tag.offset, tag.encoded, instruction.name) :: seen) rest

/-- The links of a program in accounts, instructions and defined types. -/
def links (program : Program) : List String :=
  program.accounts.flatMap (fun a => a.fields.flatMap (·.type.links))
    ++ program.instructions.flatMap (fun i => i.arguments.flatMap (·.type.links))
    ++ program.definedTypes.flatMap (·.type.links)

/-- Names are distinct per scope, tags distinguish the instructions, and every link
    names a defined type. -/
def validate (program : Program) : Except Malformation Unit := do
  checkDistinct .accounts (program.accounts.map (·.name))
  checkDistinct .instructions (program.instructions.map (·.name))
  checkDistinct .types (program.definedTypes.map (·.name))
  checkDistinct .errors (program.errors.map (·.name))
  program.instructions.forM fun instruction => do
    checkDistinct (.accountsOf instruction.name) (instruction.accounts.map (·.name))
    checkDistinct (.argumentsOf instruction.name) (instruction.arguments.map (·.name))
  checkTags [] program.instructions
  match program.links.find? fun name => !program.defines name with
  | some name => throw (.undefinedType name)
  | none => return

end Program

/-- The program that a description stands for. Its name, address and version may stand at
    the top or in the metadata; the top wins. -/
def Description.toProgram (description : Description) : Except Malformation Program := do
  let some name := description.name <|> description.metadata.name
    | throw .missingName
  let some address := description.address <|> description.metadata.address
    | throw .missingAddress
  let version := (description.version <|> description.metadata.version).getD ""
  checkName .program name
  let types ← description.types.mapM TypeDef.toDefinedType
  let accounts ← description.accounts.mapM (AccountDef.toAccount description.types)
  let instructions ← description.instructions.mapM InstructionDef.toInstruction
  let errors ← description.errors.mapM ErrorDef.toError
  let program : Program :=
    ⟨name, address, version, description.docs, accounts, instructions, types, errors⟩
  program.validate
  return program

-- ── documents ────────────────────────────────────────────────────────────────────

/-- A document and the label it has in messages. -/
structure Document where
  label : String
  text : String
deriving DecidableEq

/-- Why documents do not load. -/
inductive LoadError where
  | unreadable (path : String) (fault : FileFault)
  | noDocuments
  | malformed (document : String) (reason : Malformation)
  | duplicateAddress (address first second : String)
deriving DecidableEq

/-- The wording of a load error. -/
def LoadError.message : LoadError → String
  | .unreadable path fault => s!"IO error at {path}: {fault.message}"
  | .noDocuments => "No interface description documents were provided"
  | .malformed document reason =>
    s!"Malformed interface description `{document}`: {reason.message}"
  | .duplicateAddress address first second =>
    s!"Duplicate program address `{address}`: declared by both `{first}` and `{second}`"

/-- The program of a document. -/
def Document.program (document : Document) : Except Malformation Program := do
  let description ← (Decode.text Description.decode document.text).mapError .undecodable
  description.toProgram

/-- Load documents behind programs that are already loaded. An address is compared
    before a name. -/
def Tree.loadAfter : (loaded : List Program) → List Document → Except LoadError (List Program)
  | loaded, [] => .ok loaded
  | loaded, document :: documents => do
    let program ← document.program.mapError (.malformed document.label)
    match loaded.find? (·.publicKey = program.publicKey) with
    | some first => throw (.duplicateAddress program.publicKey first.name program.name)
    | none =>
      if loaded.any (·.name = program.name) then
        throw (.malformed document.label (.repeatedProgram program.name))
      loadAfter (loaded ++ [program]) documents

/-- Merge documents into one tree. -/
def Tree.load (documents : List Document) : Except LoadError Tree :=
  match documents with
  | [] => .error .noDocuments
  | _ :: _ => do return ⟨← loadAfter [] documents, []⟩

end Bindery
