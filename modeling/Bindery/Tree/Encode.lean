import Bindery.Json.Basic
import Bindery.Tree.Basic

/-!
# Trees as JSON

The JSON form of every node. A value with a kind starts with the member `kind`; lists of
docs that are empty, and optional parts that are absent, are left out.
-/

namespace Bindery

namespace Json

/-- A member that is left out when there is nothing to write. -/
def optionalMember {α : Type} (key : String) (encode : α → Json) :
    Option α → List (String × Json)
  | none => []
  | some a => [(key, encode a)]

/-- The member for docs, left out when there are none. -/
def docsMember : List String → List (String × Json)
  | [] => []
  | docs => [("docs", strings docs)]

/-- Bytes as a list of numbers. -/
def bytes (bytes : List UInt8) : Json := .array (bytes.map fun b => nat b.toNat)

end Json

open Json (nat word optionalMember docsMember)

/-- A format is written by its name. -/
def NumberFormat.encode (format : NumberFormat) : Json := .string format.name

namespace TypeNode

mutual

/-- The JSON form of a type. -/
def encode : TypeNode → Json
  | .number format => .object [("kind", .string "number"), ("format", format.encode)]
  | .boolean => .object [("kind", .string "boolean")]
  | .publicKey => .object [("kind", .string "publicKey")]
  | .string => .object [("kind", .string "string")]
  | .bytes => .object [("kind", .string "bytes")]
  | .fixedSize inner size =>
    .object [("kind", .string "fixedSize"), ("type", inner.encode), ("size", word size)]
  | .option item => .object [("kind", .string "option"), ("item", item.encode)]
  | .array item count =>
    .object ([("kind", .string "array"), ("item", item.encode)]
      ++ optionalMember "count" word count)
  | .struct fields =>
    .object [("kind", .string "struct"), ("fields", .array (encodeFields fields))]
  | .enum variants =>
    .object [("kind", .string "enum"), ("variants", .array (encodeVariants variants))]
  | .link name => .object [("kind", .string "link"), ("name", .string name)]

/-- The JSON forms of fields. -/
def encodeFields : List StructField → List Json
  | [] => []
  | ⟨name, type, docs⟩ :: fields =>
    .object ([("name", .string name), ("type", type.encode)] ++ docsMember docs)
      :: encodeFields fields

/-- The JSON forms of variants. -/
def encodeVariants : List EnumVariant → List Json
  | [] => []
  | ⟨name, discriminant, none⟩ :: variants =>
    .object ([("name", .string name)] ++ optionalMember "discriminant" word discriminant)
      :: encodeVariants variants
  | ⟨name, discriminant, some fields⟩ :: variants =>
    .object ([("name", .string name)] ++ optionalMember "discriminant" word discriminant
        ++ [("fields", .array (encodeFields fields))])
      :: encodeVariants variants

end

end TypeNode

/-- The JSON form of a tag's value. -/
def DiscriminatorValue.encode : DiscriminatorValue → Json
  | .number format value =>
    .object [("kind", .string "number"), ("format", format.encode), ("value", word value)]
  | .bytes raw => .object [("kind", .string "bytes"), ("bytes", Json.bytes raw)]

/-- The JSON form of a tag. -/
def Discriminator.encode (d : Discriminator) : Json :=
  .object [("value", d.value.encode), ("offset", word d.offset)]

/-- The JSON form of a reference to an input. -/
def Input.encode : Input → Json
  | .account name => .object [("kind", .string "account"), ("name", .string name)]
  | .argument name => .object [("kind", .string "argument"), ("name", .string name)]

/-- A literal is an object with one member, named for what the literal is. -/
def Literal.encode : Literal → Json
  | .number value => .object [("number", .number (.int value.toInt))]
  | .boolean value => .object [("boolean", .bool value)]
  | .string value => .object [("string", .string value)]
  | .publicKey address => .object [("publicKey", .string address)]
  | .bytes raw => .object [("bytes", Json.bytes raw)]

/-- The JSON form of a seed binding. -/
def SeedBinding.encode (binding : SeedBinding) : Json :=
  .object [("seed", .string binding.seed), ("value", binding.value.encode)]

/-- The JSON form of a default value. -/
def DefaultValue.encode : DefaultValue → Json
  | .pda owner seeds =>
    .object [("kind", .string "pda"), ("account", .string owner),
      ("seeds", .array (seeds.map SeedBinding.encode))]
  | .account name => .object [("kind", .string "account"), ("name", .string name)]
  | .argument name => .object [("kind", .string "argument"), ("name", .string name)]
  | .absent => .object [("kind", .string "absent")]
  | .programId => .object [("kind", .string "programId")]
  | .literal value => .object [("kind", .string "literal"), ("value", value.encode)]

/-- A constant seed is an object with one member; the program id is a bare text. -/
def ConstantSeed.encode : ConstantSeed → Json
  | .utf8 text => .object [("utf8", .string text)]
  | .bytes raw => .object [("bytes", Json.bytes raw)]
  | .programId => .string "programId"

/-- The members of a variable seed. -/
def VariableSeed.members (seed : VariableSeed) : List (String × Json) :=
  [("name", .string seed.name), ("type", seed.type.encode)] ++ docsMember seed.docs

/-- The JSON form of a seed. -/
def Seed.encode : Seed → Json
  | .constant value => .object [("kind", .string "constant"), ("value", value.encode)]
  | .variable seed => .object (("kind", .string "variable") :: seed.members)

/-- The JSON form of a defined type. -/
def DefinedType.encode (defined : DefinedType) : Json :=
  .object ([("name", .string defined.name), ("type", defined.type.encode)]
    ++ docsMember defined.docs)

/-- The JSON form of an error. -/
def ProgramError.encode (error : ProgramError) : Json :=
  .object ([("code", nat error.code.toNat), ("name", .string error.name),
    ("message", .string error.message)] ++ docsMember error.docs)

/-- The JSON form of an account. -/
def Account.encode (account : Account) : Json :=
  .object ([("name", .string account.name)] ++ docsMember account.docs
    ++ [("fields", .array (TypeNode.encodeFields account.fields))]
    ++ optionalMember "discriminator" Discriminator.encode account.discriminator
    ++ optionalMember "seeds" (fun seeds => .array (seeds.map Seed.encode)) account.seeds)

/-- The JSON form of an instruction account. -/
def InstructionAccount.encode (account : InstructionAccount) : Json :=
  .object ([("name", .string account.name), ("isWritable", .bool account.isWritable),
      ("isSigner", .bool account.isSigner), ("isOptional", .bool account.isOptional)]
    ++ docsMember account.docs
    ++ optionalMember "defaultValue" DefaultValue.encode account.defaultValue)

/-- The JSON form of an instruction argument. -/
def InstructionArgument.encode (argument : InstructionArgument) : Json :=
  .object ([("name", .string argument.name), ("type", argument.type.encode)]
    ++ docsMember argument.docs
    ++ optionalMember "defaultValue" DefaultValue.encode argument.defaultValue)

/-- The JSON form of an instruction. -/
def Instruction.encode (instruction : Instruction) : Json :=
  .object ([("name", .string instruction.name)] ++ docsMember instruction.docs
    ++ [("accounts", .array (instruction.accounts.map InstructionAccount.encode)),
      ("arguments", .array (instruction.arguments.map InstructionArgument.encode))]
    ++ optionalMember "discriminator" Discriminator.encode instruction.discriminator)

/-- The JSON form of a program. -/
def Program.encode (program : Program) : Json :=
  .object ([("name", .string program.name), ("publicKey", .string program.publicKey),
      ("version", .string program.version)]
    ++ docsMember program.docs
    ++ [("accounts", .array (program.accounts.map Account.encode)),
      ("instructions", .array (program.instructions.map Instruction.encode)),
      ("definedTypes", .array (program.definedTypes.map DefinedType.encode)),
      ("errors", .array (program.errors.map ProgramError.encode))])

/-- The JSON form of a tree; shared types are left out when there are none. -/
def Tree.encode (tree : Tree) : Json :=
  .object ([("programs", .array (tree.programs.map Program.encode))]
    ++ match tree.sharedTypes with
      | [] => []
      | shared => [("sharedTypes", .array (shared.map DefinedType.encode))])

end Bindery
