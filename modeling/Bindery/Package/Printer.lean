import Bindery.Package.Module

/-!
# The source of generated modules

* **`Module.text`** — the text of a module, with its imports in front.
-/

namespace Bindery.Package

/-- A function without parameters that returns an expression. -/
def codecFunction (type : String) (codec : Source) : Source :=
  "export function " ++ Codec.functionName type ++ "() \x7b\n  return " ++ codec ++ ";\n\x7d\n"

/-- The members of an object type, each on a line of its own. -/
def memberLines (fields : List Field) : Source :=
  Source.join (fields.map fun field =>
    (docBlock "  " field.docs ++ "  " ++ field.key ++ ": " : String) ++ field.type.source ++ ";\n")

/-- An object type. -/
def objectType (name : String) (fields : List Field) : Source :=
  "export type " ++ name ++ " = \x7b\n" ++ memberLines fields ++ "\x7d;\n\n"

/-- The codec of an object. -/
def structCodec (fields : List Field) : Source :=
  match fields with
  | [] => kit "getStructCodec" ++ "([])"
  | fields =>
    kit "getStructCodec" ++ "([\n" ++ Source.join (fields.map fun field =>
      ("    ['" ++ field.key ++ "', " : String) ++ field.codec.source ++ "],\n") ++ "  ])"

-- ── declared types ───────────────────────────────────────────────────────────────

/-- A member of an enum. -/
def memberLine (member : String × Option UInt64) : String :=
  match member with
  | (name, some value) => "  " ++ name ++ " = " ++ toString value ++ ",\n"
  | (name, none) => "  " ++ name ++ ",\n"

/-- The object type of a variant; its member `__kind` tells which variant it is. -/
def Variant.line (variant : Variant) : Source :=
  let kind : Source := "__kind: '" ++ variant.name ++ "'"
  let members := (variant.fields.getD []).map fun field =>
    (field.key ++ ": " : Source) ++ field.type.source
  "  | " ++ braced (.intercalate "; " (kind :: members)) ++ "\n"

/-- The codec of a variant. -/
def Variant.codec (variant : Variant) : Source :=
  let codec := match variant.fields with
    | some fields => structCodec fields
    | none => kit "getUnitCodec" ++ "()"
  ("    ['" ++ variant.name ++ "', " : String) ++ codec ++ "],"

/-- A declared type and its codec. -/
def Declaration.source (declaration : Declaration) : Source :=
  let name := declaration.name
  (docBlock "" declaration.docs : Source) ++
    match declaration.shape with
    | .struct fields => objectType name fields ++ codecFunction name (structCodec fields)
    | .enum members =>
      "export enum " ++ name ++ " \x7b\n" ++ String.join (members.map memberLine) ++ "\x7d\n\n"
        ++ codecFunction name (kit "getEnumCodec" ++ "(" ++ name ++ ")")
    | .union variants =>
      "export type " ++ name ++ " =\n" ++ Source.join (variants.map (·.line)) ++ ";\n\n"
        ++ codecFunction name (kit "getDiscriminatedUnionCodec" ++ "([\n"
          ++ .intercalate "\n" (variants.map (·.codec)) ++ "\n  ])")
    | .alias type codec =>
      "export type " ++ name ++ " = " ++ type.source ++ ";\n\n" ++ codecFunction name codec.source

-- ── accounts ─────────────────────────────────────────────────────────────────────

/-- The constant of a tag. -/
def TagConstant.source (tag : TagConstant) : Source :=
  "export const " ++ tag.name ++ " = " ++ byteArray tag.bytes ++ ";\n\n"

/-- The function that reads an account. Its tag is compared and passed over first. -/
def decoder (name : String) (tag : Option TagConstant) : Source :=
  let body := match tag with
    | some tag =>
      let stop := toString tag.stop
      "  const discriminator = data.slice(" ++ toString tag.start ++ ", " ++ stop ++ ");\n"
        ++ "  if (discriminator.length !== " ++ tag.name
        ++ ".length || !discriminator.every((byte, i) => byte === " ++ tag.name ++ "[i])) \x7b\n"
        ++ "    throw new Error('Invalid " ++ name ++ " account discriminator');\n  \x7d\n"
        ++ "  return " ++ Codec.functionName name ++ "().decode(data.slice(" ++ stop ++ "));\n"
    | none => "  return " ++ Codec.functionName name ++ "().decode(data);\n"
  "export function decode" ++ name ++ "(data: " ++ kit "ReadonlyUint8Array" ++ "): " ++ name
    ++ " \x7b\n" ++ body ++ "\x7d\n"

/-- The parameter of a seed. -/
def SeedPart.parameter? : SeedPart → Option Source
  | .parameter key type _ => some ((key ++ ": " : String) ++ type.source)
  | .text _ | .bytes _ | .programId => none

/-- The bytes of a seed. -/
def SeedPart.source : SeedPart → Source
  | .text value => kit "getUtf8Encoder" ++ "().encode(" ++ stringLiteral value ++ ")"
  | .bytes raw => byteArray raw
  | .programId => kit "getAddressEncoder" ++ "().encode(programAddress)"
  | .parameter key _ encoding =>
    let value : String := "seeds." ++ key
    match encoding with
    | .raw => value
    | .utf8 => kit "getUtf8Encoder" ++ "().encode(" ++ value ++ ")"
    | .codec codec => codec.source ++ ".encode(" ++ value ++ ")"

/-- A constant of the `programs` module next to the directory of a module. -/
def programConstant (constant : String) : Source := .imported "../programs" constant

/-- The parameter for the address of the program. -/
def programParameter (constant : String) : Source :=
  "  programAddress: " ++ kit "Address" ++ " = " ++ programConstant constant ++ ",\n"

/-- The name of the function that derives the address of an account. -/
def finderName (account : String) : String := "find" ++ Text.upperCamelCase account ++ "Pda"

/-- The function that derives the address of an account. -/
def finder (module : AccountModule) (seeds : List SeedPart) : Source :=
  ("/** Derive the address of a `" ++ module.title ++ "` account. */\n" : Source)
    ++ "export async function " ++ finderName module.title ++ "(\n  seeds: "
    ++ braced (.intercalate "; " (seeds.filterMap SeedPart.parameter?)) ++ ",\n"
    ++ programParameter module.programAddress
    ++ "): Promise<" ++ kit "ProgramDerivedAddress" ++ "> \x7b\n"
    ++ "  return " ++ kit "getProgramDerivedAddress"
    ++ "(\x7b\n    programAddress,\n    seeds: [\n"
    ++ Source.join (seeds.map fun seed => ("      " : Source) ++ seed.source ++ ",\n")
    ++ "    ],\n  \x7d);\n\x7d\n"

/-- The module of an account. -/
def AccountModule.source (module : AccountModule) : Source :=
  let tag := match module.tag with
    | some tag => tag.source
    | none => .empty
  let derivation := match module.seeds with
    | some seeds => ("\n" : Source) ++ finder module seeds
    | none => .empty
  tag ++ docBlock "" module.docs ++ objectType module.name module.fields
    ++ codecFunction module.name (structCodec module.fields) ++ "\n"
    ++ decoder module.name module.tag ++ derivation

-- ── instructions ─────────────────────────────────────────────────────────────────

/-- A literal for a place of a type. Wide numbers are big integers. -/
def literalSource (type : TypeNode) : Literal → Source
  | .number value =>
    match type.unwrapOption with
    | .number format => toString value ++ if format.isWide then "n" else ""
    | _ => toString value
  | .boolean value => if value then "true" else "false"
  | .string value => stringLiteral value
  | .publicKey address => kit "address" ++ "(" ++ stringLiteral address ++ ")"
  | .bytes raw => byteArray raw

namespace InstructionModule

/-- The key and the local of an input. -/
def keyOf (module : InstructionModule) (input : Input) : String :=
  inputKey module.instruction input

/-- The name of the instruction's types and functions. -/
def name (module : InstructionModule) : String := Text.upperCamelCase module.instruction.name

/-- The name of the codec of the arguments. -/
def codecName (module : InstructionModule) : String := module.name ++ "InstructionData"

/-- The type of an input: that of the last argument of its name; accounts are
    addresses. -/
def inputType (module : InstructionModule) : Input → Source
  | .account _ => kit "Address"
  | .argument name =>
    let pairs := (module.instruction.arguments.zip module.fields).reverse
    match pairs.find? (·.1.name = name) with
    | some (_, field) => field.type.source
    | none => .empty

/-- Whether an input is an argument that is an option. -/
def wrapsOption (module : InstructionModule) : Input → Bool
  | .account _ => false
  | .argument name => (module.instruction.inputType (.argument name)).isOption

/-- The source of a default of an input. -/
def expressionSource (module : InstructionModule) (input : Input) : Expression → Source
  | .derived owner seeds =>
    let bound := seeds.map fun (seed, input) =>
      ((Text.camelCase seed.name ++ ": " ++ module.keyOf input : String) : Source)
    "(await " ++ Source.imported "../accounts" (finderName owner) ++ "("
      ++ braced (.intercalate ", " bound) ++ ", programAddress))[0]"
  | .account name => module.keyOf (.account name)
  | .argument name => module.keyOf (.argument name)
  | .absent => .empty
  | .programId => "programAddress"
  | .literal value => literalSource (module.instruction.inputType input) value

/-- The value of a local. -/
def originSource (module : InstructionModule) (input : Input) (origin : Origin) : Source :=
  let given : Source := "input." ++ module.keyOf input
  match origin with
  | .required => given
  | .optional => given
  | .default .absent =>
    if module.wrapsOption input then given ++ " ?? " ++ kit "none" ++ "()" else given
  | .default expression =>
    let value := module.expressionSource input expression
    if module.wrapsOption input then given ++ " ?? " ++ kit "some" ++ "(" ++ value ++ ")"
    else given ++ " ?? " ++ value

/-- A binding as a statement. -/
def bindingSource (module : InstructionModule) (bound : Binding) : Source :=
  ("  const " ++ module.keyOf bound.input ++ " = " : String)
    ++ module.originSource bound.input bound.origin ++ ";\n"

/-- What a signer and a writable account are called. -/
def roleName (account : InstructionAccount) : String :=
  match account.isWritable, account.isSigner with
  | true, true => "WRITABLE_SIGNER"
  | true, false => "WRITABLE"
  | false, true => "READONLY_SIGNER"
  | false, false => "READONLY"

/-- An address and its role. -/
def accountMeta (address role : String) : Source :=
  braced (("address: " ++ address ++ ", role: " : String) ++ kit "AccountRole" ++ "." ++ role)

/-- The entry of an account in a call. One that is left out is replaced by the program. -/
def accountSource (account : InstructionAccount) : Source :=
  let key := Text.camelCase account.name
  if account.isOptional then
    ("      " ++ key ++ " === undefined\n        ? " : String)
      ++ accountMeta "programAddress" "READONLY" ++ "\n        : "
      ++ accountMeta key (roleName account) ++ ",\n"
  else ("      " : Source) ++ accountMeta key (roleName account) ++ ",\n"

/-- The member of the argument object for an argument. -/
def argumentMember (module : InstructionModule) (argument : InstructionArgument) : String :=
  let key := Text.camelCase argument.name
  let bound := module.keyOf (.argument argument.name)
  if key = bound then key else key ++ ": " ++ bound

/-- The pieces of the data of a call in front of the arguments: blanks up to the tag, then
    the tag. -/
def dataStart (instruction : Instruction) : String :=
  match instruction.discriminator with
  | some tag =>
    let padding :=
      if tag.offset > 0 then "new Uint8Array(" ++ toString tag.offset ++ "), " else ""
    padding ++ (TagConstant.of instruction.name tag).name ++ ", "
  | none => ""

/-- The type of the object that a caller supplies. -/
def inputObject (module : InstructionModule) : Source :=
  let signature := Signature.of module.instruction
  let line (mark : String) (given : BuilderInput) : Source :=
    ("  " ++ module.keyOf given.input ++ mark : String) ++ module.inputType given.input ++ ";\n"
  "export type " ++ module.name ++ "Input = \x7b\n"
    ++ Source.join (signature.required.map (line ": "))
    ++ Source.join ((signature.defaulted ++ signature.optional).map (line "?: ")) ++ "\x7d;\n\n"

/-- The call builder. -/
def builder (module : InstructionModule) : Source :=
  let instruction := module.instruction
  let members := ", ".intercalate (instruction.arguments.map module.argumentMember)
  ("export async function get" ++ module.name ++ "Instruction(\n  input: " ++ module.name
      ++ "Input,\n" : String)
    ++ programParameter module.programAddress
    ++ "): Promise<" ++ kit "Instruction" ++ "> \x7b\n"
    ++ Source.join (module.bindings.map module.bindingSource)
    ++ "  return \x7b\n    programAddress,\n    accounts: [\n"
    ++ Source.join (instruction.accounts.map accountSource)
    ++ "    ],\n    data: " ++ kit "mergeBytes" ++ "([" ++ dataStart instruction
    ++ Codec.functionName module.codecName ++ "().encode(" ++ braced members ++ ")]),\n  \x7d;\n\x7d\n"

/-- The module of an instruction. -/
def source (module : InstructionModule) : Source :=
  let instruction := module.instruction
  let tag := match instruction.discriminator with
    | some tag => (TagConstant.of instruction.name tag).source
    | none => .empty
  Source.needing kitModule "AccountRole" (tag
    ++ objectType module.codecName module.fields
    ++ codecFunction module.codecName (structCodec module.fields) ++ "\n"
    ++ module.inputObject ++ docBlock "" instruction.docs ++ module.builder)

end InstructionModule

-- ── modules ──────────────────────────────────────────────────────────────────────

/-- The constant of a program's address. -/
def programSource (constant address : String) : Source :=
  let key := stringLiteral address
  ("export const " ++ constant ++ " = " ++ key ++ " as " : String) ++ kit "Address"
    ++ "<" ++ key ++ ">;\n"

/-- The errors of a program: a constant for each, their type, and their messages. -/
def ErrorsModule.source (module : ErrorsModule) : Source :=
  let pairs := module.constants.zip module.errors
  let constants := pairs.map fun (constant, error) =>
    "/** " ++ error.name ++ ": " ++ commentLine error.message ++ " */\n"
      ++ "export const " ++ constant ++ " = 0x" ++ String.ofList (Nat.toDigits 16 error.code.toNat)
      ++ "; // " ++ toString error.code ++ "\n"
  let messages := pairs.map fun (constant, error) =>
    "  [" ++ constant ++ "]: " ++ stringLiteral error.message ++ ",\n"
  let types := " | ".intercalate (module.constants.map fun constant => "typeof " ++ constant)
  String.join constants ++ "\nexport type " ++ module.type ++ " = " ++ types ++ ";\n\n"
    ++ "const " ++ module.messages ++ ": Record<" ++ module.type ++ ", string> = \x7b\n"
    ++ String.join messages ++ "\x7d;\n\n"
    ++ "export function get" ++ module.type ++ "Message(code: " ++ module.type
    ++ "): string \x7b\n  return " ++ module.messages ++ "[code];\n\x7d\n"

/-- The line of an index for a module: its names, or the module itself under its name. -/
def childLine (namespaced : Bool) (child : String) : String :=
  if namespaced && child ≠ "types" then
    "export * as " ++ child ++ " from './" ++ child ++ "';\n"
  else "export * from './" ++ child ++ "';\n"

/-- The source of a module. -/
def Module.source : Module → Source
  | .programs constant address => programSource constant address
  | .account module => module.source
  | .instruction module => module.source
  | .errors module => module.source
  | .type declaration => declaration.source
  | .index children namespaced => String.join (children.map (childLine namespaced))

/-- The text of a module. -/
def Module.text (module : Module) : String := module.source.module

end Bindery.Package
