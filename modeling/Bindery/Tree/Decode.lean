import Bindery.Json.Decode
import Bindery.Tree.Basic

/-!
# Trees from JSON

The decoders that read the JSON form of every node back. A part with a kind may have been
set aside while the kind of its owner was looked for (`Decode.Stage`); whatever stands
inside it then was.

* **`TypeNode.decode`** — a type, to any depth.
* **`Tree.decode`** — a whole tree.
-/

namespace Bindery

namespace Json

mutual

/-- The number of arrays and objects on the longest way into a value. -/
def depth : Json → Nat
  | .array items => depthItems items + 1
  | .object members => depthMembers members + 1
  | _ => 0

/-- The greatest depth of some items. -/
def depthItems : List Json → Nat
  | [] => 0
  | item :: items => max item.depth (depthItems items)

/-- The greatest depth of the values of some members. -/
def depthMembers : List (String × Json) → Nat
  | [] => 0
  | (_, value) :: members => max value.depth (depthMembers members)

end

end Json

open Decode

/-- A list of texts that may be missing. -/
def Decode.docsField {τ : Type} [Json.Readable τ] : Fields τ (List String) :=
  .optional "docs" (listOf str) []

/-- The kinds of choices without payload that formats are. -/
def NumberFormat.decode (stage : Stage) (j : Json) : Except Fault NumberFormat := do
  let names := NumberFormat.all.map NumberFormat.name
  let (name, payload) ← choice names j
  match NumberFormat.ofName? name with
  | some format => noPayload stage format payload
  | none => .error (.unknownVariant name names)

namespace TypeNode

/-- The names of the shapes, in declaration order. -/
def kinds : List String :=
  ["number", "boolean", "publicKey", "string", "bytes", "fixedSize", "option", "array",
    "struct", "enum", "link"]

/-- Decode a field whose type is decoded by `type`. -/
def decodeField (type : Json → Except Fault TypeNode) : Json → Except Fault StructField :=
  record (StructField.mk <$> .required "name" str <*> .required "type" type <*> docsField)

/-- Decode a variant whose field types are decoded by `type`. -/
def decodeVariant (type : Json → Except Fault TypeNode) : Json → Except Fault EnumVariant :=
  record (EnumVariant.mk <$> .required "name" str
    <*> .optional "discriminant" (nullable word64) none
    <*> .optional "fields" (nullable (listOf (decodeField type))) none)

/-- Decode a type that is nested at most `fuel` deep. -/
def decodeWithin : (fuel : Nat) → Stage → Json → Except Fault TypeNode
  | 0, _, _ => .error .malformed
  | fuel + 1, stage, j => do
    let inner := decodeWithin fuel .setAside
    let (kind, body) ← tagged stage "kind" kinds j
    match kind with
    | "number" =>
      body.decode (.number <$> .required "format" (NumberFormat.decode .setAside))
    | "boolean" => body.unit .boolean
    | "publicKey" => body.unit .publicKey
    | "string" => body.unit .string
    | "bytes" => body.unit .bytes
    | "fixedSize" =>
      body.decode (.fixedSize <$> .required "type" inner <*> .required "size" word64)
    | "option" => body.decode (.option <$> .required "item" inner)
    | "array" =>
      body.decode (.array <$> .required "item" inner
        <*> .optional "count" (nullable word64) none)
    | "struct" => body.decode (.struct <$> .required "fields" (listOf (decodeField inner)))
    | "enum" => body.decode (.enum <$> .required "variants" (listOf (decodeVariant inner)))
    | _ => body.decode (.link <$> .required "name" str)

/-- Decode a type. A type is never nested deeper than its document. -/
def decode (stage : Stage) (j : Json) : Except Fault TypeNode :=
  decodeWithin (j.depth + 1) stage j

end TypeNode

/-- Decode a field of an account or a struct. -/
def StructField.decode : Json → Except Fault StructField :=
  TypeNode.decodeField (TypeNode.decode .fresh)

/-- Decode the value of a tag. -/
def DiscriminatorValue.decode (stage : Stage) (j : Json) : Except Fault DiscriminatorValue := do
  let (kind, body) ← tagged stage "kind" ["number", "bytes"] j
  match kind with
  | "number" =>
    body.decode (.number <$> .required "format" (NumberFormat.decode .setAside)
      <*> .required "value" word64)
  | _ => body.decode (.bytes <$> .required "bytes" (listOf byte))

/-- Decode a tag. -/
def Discriminator.decode : Json → Except Fault Discriminator :=
  record (Discriminator.mk <$> .required "value" (DiscriminatorValue.decode .fresh)
    <*> .optional "offset" word64 0)

/-- The input of a kind. -/
def Input.ofKind (kind name : String) : Input :=
  if kind = "account" then .account name else .argument name

/-- The kinds of inputs. -/
def Input.kinds : List String := ["account", "argument"]

/-- The kind that a member names: a choice that carries nothing. -/
def Input.decodeKind (j : Json) : Except Fault String := do
  let (kind, payload) ← choice kinds j
  noPayload .setAside kind payload

/-- Decode a reference to an input: its kind and its name, in either order. It always
    stands inside a value with a kind. The members are read one after another; when the
    name comes first it waits for the kind. In an array the kind may also be a number. -/
def Input.decode (j : Json) : Except Fault Input := do
  match j with
  | .object members =>
    let relevant := members.filter fun m => m.1 = "kind" ∨ m.1 = "name"
    match relevant with
    | [] => .error (.missingField "kind")
    | ("kind", kind) :: rest =>
      let kind ← decodeKind kind
      match rest with
      | [] => .error (.missingField "name")
      | ("kind", _) :: _ => .error (.duplicateField "kind")
      | (_, name) :: rest =>
        let name ← str name
        match rest with
        | [] => .ok (ofKind kind name)
        | (key, _) :: _ => .error (.duplicateField key)
    | (_, name) :: rest =>
      match rest with
      | [] => .error (.missingField "kind")
      | ("kind", kind) :: rest =>
        let kind ← decodeKind kind
        let name ← str name
        match rest with
        | [] => .ok (ofKind kind name)
        | (key, _) :: _ => .error (.duplicateField key)
      | (_, _) :: _ => .error (.duplicateField "name")
  | .array items =>
    match items with
    | kind :: rest =>
      let kind ← variant .setAside kinds kind
      match rest with
      | [] => .error .invalidLength
      | name :: rest =>
        let name ← str name
        if rest.isEmpty then .ok (ofKind kind name) else .error .invalidLength
    | [] => .error .invalidLength
  | _ => .error .invalidType

/-- Decode a literal. -/
def Literal.decode (j : Json) : Except Fault Literal := do
  let (kind, value) ← choice ["number", "boolean", "string", "publicKey", "bytes"] j
  match kind with
  | "number" => return .number (← payload int64 value)
  | "boolean" => return .boolean (← payload bool value)
  | "string" => return .string (← payload str value)
  | "publicKey" => return .publicKey (← payload str value)
  | _ => return .bytes (← payload (listOf byte) value)

/-- Decode a seed binding. -/
def SeedBinding.decode : Json → Except Fault SeedBinding :=
  record (SeedBinding.mk <$> .required "seed" str <*> .required "value" Input.decode)

/-- Decode a default value. -/
def DefaultValue.decode (stage : Stage) (j : Json) : Except Fault DefaultValue := do
  let kinds := ["pda", "account", "argument", "absent", "programId", "literal"]
  let (kind, body) ← tagged stage "kind" kinds j
  match kind with
  | "pda" =>
    body.decode (.pda <$> .required "account" str
      <*> .optional "seeds" (listOf SeedBinding.decode) [])
  | "account" => body.decode (.account <$> .required "name" str)
  | "argument" => body.decode (.argument <$> .required "name" str)
  | "absent" => body.unit .absent
  | "programId" => body.unit .programId
  | _ => body.decode (.literal <$> .required "value" Literal.decode)

/-- Decode a constant seed. It always stands inside a value with a kind. -/
def ConstantSeed.decode (j : Json) : Except Fault ConstantSeed := do
  let (kind, value) ← choice ["utf8", "bytes", "programId"] j
  match kind with
  | "utf8" => return .utf8 (← payload str value)
  | "bytes" => return .bytes (← payload (listOf byte) value)
  | _ => noPayload .setAside .programId value

/-- The fields of a variable seed. -/
def VariableSeed.fields : Fields Json VariableSeed :=
  VariableSeed.mk <$> .required "name" str
    <*> .required "type" (TypeNode.decode .setAside) <*> docsField

/-- Decode a seed. -/
def Seed.decode (stage : Stage) (j : Json) : Except Fault Seed := do
  let (kind, body) ← tagged stage "kind" ["constant", "variable"] j
  match kind with
  | "constant" => body.decode (.constant <$> .required "value" ConstantSeed.decode)
  | _ => body.decode (.variable <$> VariableSeed.fields)

/-- Decode a defined type. -/
def DefinedType.decode : Json → Except Fault DefinedType :=
  record (DefinedType.mk <$> .required "name" str
    <*> .required "type" (TypeNode.decode .fresh) <*> docsField)

/-- Decode an error. -/
def ProgramError.decode : Json → Except Fault ProgramError :=
  record (ProgramError.mk <$> .required "code" word32 <*> .required "name" str
    <*> .optional "message" str "" <*> docsField)

/-- Decode an account. -/
def Account.decode : Json → Except Fault Account :=
  record (Account.mk <$> .required "name" str <*> docsField
    <*> .optional "fields" (listOf StructField.decode) []
    <*> .optional "discriminator" (nullable Discriminator.decode) none
    <*> .optional "seeds" (nullable (listOf (Seed.decode .fresh))) none)

/-- Decode an instruction account. -/
def InstructionAccount.decode : Json → Except Fault InstructionAccount :=
  record (InstructionAccount.mk <$> .required "name" str
    <*> .optional "isWritable" bool false <*> .optional "isSigner" bool false
    <*> .optional "isOptional" bool false <*> docsField
    <*> .optional "defaultValue" (nullable (DefaultValue.decode .fresh)) none)

/-- Decode an instruction argument. -/
def InstructionArgument.decode : Json → Except Fault InstructionArgument :=
  record (InstructionArgument.mk <$> .required "name" str
    <*> .required "type" (TypeNode.decode .fresh) <*> docsField
    <*> .optional "defaultValue" (nullable (DefaultValue.decode .fresh)) none)

/-- Decode an instruction. -/
def Instruction.decode : Json → Except Fault Instruction :=
  record (Instruction.mk <$> .required "name" str <*> docsField
    <*> .optional "accounts" (listOf InstructionAccount.decode) []
    <*> .optional "arguments" (listOf InstructionArgument.decode) []
    <*> .optional "discriminator" (nullable Discriminator.decode) none)

/-- Decode a program. -/
def Program.decode : Json → Except Fault Program :=
  record (Program.mk <$> .required "name" str <*> .required "publicKey" str
    <*> .optional "version" str "" <*> docsField
    <*> .optional "accounts" (listOf Account.decode) []
    <*> .optional "instructions" (listOf Instruction.decode) []
    <*> .optional "definedTypes" (listOf DefinedType.decode) []
    <*> .optional "errors" (listOf ProgramError.decode) [])

/-- Decode a tree. -/
def Tree.decode : Json → Except Fault Tree :=
  record (Tree.mk <$> .required "programs" (listOf Program.decode)
    <*> .optional "sharedTypes" (listOf DefinedType.decode) [])

end Bindery
