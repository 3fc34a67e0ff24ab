import Bindery.Artifacts
import Bindery.Interchange.Node
import Bindery.Json.Printer
import Bindery.Render.Options

/-!
# The generated document

* **`Document.encode`** — the JSON form of a document.
* **`Interchange.render`** — one file, named for the primary program, with the JSON form
  of the document of a tree.
-/

namespace Bindery.Interchange

open Json (nat word optionalMember docsMember)

/-- Bytes as hexadecimal digits. -/
def bytesValueNode (bytes : List UInt8) : Json :=
  node "bytesValueNode" [("data", .string (hexText bytes)), ("encoding", .string "base16")]

/-- A text. -/
def textValueNode (text : String) : Json := node "stringValueNode" [("string", .string text)]

/-- A number. -/
def numberValueNode (value : Int) : Json :=
  node "numberValueNode" [("number", .number (.int value))]

/-- A literal. -/
def literalNode : Literal → Json
  | .number value => numberValueNode value.toInt
  | .boolean value => node "booleanValueNode" [("boolean", .bool value)]
  | .string value => textValueNode value
  | .publicKey address => node "publicKeyValueNode" [("publicKey", .string address)]
  | .bytes raw => bytesValueNode raw

/-- A tag as the constant at its offset. -/
def discriminatorNode (tag : Discriminator) : Json :=
  let constant := match tag.value with
    | .number format value =>
      node "constantValueNode" [("type", numberNode format), ("value", numberValueNode value.toNat)]
    | .bytes raw => node "constantValueNode" [("type", bytesNode), ("value", bytesValueNode raw)]
  node "constantDiscriminatorNode" [("offset", word tag.offset), ("constant", constant)]

/-- The member for a tag, left out when there is none. -/
def discriminatorsMember (tag : Option Discriminator) : List (String × Json) :=
  optionalMember "discriminators" (fun tag => .array [discriminatorNode tag]) tag

/-- The JSON form of an account. -/
def AccountNode.encode (account : AccountNode) : Json :=
  node "accountNode" ([("name", .string account.name)] ++ docsMember account.docs
    ++ [("data", structNode (NodeType.encodeFields account.fields))]
    ++ discriminatorsMember account.discriminator)

/-- The JSON form of a seed. -/
def SeedNode.encode : SeedNode → Json
  | .text value => node "constantPdaSeedNode" [("type", textNode), ("value", textValueNode value)]
  | .bytes raw => node "constantPdaSeedNode" [("type", bytesNode), ("value", bytesValueNode raw)]
  | .variable name type =>
    node "variablePdaSeedNode" [("name", .string name), ("type", type.encode)]

/-- The JSON form of a recipe. -/
def RecipeNode.encode (recipe : RecipeNode) : Json :=
  node "pdaNode" [("name", .string recipe.name),
    ("seeds", .array (recipe.seeds.map SeedNode.encode))]

/-- The JSON form of a link to an input. -/
def InputLink.encode : InputLink → Json
  | .account name => node "accountValueNode" [("name", .string name)]
  | .argument name => node "argumentValueNode" [("name", .string name)]

/-- The JSON form of a value. -/
def InputValue.encode : InputValue → Json
  | .derived recipe seeds =>
    node "pdaValueNode" [("pda", node "pdaLinkNode" [("name", .string recipe)]),
      ("seeds", .array (seeds.map fun (name, link) =>
        node "pdaSeedValueNode" [("name", .string name), ("value", link.encode)]))]
  | .input link => link.encode
  | .none => node "noneValueNode" []
  | .programId => node "programIdValueNode" []
  | .literal value => literalNode value
  | .some value => node "someValueNode" [("value", literalNode value)]

/-- The JSON form of an account of an instruction. -/
def InstructionAccountNode.encode (account : InstructionAccountNode) : Json :=
  node "instructionAccountNode" ([("name", .string account.name),
      ("isWritable", .bool account.isWritable), ("isSigner", .bool account.isSigner)]
    ++ (if account.isOptional then [("isOptional", .bool true)] else [])
    ++ docsMember account.docs
    ++ optionalMember "defaultValue" InputValue.encode account.defaultValue)

/-- The JSON form of an argument of an instruction. -/
def InstructionArgumentNode.encode (argument : InstructionArgumentNode) : Json :=
  node "instructionArgumentNode" ([("name", .string argument.name)] ++ docsMember argument.docs
    ++ [("type", argument.type.encode)]
    ++ optionalMember "defaultValue" InputValue.encode argument.defaultValue)

/-- The JSON form of an instruction. -/
def InstructionNode.encode (instruction : InstructionNode) : Json :=
  node "instructionNode" ([("name", .string instruction.name)] ++ docsMember instruction.docs
    ++ [("accounts", .array (instruction.accounts.map InstructionAccountNode.encode)),
      ("arguments", .array (instruction.arguments.map InstructionArgumentNode.encode))]
    ++ discriminatorsMember instruction.discriminator)

/-- The JSON form of a defined type. -/
def DefinedTypeNode.encode (defined : DefinedTypeNode) : Json :=
  node "definedTypeNode" ([("name", .string defined.name)] ++ docsMember defined.docs
    ++ [("type", defined.type.encode)])

/-- The JSON form of an error. -/
def errorNode (error : ProgramError) : Json :=
  node "errorNode" ([("name", .string (Text.compactCamelCase error.name)), ("code", nat error.code.toNat),
    ("message", .string error.message)] ++ docsMember error.docs)

/-- The JSON form of a program. A document gives no version of it. -/
def ProgramNode.encode (program : ProgramNode) : Json :=
  node "programNode" ([("name", .string program.name), ("publicKey", .string program.publicKey),
      ("version", .string "")]
    ++ docsMember program.docs
    ++ [("accounts", .array (program.accounts.map AccountNode.encode)),
      ("instructions", .array (program.instructions.map InstructionNode.encode)),
      ("definedTypes", .array (program.definedTypes.map DefinedTypeNode.encode)),
      ("pdas", .array (program.recipes.map RecipeNode.encode)),
      ("errors", .array (program.errors.map errorNode))])

/-- The JSON form of a document. -/
def Document.encode (document : Document) : Json :=
  node "rootNode" [("standard", .string "codama"), ("version", .string "1.0.0"),
    ("program", document.program.encode),
    ("additionalPrograms", .array (document.additional.map ProgramNode.encode))]

/-- The text of a document, indented if it is to be formatted. -/
def Document.text (document : Document) (formatCode : Bool) : String :=
  let json := document.encode
  (if formatCode then json.pretty else json.compact) ++ "\n"

/-- The generated file of a tree. A tree without programs has none. -/
def render (tree : Tree) (options : RenderOptions) : Except RenderError Artifacts := do
  options.checkKnown []
  match tree.primary? with
  | none => return Artifacts.ofFiles []
  | some primary =>
    let document ← Document.of tree
    return Artifacts.ofFiles [(primary.name ++ ".json", document.text options.formatCode)]

end Bindery.Interchange
