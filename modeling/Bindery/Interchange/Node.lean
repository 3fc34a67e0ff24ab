import Bindery.Interchange.Type

/-!
# Nodes of the interchange document

The interface tree in the form of the Codama standard, in which an address recipe is a
node of its own beside the account. Nodes carry compact camel-case names; links and the
names inside types carry plain camel-case names.

* **`Document`** — the primary program and the others.
* **`Document.of`** — the document of a tree. Shared types belong to the primary program
  unless it defines one of the same name.
* **`InputValue.of`** — a default value; inside an option only a literal is accepted.
-/

namespace Bindery.Interchange

/-- A field of an account. -/
def fieldOf (field : StructField) : Except RenderError NodeField := do
  let type ← NodeType.of field.type.kind field.type
  return ⟨Text.compactCamelCase field.name, field.docs, type⟩

/-- An account. -/
structure AccountNode where
  name : String
  docs : List String
  fields : List NodeField
  discriminator : Option Discriminator

/-- The node of an account. -/
def AccountNode.of (account : Account) : Except RenderError AccountNode := do
  let fields ← account.fields.mapM fieldOf
  return ⟨Text.compactCamelCase account.name, account.docs, fields, account.discriminator⟩

-- ── address recipes ──────────────────────────────────────────────────────────────

/-- A seed of a recipe. -/
inductive SeedNode where
  | text (text : String)
  | bytes (bytes : List UInt8)
  | variable (name : String) (type : NodeType)

/-- The node of a seed. The standard has no node for the program id as a seed. -/
def SeedNode.of (account : String) : Seed → Except RenderError SeedNode
  | .constant (.utf8 value) => .ok (.text value)
  | .constant (.bytes raw) => .ok (.bytes raw)
  | .constant .programId => .error (.rejectedNode account)
  | .variable seed => do
    return .variable (Text.compactCamelCase seed.name) (← NodeType.of seed.type.kind seed.type)

/-- An address recipe. -/
structure RecipeNode where
  name : String
  seeds : List SeedNode

/-- The node of the recipe of an account, if it has one. -/
def RecipeNode.of (account : Account) : Except RenderError (Option RecipeNode) :=
  account.seeds.mapM fun seeds => do
    return ⟨Text.compactCamelCase account.name, ← seeds.mapM (SeedNode.of account.name)⟩

-- ── default values ───────────────────────────────────────────────────────────────

/-- A link to an input of the instruction. -/
inductive InputLink where
  | account (name : String)
  | argument (name : String)
deriving DecidableEq

/-- The link to an input. -/
def InputLink.of : Input → InputLink
  | .account name => .account (Text.camelCase name)
  | .argument name => .argument (Text.camelCase name)

/-- The value of an input that a caller leaves out. -/
inductive InputValue where
  | derived (recipe : String) (seeds : List (String × InputLink))
  | input (link : InputLink)
  | none
  | programId
  | literal (value : Literal)
  | some (value : Literal)
deriving DecidableEq

/-- The value for a default, inside an option if it `wraps` one. -/
def InputValue.of (wraps : Bool) (context : String) : DefaultValue → Except RenderError InputValue
  | .absent => .ok .none
  | .literal value => .ok (if wraps then .some value else .literal value)
  | .pda owner seeds =>
    if wraps then .error (.rejectedNode context)
    else .ok (.derived (Text.camelCase owner)
      (seeds.map fun binding => (Text.camelCase binding.seed, InputLink.of binding.value)))
  | .account name =>
    if wraps then .error (.rejectedNode context) else .ok (.input (InputLink.of (.account name)))
  | .argument name =>
    if wraps then .error (.rejectedNode context) else .ok (.input (InputLink.of (.argument name)))
  | .programId => if wraps then .error (.rejectedNode context) else .ok .programId

-- ── instructions ─────────────────────────────────────────────────────────────────

/-- An account of an instruction. -/
structure InstructionAccountNode where
  name : String
  isWritable : Bool
  isSigner : Bool
  isOptional : Bool
  docs : List String
  defaultValue : Option InputValue

/-- The node of an account of an instruction. -/
def InstructionAccountNode.of (instruction : String) (account : InstructionAccount) :
    Except RenderError InstructionAccountNode := do
  let defaultValue ← account.defaultValue.mapM
    (InputValue.of false s!"{instruction}/accounts/{account.name}")
  return ⟨Text.compactCamelCase account.name, account.isWritable, account.isSigner,
    account.isOptional, account.docs, defaultValue⟩

/-- An argument of an instruction. -/
structure InstructionArgumentNode where
  name : String
  docs : List String
  type : NodeType
  defaultValue : Option InputValue

/-- The node of an argument of an instruction. -/
def InstructionArgumentNode.of (instruction : String) (argument : InstructionArgument) :
    Except RenderError InstructionArgumentNode := do
  let type ← NodeType.of argument.type.kind argument.type
  let defaultValue ← argument.defaultValue.mapM
    (InputValue.of argument.type.isOption s!"{instruction}/arguments/{argument.name}")
  return ⟨Text.compactCamelCase argument.name, argument.docs, type, defaultValue⟩

/-- An instruction. -/
structure InstructionNode where
  name : String
  docs : List String
  accounts : List InstructionAccountNode
  arguments : List InstructionArgumentNode
  discriminator : Option Discriminator

/-- The node of an instruction. -/
def InstructionNode.of (instruction : Instruction) : Except RenderError InstructionNode := do
  let accounts ← instruction.accounts.mapM (InstructionAccountNode.of instruction.name)
  let arguments ← instruction.arguments.mapM (InstructionArgumentNode.of instruction.name)
  return ⟨Text.compactCamelCase instruction.name, instruction.docs, accounts, arguments,
    instruction.discriminator⟩

-- ── programs ─────────────────────────────────────────────────────────────────────

/-- A defined type. -/
structure DefinedTypeNode where
  name : String
  docs : List String
  type : NodeType

/-- The node of a defined type. -/
def DefinedTypeNode.of (defined : DefinedType) : Except RenderError DefinedTypeNode := do
  return ⟨Text.camelCase defined.name, defined.docs,
    ← NodeType.of s!"types/{defined.name}" defined.type⟩

/-- A program. -/
structure ProgramNode where
  name : String
  publicKey : String
  docs : List String
  accounts : List AccountNode
  instructions : List InstructionNode
  definedTypes : List DefinedTypeNode
  recipes : List RecipeNode
  errors : List ProgramError

/-- The node of a program. Accounts are looked at together with their recipes. -/
def ProgramNode.of (program : Program) : Except RenderError ProgramNode := do
  let accounts ← program.accounts.mapM fun account => do
    return (← AccountNode.of account, ← RecipeNode.of account)
  let instructions ← program.instructions.mapM InstructionNode.of
  let definedTypes ← program.definedTypes.mapM DefinedTypeNode.of
  return {
    name := Text.compactCamelCase program.name
    publicKey := program.publicKey
    docs := program.docs
    accounts := accounts.map (·.1)
    instructions := instructions
    definedTypes := definedTypes
    recipes := accounts.filterMap (·.2)
    errors := program.errors }

/-- A document: the primary program and the others. -/
structure Document where
  program : ProgramNode
  additional : List ProgramNode

/-- The document of a tree. -/
def Document.of (tree : Tree) : Except RenderError Document :=
  match tree.programs with
  | [] => .error (.unsupported "root" .noPrograms)
  | primary :: others => do
    let program ← ProgramNode.of primary
    let shared ← (tree.sharedTypes.filter fun t => !primary.defines t.name).mapM DefinedTypeNode.of
    let additional ← others.mapM ProgramNode.of
    return ⟨{ program with definedTypes := program.definedTypes ++ shared }, additional⟩

end Bindery.Interchange
