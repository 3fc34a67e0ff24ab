import Bindery.Tree.Value

/-!
# The interface tree

The interface of one or more on-chain programs. Nodes refer to each other by name; the
index of a tree resolves the names.

* **`Tree`** — the programs, the first of them primary, and the types they share.
* **`Program`**, **`Account`**, **`Instruction`** — with the look-ups by name. The first
  node of a name is the one that is found.
-/

namespace Bindery

/-- A named type that fields and arguments can link to. -/
structure DefinedType where
  name : String
  type : TypeNode
  docs : List String
deriving DecidableEq

/-- An error a program can return. -/
structure ProgramError where
  code : UInt32
  name : String
  message : String
  docs : List String
deriving DecidableEq

/-- The shape of a data record. `seeds` is its address recipe, in derivation order. -/
structure Account where
  name : String
  docs : List String
  fields : List StructField
  discriminator : Option Discriminator
  seeds : Option (List Seed)
deriving DecidableEq

/-- An account that an instruction takes. -/
structure InstructionAccount where
  name : String
  isWritable : Bool
  isSigner : Bool
  isOptional : Bool
  docs : List String
  defaultValue : Option DefaultValue
deriving DecidableEq

/-- An argument that an instruction takes. -/
structure InstructionArgument where
  name : String
  type : TypeNode
  docs : List String
  defaultValue : Option DefaultValue
deriving DecidableEq

/-- A callable entry point of a program. -/
structure Instruction where
  name : String
  docs : List String
  accounts : List InstructionAccount
  arguments : List InstructionArgument
  discriminator : Option Discriminator
deriving DecidableEq

/-- One on-chain program. -/
structure Program where
  name : String
  publicKey : String
  version : String
  docs : List String
  accounts : List Account
  instructions : List Instruction
  definedTypes : List DefinedType
  errors : List ProgramError
deriving DecidableEq

/-- Every program of an interface and the types shared between them. -/
structure Tree where
  programs : List Program
  sharedTypes : List DefinedType
deriving DecidableEq

/-- The primary program: the first one. -/
def Tree.primary? (tree : Tree) : Option Program := tree.programs.head?

/-- The program of a name. -/
def Tree.program? (tree : Tree) (name : String) : Option Program :=
  tree.programs.find? (·.name = name)

/-- The shared type of a name. -/
def Tree.sharedType? (tree : Tree) (name : String) : Option DefinedType :=
  tree.sharedTypes.find? (·.name = name)

namespace Program

/-- The account of a name. -/
def account? (program : Program) (name : String) : Option Account :=
  program.accounts.find? (·.name = name)

/-- The instruction of a name. -/
def instruction? (program : Program) (name : String) : Option Instruction :=
  program.instructions.find? (·.name = name)

/-- The defined type of a name. -/
def definedType? (program : Program) (name : String) : Option DefinedType :=
  program.definedTypes.find? (·.name = name)

/-- Whether the program defines a type of a name. -/
def defines (program : Program) (name : String) : Bool :=
  (program.definedType? name).isSome

end Program

/-- The variable seeds of an account's recipe, in order: the values a caller supplies to
    derive the address. There are none without a recipe. -/
def Account.seedInputs (account : Account) : List VariableSeed :=
  (account.seeds.getD []).filterMap Seed.variable?

namespace Instruction

/-- The account of a name. -/
def account? (instruction : Instruction) (name : String) : Option InstructionAccount :=
  instruction.accounts.find? (·.name = name)

/-- The argument of a name. -/
def argument? (instruction : Instruction) (name : String) : Option InstructionArgument :=
  instruction.arguments.find? (·.name = name)

/-- Whether the instruction takes an input. -/
def takes (instruction : Instruction) : Input → Bool
  | .account name => (instruction.account? name).isSome
  | .argument name => (instruction.argument? name).isSome

/-- The default values of the inputs, accounts first. -/
def defaults (instruction : Instruction) : List DefaultValue :=
  instruction.accounts.filterMap (·.defaultValue)
    ++ instruction.arguments.filterMap (·.defaultValue)

/-- The same instruction with every default value replaced by its image. -/
def mapDefaults (change : DefaultValue → DefaultValue) (instruction : Instruction) :
    Instruction :=
  { instruction with
    accounts := instruction.accounts.map fun a =>
      { a with defaultValue := a.defaultValue.map change }
    arguments := instruction.arguments.map fun a =>
      { a with defaultValue := a.defaultValue.map change } }

end Instruction

end Bindery
