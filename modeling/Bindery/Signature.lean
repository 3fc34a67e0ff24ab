import Bindery.Text.Grid
import Bindery.Tree.Encode

/-!
# Call-builder signatures

Which inputs of an instruction a generated call builder asks its caller for, and the table
of all of them: one row an instruction, in the order of the tree.

* **`BuilderInput`** — an account or argument with the default it may have.
* **`Signature`** — the inputs in three groups; **`Signature.of`** sorts the inputs of an
  instruction into them. Accounts come before arguments, each in declaration order.
* **`Signature.cells`** — the three groups of inputs as cells.
* **`Tree.signatureTable`** — the table.
-/

namespace Bindery

/-- An input of a call builder. -/
structure BuilderInput where
  input : Input
  defaultValue : Option DefaultValue
deriving DecidableEq

/-- The name of an input. -/
def BuilderInput.name (given : BuilderInput) : String := given.input.name

/-- What a caller has to do about an input. -/
inductive Demand where
  | required | defaulted | optional
deriving DecidableEq

/-- An account is asked for unless it has a default or may be left out. -/
def InstructionAccount.demand (account : InstructionAccount) : Demand :=
  if account.defaultValue.isSome then .defaulted
  else if account.isOptional then .optional
  else .required

/-- An argument is asked for unless it has a default. -/
def InstructionArgument.demand (argument : InstructionArgument) : Demand :=
  if argument.defaultValue.isSome then .defaulted else .required

/-- The inputs of an instruction by what the caller has to do about them. -/
structure Signature where
  required : List BuilderInput
  defaulted : List BuilderInput
  optional : List BuilderInput
deriving DecidableEq

namespace Signature

/-- The inputs of an instruction and what they demand, accounts first. -/
def demands (instruction : Instruction) : List (Demand × BuilderInput) :=
  instruction.accounts.map (fun a => (a.demand, ⟨.account a.name, a.defaultValue⟩))
    ++ instruction.arguments.map (fun a => (a.demand, ⟨.argument a.name, a.defaultValue⟩))

/-- The inputs of an instruction with one demand. -/
def inputs (instruction : Instruction) (demand : Demand) : List BuilderInput :=
  ((demands instruction).filter (·.1 = demand)).map (·.2)

/-- The signature of an instruction. -/
def of (instruction : Instruction) : Signature where
  required := inputs instruction .required
  defaulted := inputs instruction .defaulted
  optional := inputs instruction .optional

/-- The names of the required inputs. -/
def requiredNames (signature : Signature) : List String := signature.required.map (·.name)

/-- Whether an input of a name is required. -/
def isRequired (signature : Signature) (name : String) : Bool :=
  signature.required.any (·.name = name)

end Signature

/-- The JSON form of an input. -/
def BuilderInput.encode (given : BuilderInput) : Json :=
  let kind := match given.input with
    | .account _ => "account"
    | .argument _ => "argument"
  .object ([("name", .string given.name), ("kind", .string kind)]
    ++ Json.optionalMember "defaultValue" DefaultValue.encode given.defaultValue)

/-- The JSON form of a signature. -/
def Signature.encode (signature : Signature) : Json :=
  .object [("required", .array (signature.required.map BuilderInput.encode)),
    ("defaulted", .array (signature.defaulted.map BuilderInput.encode)),
    ("optional", .array (signature.optional.map BuilderInput.encode))]

/-- The names of a group of inputs, or a dash if the group is empty. -/
def inputCell (inputs : List BuilderInput) : String :=
  match inputs with
  | [] => "-"
  | inputs => ", ".intercalate (inputs.map (·.name))

/-- The groups of a signature as cells. -/
def Signature.cells (signature : Signature) : List String :=
  [inputCell signature.required, inputCell signature.defaulted, inputCell signature.optional]

/-- The table of the signatures of a tree. -/
def Tree.signatureTable (tree : Tree) : Text.Grid where
  header := ["program", "instruction", "required", "defaulted", "optional"]
  rows := tree.programs.flatMap fun program =>
    program.instructions.map fun instruction =>
      program.name :: instruction.name :: (Signature.of instruction).cells

end Bindery
