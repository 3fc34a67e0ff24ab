import Bindery.Operation.Error
import Bindery.Tree.Basic

/-!
# The index of a tree

Every node that a path can select, with its path and the slot where it sits. Operations
resolve their paths in the index of the tree they receive and write through slots.

* **`Slot`** — a place in the lists of a tree; **`Tree.nodeAt?`** follows one.
* **`Tree.entries`** — the declared nodes in a fixed order: shared types, then for each
  program the program, its accounts, its types and its instructions with their inputs.
* **`Index`** — the entries of a tree; the first entry of a path is the one it selects.
-/

namespace Bindery

/-- A node of any kind. -/
inductive Node where
  | program (program : Program)
  | account (account : Account)
  | instruction (instruction : Instruction)
  | instructionAccount (account : InstructionAccount)
  | instructionArgument (argument : InstructionArgument)
  | definedType (defined : DefinedType)
deriving DecidableEq

/-- The kind of a node. -/
def Node.kind : Node → NodeKind
  | .program _ => .program
  | .account _ => .account
  | .instruction _ => .instruction
  | .instructionAccount _ => .instructionAccount
  | .instructionArgument _ => .instructionArgument
  | .definedType _ => .definedType

/-- A place in a tree, as positions in the lists that lead to it. -/
inductive Slot where
  | program (program : Nat)
  | account (program account : Nat)
  | definedType (program type : Nat)
  | instruction (program instruction : Nat)
  | instructionAccount (program instruction account : Nat)
  | instructionArgument (program instruction argument : Nat)
  | sharedType (type : Nat)
deriving DecidableEq

namespace Slot

/-- The position of the program; shared types have none. -/
def program? : Slot → Option Nat
  | .program p | .account p _ | .definedType p _ | .instruction p _
  | .instructionAccount p _ _ | .instructionArgument p _ _ => some p
  | .sharedType _ => none

/-- The position in the list of a program or of the tree. -/
def item? : Slot → Option Nat
  | .program _ => none
  | .account _ i | .definedType _ i | .instruction _ i
  | .instructionAccount _ i _ | .instructionArgument _ i _ | .sharedType i => some i

/-- The position among the accounts or arguments of an instruction. -/
def member? : Slot → Option Nat
  | .instructionAccount _ _ m | .instructionArgument _ _ m => some m
  | _ => none

end Slot

/-- The node in a slot. -/
def Tree.nodeAt? (tree : Tree) : Slot → Option Node
  | .program p => tree.programs[p]?.map .program
  | .account p i => do return .account (← (← tree.programs[p]?).accounts[i]?)
  | .definedType p i => do return .definedType (← (← tree.programs[p]?).definedTypes[i]?)
  | .instruction p i => do return .instruction (← (← tree.programs[p]?).instructions[i]?)
  | .instructionAccount p i m => do
    return .instructionAccount (← (← (← tree.programs[p]?).instructions[i]?).accounts[m]?)
  | .instructionArgument p i m => do
    return .instructionArgument (← (← (← tree.programs[p]?).instructions[i]?).arguments[m]?)
  | .sharedType i => tree.sharedTypes[i]?.map .definedType

/-- The node that a path finds by name, one segment after another. -/
def Tree.lookup? (tree : Tree) : NodePath → Option Node
  | .program p => (tree.program? p).map .program
  | .account p a => do return .account (← (← tree.program? p).account? a)
  | .instruction p i => do return .instruction (← (← tree.program? p).instruction? i)
  | .instructionAccount p i a => do
    return .instructionAccount (← (← (← tree.program? p).instruction? i).account? a)
  | .instructionArgument p i a => do
    return .instructionArgument (← (← (← tree.program? p).instruction? i).argument? a)
  | .definedType p t => do return .definedType (← (← tree.program? p).definedType? t)
  | .sharedType t => (tree.sharedType? t).map .definedType

/-- A node with its path and its slot. -/
structure Entry where
  path : NodePath
  slot : Slot
  node : Node
deriving DecidableEq

/-- The entries of an instruction: itself, its accounts, its arguments. -/
def Instruction.entries (instruction : Instruction) (program : String) (p i : Nat) :
    List Entry :=
  ⟨.instruction program instruction.name, .instruction p i, .instruction instruction⟩
    :: (instruction.accounts.zipIdx.map fun (account, m) =>
        ⟨.instructionAccount program instruction.name account.name,
          .instructionAccount p i m, .instructionAccount account⟩)
    ++ (instruction.arguments.zipIdx.map fun (argument, m) =>
        ⟨.instructionArgument program instruction.name argument.name,
          .instructionArgument p i m, .instructionArgument argument⟩)

/-- The entries of a program: itself, its accounts, its types, its instructions. -/
def Program.entries (program : Program) (p : Nat) : List Entry :=
  ⟨.program program.name, .program p, .program program⟩
    :: (program.accounts.zipIdx.map fun (account, i) =>
        ⟨.account program.name account.name, .account p i, .account account⟩)
    ++ (program.definedTypes.zipIdx.map fun (defined, i) =>
        ⟨.definedType program.name defined.name, .definedType p i, .definedType defined⟩)
    ++ (program.instructions.zipIdx.flatMap fun (instruction, i) =>
        instruction.entries program.name p i)

/-- The entries of a tree: its shared types, then its programs. -/
def Tree.entries (tree : Tree) : List Entry :=
  (tree.sharedTypes.zipIdx.map fun (defined, i) =>
      ⟨.sharedType defined.name, .sharedType i, .definedType defined⟩)
    ++ (tree.programs.zipIdx.flatMap fun (program, p) => program.entries p)

/-- The table from paths to nodes of one tree. -/
structure Index where
  tree : Tree
  entries : List Entry

namespace Index

/-- The index of a tree. -/
def of (tree : Tree) : Index := ⟨tree, tree.entries⟩

/-- The entry that a path selects: the first of that path. -/
def find? (index : Index) (path : NodePath) : Option Entry :=
  index.entries.find? (·.path = path)

/-- Whether a path selects anything. -/
def contains (index : Index) (path : NodePath) : Bool := (index.find? path).isSome

/-- The number of paths that select something. -/
def size (index : Index) : Nat := (index.entries.map (·.path)).eraseDups.length

/-- The entry that a path selects, or that it selects none. -/
def resolve (index : Index) (path : NodePath) : Except TransformError Entry :=
  match index.find? path with
  | some entry => .ok entry
  | none => .error (.unresolved path)

/-- The entry that a path of a kind selects. The form of the path is looked at before
    the path is resolved. -/
def resolveKind (index : Index) (path : NodePath) (kind : NodeKind) :
    Except TransformError Entry :=
  if path.kind = kind then index.resolve path
  else .error (.invalidSelector path (.kind kind))

/-- The program that a path selects. -/
def program (index : Index) (path : NodePath) : Except TransformError (Program × Slot) := do
  match ← index.resolveKind path .program with
  | ⟨_, slot, .program node⟩ => return (node, slot)
  | _ => throw (.invalidSelector path (.kind .program))

/-- The account that a path selects. -/
def account (index : Index) (path : NodePath) : Except TransformError (Account × Slot) := do
  match ← index.resolveKind path .account with
  | ⟨_, slot, .account node⟩ => return (node, slot)
  | _ => throw (.invalidSelector path (.kind .account))

/-- The instruction that a path selects. -/
def instruction (index : Index) (path : NodePath) :
    Except TransformError (Instruction × Slot) := do
  match ← index.resolveKind path .instruction with
  | ⟨_, slot, .instruction node⟩ => return (node, slot)
  | _ => throw (.invalidSelector path (.kind .instruction))

/-- The defined type that a path selects, in a program or shared. -/
def definedType (index : Index) (path : NodePath) :
    Except TransformError (DefinedType × Slot) := do
  match ← index.resolveKind path .definedType with
  | ⟨_, slot, .definedType node⟩ => return (node, slot)
  | _ => throw (.invalidSelector path (.kind .definedType))

end Index

-- ── writing through slots ────────────────────────────────────────────────────────

namespace Tree

/-- Change the program at a position. -/
def modifyProgram (tree : Tree) (p : Nat) (change : Program → Program) : Tree :=
  { tree with programs := tree.programs.modify p change }

/-- Change an account of the program at a position. -/
def modifyAccount (tree : Tree) (p i : Nat) (change : Account → Account) : Tree :=
  tree.modifyProgram p fun program =>
    { program with accounts := program.accounts.modify i change }

/-- Change an instruction of the program at a position. -/
def modifyInstruction (tree : Tree) (p i : Nat) (change : Instruction → Instruction) : Tree :=
  tree.modifyProgram p fun program =>
    { program with instructions := program.instructions.modify i change }

/-- Change a defined type of the program at a position. -/
def modifyDefinedType (tree : Tree) (p i : Nat) (change : DefinedType → DefinedType) : Tree :=
  tree.modifyProgram p fun program =>
    { program with definedTypes := program.definedTypes.modify i change }

/-- Change a shared type. -/
def modifySharedType (tree : Tree) (i : Nat) (change : DefinedType → DefinedType) : Tree :=
  { tree with sharedTypes := tree.sharedTypes.modify i change }

end Tree

end Bindery
