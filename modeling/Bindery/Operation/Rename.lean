import Bindery.Index
import Bindery.Operation.Basic

/-!
# Renaming

New names for nodes, with every reference kept in step. The renames of one operation
happen at once: paths are resolved in the tree as it was, each reference is looked up
once under its old name, and names may be exchanged.

* **`Rename.plan`** — the slots that get new names, or why they cannot.
* **`Renaming`**, and the look-ups in a list of them — what an old name has become, per
  scope: accounts and types of a program, inputs of an instruction, shared types.
* **`Program.renameLinks`**, **`Instruction.renameOwners`** — references looked up where a
  node mentions something renamed; other nodes are not touched.
* **`Rename.apply`** — the renamed tree.
-/

namespace Bindery

/-- A slot that gets a new name. -/
structure Renaming where
  path : NodePath
  slot : Slot
  newName : String
deriving DecidableEq

/-- Whether a renaming gives a name that the node does not have yet. -/
def Renaming.changes (r : Renaming) : Bool := r.path.name ≠ r.newName

namespace Rename

/-- Resolve renames one after another. A name is taken if a node that keeps its name has
    it, or if an earlier rename of this operation has `planned` it. -/
def planFrom (index : Index) (operation : Rename) : (planned : List NodePath) →
    List (NodePath × String) → Except TransformError (List Renaming)
  | _, [] => .ok []
  | planned, (path, newName) :: rest => do
    let target := path.withName newName
    if ¬ NodePath.ValidName newName then throw (.invalidSelector target .validName)
    let entry ← index.resolve path
    let taken := target ≠ path ∧ index.contains target ∧ ¬ operation.renames.contains target
    if taken ∨ target ∈ planned then throw (.duplicateName path.parent? newName)
    return ⟨path, entry.slot, newName⟩ :: (← planFrom index operation (target :: planned) rest)

/-- The slots that an operation gives new names. -/
def plan (operation : Rename) (index : Index) : Except TransformError (List Renaming) :=
  planFrom index operation [] operation.renames.entries

end Rename

-- ── what an old name has become ──────────────────────────────────────────────────

namespace Renaming

/-- The new name of the node of an old name whose slot passes a test. -/
def find? (renamings : List Renaming) (test : Slot → Bool) (old : String) : Option String :=
  (renamings.find? fun r => test r.slot && r.path.name = old).map (·.newName)

/-- What an account name of a program has become. -/
def accountName? (renamings : List Renaming) (p : Nat) : String → Option String :=
  find? renamings fun
    | .account q _ => q = p
    | _ => false

/-- What a type name of a program has become. -/
def typeName? (renamings : List Renaming) (p : Nat) : String → Option String :=
  find? renamings fun
    | .definedType q _ => q = p
    | _ => false

/-- What the name of a shared type has become. -/
def sharedTypeName? (renamings : List Renaming) : String → Option String :=
  find? renamings fun
    | .sharedType _ => true
    | _ => false

/-- What the name of an input of an instruction has become. -/
def inputName? (renamings : List Renaming) (p i : Nat) : Input → Option String
  | .account old =>
    find? renamings (fun
      | .instructionAccount q j _ => q = p && j = i
      | _ => false) old
  | .argument old =>
    find? renamings (fun
      | .instructionArgument q j _ => q = p && j = i
      | _ => false) old

/-- What a type name that a program links to has become. A type of the program shadows
    the shared type of its name. -/
def linkName? (renamings : List Renaming) (program : Program) (p : Nat) (old : String) :
    Option String :=
  match typeName? renamings p old with
  | some new => some new
  | none => if program.defines old then none else sharedTypeName? renamings old

end Renaming

/-- The same input under a new name. -/
def Input.withName (input : Input) (newName : String) : Input :=
  match input with
  | .account _ => .account newName
  | .argument _ => .argument newName

/-- The same input after a renaming of inputs. -/
def Input.rename (rename : Input → Option String) (input : Input) : Input :=
  match rename input with
  | some newName => input.withName newName
  | none => input

namespace DefaultValue

/-- The same default with the account of a derived address renamed. -/
def renameAccount (rename : String → Option String) : DefaultValue → DefaultValue
  | .pda owner seeds => .pda ((rename owner).getD owner) seeds
  | other => other

/-- The same default with the inputs it reads renamed. -/
def renameInputs (rename : Input → Option String) : DefaultValue → DefaultValue
  | .account name => .account ((rename (.account name)).getD name)
  | .argument name => .argument ((rename (.argument name)).getD name)
  | .pda owner seeds =>
    .pda owner (seeds.map fun binding => { binding with value := binding.value.rename rename })
  | other => other

end DefaultValue

-- ── what mentions a name ─────────────────────────────────────────────────────────

/-- Whether a default of an instruction derives the address of an account that passes a
    test. -/
def Instruction.derives (test : String → Bool) (instruction : Instruction) : Bool :=
  instruction.defaults.any fun
    | .pda owner _ => test owner
    | _ => false

/-- Whether a field of an account has a link that passes a test. -/
def Account.hasLink (test : String → Bool) (account : Account) : Bool :=
  account.fields.any fun f => f.type.hasLink test

/-- Whether an argument of an instruction has a link that passes a test. -/
def Instruction.hasLink (test : String → Bool) (instruction : Instruction) : Bool :=
  instruction.arguments.any fun a => a.type.hasLink test

/-- Whether a program has a link that passes a test, in accounts, instructions or types. -/
def Program.hasLink (test : String → Bool) (program : Program) : Bool :=
  program.accounts.any (·.hasLink test)
    || program.instructions.any (·.hasLink test)
    || program.definedTypes.any (fun t => t.type.hasLink test)

-- ── looking references up ────────────────────────────────────────────────────────

/-- The same account with the links of its fields looked up once. -/
def Account.mapLinks (rename : String → String) (account : Account) : Account :=
  { account with fields := TypeNode.mapFieldLinks rename account.fields }

/-- The same instruction with the links of its arguments looked up once. -/
def Instruction.mapLinks (rename : String → String) (instruction : Instruction) : Instruction :=
  { instruction with
    arguments := instruction.arguments.map fun a => { a with type := a.type.mapLinks rename } }

/-- The same defined type with its links looked up once. -/
def DefinedType.mapLinks (rename : String → String) (defined : DefinedType) : DefinedType :=
  { defined with type := defined.type.mapLinks rename }

/-- The same program with its links in accounts, instructions and types looked up once. -/
def Program.mapLinks (rename : String → String) (program : Program) : Program :=
  { program with
    accounts := program.accounts.map (·.mapLinks rename)
    instructions := program.instructions.map (·.mapLinks rename)
    definedTypes := program.definedTypes.map (·.mapLinks rename) }

-- ── rewriting what mentions a renamed node, and leaving the rest alone ───────────

/-- What an old name has become: its new name, or itself. -/
def nameAfter (renamed : String → Option String) (old : String) : String :=
  (renamed old).getD old

/-- The same account under renamed types; one that links to none of them is not touched. -/
def Account.renameLinks (renamed : String → Option String) (account : Account) : Account :=
  if account.hasLink fun name => (renamed name).isSome then
    account.mapLinks (nameAfter renamed)
  else account

/-- The same instruction under renamed types; one that links to none of them is not
    touched. -/
def Instruction.renameLinks (renamed : String → Option String) (instruction : Instruction) :
    Instruction :=
  if instruction.hasLink fun name => (renamed name).isSome then
    instruction.mapLinks (nameAfter renamed)
  else instruction

/-- The same defined type under renamed types; one that links to none of them is not
    touched. -/
def DefinedType.renameLinks (renamed : String → Option String) (defined : DefinedType) :
    DefinedType :=
  if defined.type.hasLink fun name => (renamed name).isSome then
    defined.mapLinks (nameAfter renamed)
  else defined

/-- The same program under renamed types; one that links to none of them is not touched, and
    neither are the nodes of another one that do not. -/
def Program.renameLinks (renamed : String → Option String) (program : Program) : Program :=
  if program.hasLink fun name => (renamed name).isSome then
    { program with
      accounts := program.accounts.map (·.renameLinks renamed)
      instructions := program.instructions.map (·.renameLinks renamed)
      definedTypes := program.definedTypes.map (·.renameLinks renamed) }
  else program

/-- The same instruction under renamed accounts; one that derives the address of none of them
    is not touched. -/
def Instruction.renameOwners (renamed : String → Option String) (instruction : Instruction) :
    Instruction :=
  if instruction.derives fun name => (renamed name).isSome then
    instruction.mapDefaults (·.renameAccount renamed)
  else instruction

-- ── applying ─────────────────────────────────────────────────────────────────────

/-- The same tree with another name for the node in a slot. -/
def Tree.setName (tree : Tree) (slot : Slot) (newName : String) : Tree :=
  match slot with
  | .program p => tree.modifyProgram p ({ · with name := newName })
  | .account p i => tree.modifyAccount p i ({ · with name := newName })
  | .definedType p i => tree.modifyDefinedType p i ({ · with name := newName })
  | .instruction p i => tree.modifyInstruction p i ({ · with name := newName })
  | .instructionAccount p i m =>
    tree.modifyInstruction p i fun instruction =>
      { instruction with accounts := instruction.accounts.modify m ({ · with name := newName }) }
  | .instructionArgument p i m =>
    tree.modifyInstruction p i fun instruction =>
      { instruction with
        arguments := instruction.arguments.modify m ({ · with name := newName }) }
  | .sharedType i => tree.modifySharedType i ({ · with name := newName })

namespace Renaming

/-- The references of an instruction in step with the renamings of its program. -/
def updateInstruction (renamings : List Renaming) (p i : Nat) (instruction : Instruction) :
    Instruction :=
  (instruction.renameOwners (accountName? renamings p)).mapDefaults
    (·.renameInputs (inputName? renamings p i))

/-- The references of a program in step with the renamings. `before` is the program as it
    was, which decides what its own types shadow. -/
def updateProgram (renamings : List Renaming) (before : Program) (p : Nat)
    (program : Program) : Program :=
  let updated := { program with
    instructions := program.instructions.zipIdx.map fun (instruction, i) =>
      updateInstruction renamings p i instruction }
  updated.renameLinks (linkName? renamings before p)

/-- The references of a tree in step with the renamings. -/
def updateReferences (renamings : List Renaming) (before tree : Tree) : Tree where
  programs := (tree.programs.zip before.programs).zipIdx.map fun ((program, before), p) =>
    updateProgram renamings before p program
  sharedTypes := tree.sharedTypes.map (·.renameLinks (sharedTypeName? renamings))

end Renaming

/-- The renamed tree: new names first, then every reference from its old name. -/
def Rename.apply (operation : Rename) (index : Index) : Except TransformError Tree := do
  let renamings := (← operation.plan index).filter (·.changes)
  let renamed := renamings.foldl (fun tree r => tree.setName r.slot r.newName) index.tree
  return Renaming.updateReferences renamings index.tree renamed

end Bindery
