import Bindery.Index
import Bindery.Operation.Basic

/-!
# Default values

A default narrows what a generated call builder asks its caller for. It never changes the
accounts or bytes that an instruction carries.

* **`InputTarget`** — the instruction account or argument that a rule is about.
* **`Literal.fits`** — whether a literal can stand for a value of a type.
* **`DefaultRule.resolve`** — the value that a rule stores, with every seed of a derived
  address bound; or why it does not apply.
* **`SetDefaults.apply`** — the tree with the values of all rules.
-/

namespace Bindery

/-- The target of a rule. -/
inductive InputTarget where
  | account (account : InstructionAccount)
  | argument (argument : InstructionArgument)
deriving DecidableEq

namespace InputTarget

/-- The target as an input of its instruction. -/
def input : InputTarget → Input
  | .account a => .account a.name
  | .argument a => .argument a.name

/-- Whether the target can hold an address. -/
def holdsAddress : InputTarget → Bool
  | .account _ => true
  | .argument a => a.type.unwrapOption = .publicKey

/-- Whether the target can be left empty. -/
def canBeAbsent : InputTarget → Bool
  | .account a => a.isOptional
  | .argument a => a.type.isOption

end InputTarget

/-- Whether a literal can stand for a value of a type. Under a link any literal can. -/
def Literal.fitsType : Literal → TypeNode → Bool
  | _, .link _ => true
  | .number _, .number _ => true
  | .boolean _, .boolean => true
  | .string _, .string => true
  | .publicKey _, .publicKey => true
  | .bytes _, .bytes => true
  | .bytes _, .fixedSize _ _ => true
  | _, _ => false

/-- Whether a literal can stand for a value of a target; an account takes an address. -/
def Literal.fits (literal : Literal) : InputTarget → Bool
  | .account _ =>
    match literal with
    | .publicKey _ => true
    | _ => false
  | .argument a => literal.fitsType a.type.unwrapOption

/-- Whether an input is an optional account. -/
def Instruction.isOptionalAccount (instruction : Instruction) : Input → Bool
  | .account name => (instruction.account? name).any (·.isOptional)
  | .argument _ => false

namespace DefaultRule

/-- Check a reference to another input. -/
def checkReference (target : NodePath) (instruction : Instruction) (of : InputTarget)
    (input : Input) : Except TransformError Unit := do
  if !instruction.takes input then throw (.defaultMissing target (.input input))
  if input = of.input then throw (.defaultIncompatible target .readsItself)
  match input with
  | .account _ =>
    if !of.holdsAddress then throw (.defaultIncompatible target .accountNeedsAddress)
  | .argument _ => pure ()
  if instruction.isOptionalAccount input then
    throw (.defaultIncompatible target .readsOptional)

/-- The binding of a variable seed: the given one, else the account of its name, else the
    argument of its name. -/
def bindSeed (target : NodePath) (instruction : Instruction) (given : List SeedBinding)
    (seed : VariableSeed) : Except TransformError SeedBinding :=
  match given.find? (·.seed = seed.name) with
  | some binding => .ok binding
  | none =>
    match [Input.account seed.name, Input.argument seed.name].find? instruction.takes with
    | some input => .ok ⟨seed.name, input⟩
    | none => .error (.defaultMissing target (.seedInput seed.name))

/-- Check that a seed can be taken from an input. -/
def checkBinding (target : NodePath) (instruction : Instruction) (of : InputTarget)
    (binding : SeedBinding) : Except TransformError Unit := do
  if !instruction.takes binding.value then
    throw (.defaultMissing target (.input binding.value))
  if binding.value = of.input then throw (.defaultIncompatible target .seededByItself)
  if instruction.isOptionalAccount binding.value then
    throw (.defaultIncompatible target .seededByOptional)

/-- The bindings of a derived address, one for each variable seed of the recipe. -/
def bindSeeds (index : Index) (target : NodePath) (instruction : Instruction)
    (of : InputTarget) (owner : String) (given : List SeedBinding) :
    Except TransformError (List SeedBinding) := do
  if !of.holdsAddress then throw (.defaultIncompatible target .pdaNeedsAddress)
  let some program := target.programName? | throw (.unresolved target)
  let account ← match index.account (.account program owner) with
    | .ok (account, _) => pure account
    | .error _ => throw (.defaultMissing target (.account owner))
  if account.seeds.isNone then throw (.defaultMissing target (.recipe owner))
  let recipe := account.seedInputs
  match given.find? fun binding => !recipe.any (·.name = binding.seed) with
  | some binding => throw (.defaultMissing target (.seed binding.seed owner))
  | none => pure ()
  recipe.mapM fun seed => do
    let binding ← bindSeed target instruction given seed
    checkBinding target instruction of binding
    return binding

/-- The value that a rule stores at a target of an instruction. -/
def resolve (index : Index) (rule : DefaultRule) (instruction : Instruction)
    (of : InputTarget) : Except TransformError DefaultValue := do
  match rule.value with
  | .absent =>
    if of.canBeAbsent then return .absent
    else throw (.defaultIncompatible rule.target .absentNeedsOption)
  | .programId =>
    if of.holdsAddress then return .programId
    else throw (.defaultIncompatible rule.target .programIdNeedsAddress)
  | .literal literal =>
    if literal.fits of then return .literal literal
    else throw (.defaultIncompatible rule.target .literalMismatch)
  | .account name =>
    checkReference rule.target instruction of (.account name)
    return .account name
  | .argument name =>
    checkReference rule.target instruction of (.argument name)
    return .argument name
  | .pda owner seeds =>
    return .pda owner (← bindSeeds index rule.target instruction of owner seeds)

/-- The target that an entry is. -/
def targetOf (rule : DefaultRule) (entry : Entry) : Except TransformError InputTarget :=
  match entry.node with
  | .instructionAccount a => .ok (.account a)
  | .instructionArgument a => .ok (.argument a)
  | _ => .error (.invalidSelector rule.target .instructionInput)

end DefaultRule

/-- The same tree with a default value for the input in a slot. -/
def Tree.setDefault (tree : Tree) (slot : Slot) (value : DefaultValue) : Tree :=
  match slot with
  | .instructionAccount p i m =>
    tree.modifyInstruction p i fun instruction =>
      { instruction with
        accounts := instruction.accounts.modify m ({ · with defaultValue := some value }) }
  | .instructionArgument p i m =>
    tree.modifyInstruction p i fun instruction =>
      { instruction with
        arguments := instruction.arguments.modify m ({ · with defaultValue := some value }) }
  | _ => tree

/-- The slot and the value of a rule, in the tree the operation received. -/
def DefaultRule.settle (index : Index) (rule : DefaultRule) :
    Except TransformError (Slot × DefaultValue) := do
  let entry ← index.resolve rule.target
  let target ← rule.targetOf entry
  let some parent := rule.target.parent? | throw (.unresolved rule.target)
  let (instruction, _) ← index.instruction parent
  return (entry.slot, ← rule.resolve index instruction target)

/-- The tree with the values of all rules. Each rule is checked against the tree that the
    operation received. -/
def SetDefaults.apply (operation : SetDefaults) (index : Index) : Except TransformError Tree :=
  List.foldlM
    (fun tree rule => do
      let (slot, value) ← DefaultRule.settle index rule
      return tree.setDefault slot value)
    index.tree operation.rules

end Bindery
