import Bindery.Description.Load
import Bindery.Operation.Defaults
import Bindery.Operation.Discriminators
import Bindery.Operation.Rename
import Bindery.Operation.Seeds

/-!
# The pipeline

Load a tree, then apply named operations strictly in order. Each operation sees the index
of the tree before it, and the first failure ends the run.

* **`Operation.apply`** — one step.
* **`Pipeline.run`** — the stages of a run, the base tree first.
-/

namespace Bindery

/-- The tree after an operation. -/
def Operation.apply (operation : Operation) (index : Index) : Except TransformError Tree :=
  match operation with
  | .rename op => op.apply index
  | .setSeeds op => op.apply index
  | .assignDiscriminators op => op.apply index
  | .setDefaults op => op.apply index

/-- A tree and the operation that produced it; the base tree has none. -/
structure Stage where
  operation : Option String
  tree : Tree
deriving DecidableEq

/-- An operation that failed, with its position in the run, counted from one. -/
structure FailedStep where
  operation : String
  position : Nat
  cause : TransformError
deriving DecidableEq

/-- The wording of a failed step. -/
def FailedStep.message (step : FailedStep) : String :=
  s!"operation `{step.operation}` (step {step.position}) failed: {step.cause.message}"

/-- Why a run fails. -/
inductive PipelineError where
  | load (error : LoadError)
  | operation (step : FailedStep)
deriving DecidableEq

/-- The wording of a pipeline error. -/
def PipelineError.message : PipelineError → String
  | .load error => error.message
  | .operation step => step.message

namespace Pipeline

/-- The stages behind a tree, for the operations from a position on. -/
def runFrom : (position : Nat) → Tree → List NamedOperation → Except FailedStep (List Stage)
  | _, _, [] => .ok []
  | position, tree, named :: rest =>
    match named.operation.apply (Index.of tree) with
    | .error cause => .error ⟨named.name, position, cause⟩
    | .ok next => do
      return ⟨some named.name, next⟩ :: (← runFrom (position + 1) next rest)

/-- Every stage of a run over a tree, the tree itself first. -/
def run (base : Tree) (operations : List NamedOperation) : Except FailedStep (List Stage) := do
  return ⟨none, base⟩ :: (← runFrom 1 base operations)

/-- The last tree of a run. -/
def finalTree (base : Tree) (stages : List Stage) : Tree :=
  match stages.getLast? with
  | some stage => stage.tree
  | none => base

/-- Every stage of a run over documents. -/
def runDocuments (documents : List Document) (operations : List NamedOperation) :
    Except PipelineError (List Stage) := do
  let base ← (Tree.load documents).mapError .load
  (run base operations).mapError .operation

end Pipeline

end Bindery
