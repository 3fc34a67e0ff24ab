import Bindery.Pipeline
import Bindery.Publication
import Bindery.Signature

/-!
# The commands

What can be done with a configuration file: publish the result of its pipeline, show the
tree after one of its operations, or tabulate the inputs of its call builders.

* **`Workspace.generate`**, **`Workspace.inspect`**, **`Workspace.check`** — the commands.
* **`CommandError`** — why a command fails; **`CommandError.message`** words it.
-/

namespace Bindery

/-- Why a command fails. -/
inductive CommandError where
  | configuration (error : ConfigurationError)
  | pipeline (error : PipelineError)
  | render (error : RenderError)
  | stageOutOfRange (requested last : Nat)
  | unwritable (path : String) (fault : FileFault)
  | targetsFailed (failed total : Nat)
deriving DecidableEq

/-- The wording of a command error. -/
def CommandError.message : CommandError → String
  | .configuration error => error.message
  | .pipeline error => error.message
  | .render error => error.message
  | .stageOutOfRange requested last =>
    s!"Stage {requested} does not exist; the pipeline produced stages 0 to {last}"
  | .unwritable path fault => s!"Failed to write {path}: {fault.message}"
  | .targetsFailed failed total => s!"{failed} of {total} target(s) failed"

namespace Workspace

variable {m : Type → Type} [Monad m] [FileSystem m] [Programs m]

/-- Read a configuration file. Its paths are resolved against its directory. -/
def configuration (path : String) : ExceptT CommandError m Configuration := do
  let text ← (FileSystem.read path).adapt fun fault =>
    CommandError.configuration (.unreadable path fault)
  let written ← (Configuration.ofText path text).mapError CommandError.configuration
  return written.resolve ((FilePath.parent? path).getD "")

/-- Read descriptions; each is labelled with its path. -/
def documents : List String → ExceptT LoadError m (List Document)
  | [] => return []
  | path :: paths => do
    let text ← (FileSystem.read path).adapt (LoadError.unreadable path)
    return ⟨path, text⟩ :: (← documents paths)

/-- Every stage of the pipeline of a configuration. -/
def stages (configuration : Configuration) : ExceptT CommandError m (List Stage) := do
  let documents ← (documents configuration.descriptions).adapt fun error =>
    CommandError.pipeline (.load error)
  (Pipeline.runDocuments documents configuration.operations).mapError CommandError.pipeline

/-- The last tree of a run of stages, of which there is always one. -/
def finalTree (stages : List Stage) : Tree := Pipeline.finalTree ⟨[], []⟩ stages

/-- Run the pipeline of a configuration and publish its last tree to the targets in
    `only`, or to all if it names none. -/
def generate (path : String) (only : List String) :
    ExceptT CommandError m (List PublicationOutcome) := do
  let configuration ← configuration path
  let publications ← (configuration.publications only).mapError CommandError.render
  let stages ← stages configuration
  Publication.runAll (m := m) (finalTree stages) publications

/-- The tree after an operation as indented JSON: stage 0 is the loaded tree, stage `n`
    the tree after the `n`-th operation. Without a number it is the last tree. -/
def inspect (path : String) (number : Option Nat) : ExceptT CommandError m String := do
  let stages ← stages (← configuration path)
  let last := stages.length - 1
  let number := number.getD last
  match stages[number]? with
  | some stage => return stage.tree.encode.pretty ++ "\n"
  | none => throw (.stageOutOfRange number last)

/-- The table of the signatures of the last tree. -/
def check (path : String) : ExceptT CommandError m String := do
  let stages ← stages (← configuration path)
  return (finalTree stages).signatureTable.draw

end Workspace

end Bindery
