import Bindery.Artifacts
import Bindery.Configuration

/-!
# Publishing a tree

A publication renders a tree for its target, writes the files, and runs the formatter of
the target if there is one. A rendering that fails leaves the files as they were. What the
formatter is and does is up to the machine.

* **`Publication.run`** — one publication.
* **`Publication.runAll`** — every publication of a list, each on its own: one that fails
  does not stop the others.
-/

namespace Bindery

/-- How a publication ended. -/
structure PublicationOutcome where
  target : Target
  output : String
  result : Except RenderError Changes

namespace Publication

variable {m : Type → Type} [Monad m] [FileSystem m] [Programs m]

/-- The words of the command that formats the files, none if they are left as they are. -/
def formatter (publication : Publication) : Except RenderError (List String) :=
  match publication.target with
  | .package =>
    if publication.options.formatCode then Package.formatter publication.options else .ok []
  | .crate | .interchange => .ok []

/-- Run a formatter over a directory. -/
def format (output : String) : List String → ExceptT RenderError m Unit
  | [] => return
  | program :: arguments => do
    let command := " ".intercalate (program :: arguments) ++ " " ++ output
    let outcome ← (Programs.run program (arguments ++ [output])).adapt
      (RenderError.commandNotRun command)
    if outcome.status ≠ some 0 then
      let err := Text.trim outcome.err
      throw (.commandFailed command outcome.status
        (if err = "" then Text.trim outcome.out else err))

/-- Render a tree and write its files. -/
def run (tree : Tree) (publication : Publication) : ExceptT RenderError m Changes := do
  let files ← publication.target.render tree publication.options
  let changes ← files.write publication.output
  format publication.output (← publication.formatter)
  return changes

/-- Publish a tree everywhere. -/
def runAll (tree : Tree) : List Publication → m (List PublicationOutcome)
  | [] => return []
  | publication :: others => do
    let result ← (publication.run tree).run
    return ⟨publication.target, publication.output, result⟩ :: (← runAll tree others)

end Publication

end Bindery
